/-
How often a loop can go round.

Without functions of the embedding program the only thing that a round of a loop can change, and
that a later round can notice, is that abilities and items are used up. A round that uses up none
is followed by another just like it, and so without end. A loop that ends has used up something in
each of its rounds, so there are at most as many rounds as there were things to use up.
-/
import RiftScript.Proofs.Game.Effects
import RiftScript.Proofs.Running.Lockstep

namespace RiftScript

/-! ## What is left to use up -/

namespace Collection

/-- The number of elements, for a set. Nothing can be taken from other collections. -/
def size : Collection → Nat
  | set s => s.elements.length
  | _ => 0

theorem size_without_le (c : Collection) (texts : List String) :
    (c.without texts).size ≤ c.size := by
  cases c with
  | set s => exact List.length_filter_le _ _
  | other d => exact Nat.le_refl _
  | missing => exact Nat.le_refl _

theorem without_eq_self {c : Collection} {texts : List String}
    (h : c.size ≤ (c.without texts).size) : c.without texts = c := by
  cases c with
  | set s =>
    have hlength := Nat.le_antisymm (List.length_filter_le _ _) h
    have hkeep := List.length_filter_eq_length_iff.mp hlength
    exact congrArg (fun elements => set ⟨elements⟩) (List.filter_eq_self.mpr hkeep)
  | other d => rfl
  | missing => rfl

end Collection

namespace GameState

/-- The number of abilities and items that are ready. -/
def ready (s : GameState) : Nat :=
  s.readyAbilities.size + s.readyItems.size

theorem without_eq_self {s : GameState} {abilities items : List String}
    (h : s.ready ≤ (s.without abilities items).ready) : s.without abilities items = s := by
  have habilities := s.readyAbilities.size_without_le abilities
  have hitems := s.readyItems.size_without_le items
  unfold ready without at h
  unfold without
  rw [Collection.without_eq_self (c := s.readyAbilities) (by dsimp only at h; omega),
    Collection.without_eq_self (c := s.readyItems) (by dsimp only at h; omega)]

end GameState

/-! ## Games in which things have been used up -/

namespace Game

/-- The second game is the first with some abilities and items used up and with other records. -/
def Spends (g g' : Game) : Prop :=
  ∃ abilities items records,
    g' = { g with state := g.state.without abilities items, actions := records }

theorem spends_of_state {g g' : Game} {records : Array ActionRecord}
    (h : g' = { g with actions := records }) : g.Spends g' :=
  ⟨[], [], records, by rw [h, GameState.without_nil]⟩

theorem Spends.refl (g : Game) : g.Spends g :=
  spends_of_state rfl

theorem Spends.trans {g g' g'' : Game} (h : g.Spends g') (h' : g'.Spends g'') : g.Spends g'' := by
  obtain ⟨abilities, items, records, rfl⟩ := h
  obtain ⟨abilities', items', records', rfl⟩ := h'
  exact ⟨abilities ++ abilities', items ++ items', records', by rw [GameState.without_without]⟩

theorem perform_spends (g : Game) (callee : Token) (a : Action) (arguments : List Value) :
    g.Spends (g.perform callee a arguments).host := by
  have hspent := spent_eq g.state a arguments callee.line
  unfold spent at hspent
  unfold perform
  dsimp only
  split
  · exact spends_of_state rfl
  · cases hspend : spend g.state a arguments with
    | ok s =>
      rw [hspend] at hspent
      exact ⟨_, _, _, by rw [← hspent]; rfl⟩
    | error fault => exact spends_of_state rfl

theorem call_spends {g : Game} (hg : g.functions = []) (callee : Token) (arguments : List Value) :
    g.Spends (call callee arguments g).host := by
  rcases call_cases hg callee arguments with ⟨a, -, hcall⟩ | ⟨reply, hcall⟩
  · rw [hcall]
    exact g.perform_spends callee a arguments
  · rw [hcall]
    exact Spends.refl g

theorem Spends.functions {g g' : Game} (h : g.Spends g') : g'.functions = g.functions := by
  obtain ⟨_, _, _, rfl⟩ := h
  rfl

end Game

/-- Scripts use up abilities and items. -/
def spending : Contract Game where
  holds m := m.host.functions = []
  leads m m' := m.host.Spends m'.host
  allows _ := True
  values _ := True
  failures _ := True
  refl m := .refl m.host
  trans h h' := h.trans h'
  emit hm _ _ := ⟨hm, .refl _⟩
  declare hm _ := ⟨hm, .refl _⟩
  plain _ := trivial
  literal _ := trivial
  script _ := trivial
  unfinished := trivial

theorem accepts_of_spends {token : Token} {m : Machine Game} {a : Answer Game}
    (hm : m.host.functions = []) (h : m.host.Spends a.host) : spending.Accepts token m a where
  holds := h.functions.trans hm
  leads := h
  settles := by cases a.reply.bind (Run.valueAt token) <;> trivial

theorem honours_spending : Game.resolver.Honours spending where
  lookup := by
    intro m hm name _
    obtain ⟨reply, hlookup⟩ := Game.lookup_quiet name m.host
    refine accepts_of_spends hm ?_
    show m.host.Spends (Game.lookup name m.host).host
    rw [hlookup]
    exact .refl _
  call := by
    intro m hm callee _ arguments _
    exact accepts_of_spends hm (Game.call_spends hm callee arguments)

/-! ## Games that scripts cannot tell apart -/

namespace Game

/-- The game with other records of actions. No script can tell the two apart. -/
def withActions (g : Game) (records : Array ActionRecord) : Game :=
  { g with actions := records }

theorem lookup_withActions (name : Token) (g : Game) (records : Array ActionRecord) :
    (lookup name (g.withActions records)).reply = (lookup name g).reply := by
  unfold lookup withActions
  dsimp only
  split
  · rfl
  · split <;> rfl

theorem query_withActions (g : Game) (callee : Token) (arguments : List Value) (q : Query)
    (records : Array ActionRecord) :
    ((g.withActions records).query callee arguments q).reply =
      (g.query callee arguments q).reply := by
  cases q with
  | getHealth | getMana | nearestEnemy =>
    simp only [query, plainQuery]
    split <;> rfl
  | enemyInRange | allyInRange =>
    simp only [query, numberQuery]
    split <;> rfl
  | hasBuff | itemReady | cooldownReady =>
    simp only [query, textQuery]
    split <;> rfl

theorem perform_withActions (g : Game) (callee : Token) (a : Action) (arguments : List Value)
    (records : Array ActionRecord) :
    ((g.withActions records).perform callee a arguments).reply =
        (g.perform callee a arguments).reply ∧
      ∃ records', ((g.withActions records).perform callee a arguments).host =
        (g.perform callee a arguments).host.withActions records' := by
  unfold perform withActions
  dsimp only
  split
  · exact ⟨rfl, _, rfl⟩
  · cases spend g.state a arguments <;> exact ⟨rfl, _, rfl⟩

theorem call_withActions {g : Game} (hg : g.functions = []) (callee : Token)
    (arguments : List Value) (records : Array ActionRecord) :
    (call callee arguments (g.withActions records)).reply = (call callee arguments g).reply ∧
      ∃ records', (call callee arguments (g.withActions records)).host =
        (call callee arguments g).host.withActions records' := by
  have hg' : (g.withActions records).functions = [] := hg
  unfold call
  rw [hg, hg', List.lookup_nil]
  cases callee.kind with
  | action a => exact g.perform_withActions callee a arguments records
  | query q =>
    refine ⟨g.query_withActions callee arguments q records, records, ?_⟩
    obtain ⟨reply, h⟩ := g.query_quiet callee arguments q
    obtain ⟨reply', h'⟩ := (g.withActions records).query_quiet callee arguments q
    dsimp only
    rw [h, h']
  | _ => exact ⟨rfl, records, rfl⟩

end Game

/-- The games of the machines differ in the actions on record only, and have no functions. -/
def Machine.Alike (m n : Machine Game) : Prop :=
  m.host.functions = [] ∧ ∃ records, n.host = m.host.withActions records

theorem respects_alike : Game.resolver.Respects Machine.Alike where
  declare h _ := h
  lookup := by
    rintro m n ⟨hm, records, hn⟩ name
    obtain ⟨reply, hquiet⟩ := Game.lookup_quiet name m.host
    obtain ⟨reply', hquiet'⟩ := Game.lookup_quiet name n.host
    refine ⟨?_, ?_, records, ?_⟩
    · show (Game.lookup name m.host).reply = (Game.lookup name n.host).reply
      rw [hn, Game.lookup_withActions]
    · show (Game.lookup name m.host).host.functions = []
      rw [hquiet]
      exact hm
    · show (Game.lookup name n.host).host = (Game.lookup name m.host).host.withActions records
      rw [hquiet, hquiet']
      exact hn
  call := by
    rintro m n ⟨hm, records, hn⟩ callee arguments
    obtain ⟨hreply, records', hhost⟩ := Game.call_withActions hm callee arguments records
    refine ⟨?_, ?_, records', ?_⟩
    · show (Game.call callee arguments m.host).reply = (Game.call callee arguments n.host).reply
      rw [hn, hreply]
    · exact (Game.call_spends hm callee arguments).functions.trans hm
    · show (Game.call callee arguments n.host).host = _
      rw [hn]
      exact hhost

/-! ## Loops -/

section Loops

variable {condition : Expr} {body : List Stmt} {rounds : Nat}

/-- A round uses something up, unless it leaves all that scripts can tell as it was. -/
theorem round_cases {m next : Machine Game} (hm : m.host.functions = [])
    (h : Rounds (condition.evaluate Game.resolver) (executeAll Game.resolver rounds body) 1 m
      next) :
    next.host.functions = [] ∧ (next.host.state.ready < m.host.state.ready ∨ m.Alike next) := by
  obtain ⟨hnext, abilities, items, records, hhost⟩ := h.keeps
    (condition.evaluate_obeys honours_spending fun _ _ => trivial)
    (executeAll_obeys honours_spending rounds body fun _ _ => trivial) hm
  refine ⟨hnext, ?_⟩
  by_cases hless : next.host.state.ready < m.host.state.ready
  · exact .inl hless
  · right
    have hstate : m.host.state.without abilities items = m.host.state :=
      GameState.without_eq_self (by rw [hhost] at hless; exact Nat.le_of_not_lt hless)
    exact ⟨hm, records, by rw [hhost, hstate]; rfl⟩

theorem count_le_ready {count bound : Nat} {m last : Machine Game} (hm : m.host.functions = [])
    (h : Rounds (condition.evaluate Game.resolver) (executeAll Game.resolver rounds body) count m
      last)
    (hends : ¬ Run.Unfinished (repeatWhile (condition.evaluate Game.resolver)
      (executeAll Game.resolver rounds body) bound m)) :
    count ≤ m.host.state.ready := by
  induction h generalizing bound with
  | zero => exact Nat.zero_le _
  | @succ count m tested done last v ht hv hb hrest ih =>
    have hround := rounds_one_iff.mpr ⟨v, tested, ht, hv, hb⟩
    -- A round that uses up nothing repeats without end, and this loop ends.
    obtain ⟨hdone, hless | halike⟩ := round_cases hm hround
    · cases bound with
      | zero => exact absurd ⟨m, rfl⟩ hends
      | succ bound =>
        rw [repeatWhile_of_round ht hv hb] at hends
        have := ih hdone hends
        omega
    · exact absurd (unfinished_of_round (condition.evaluate_lockstep respects_alike)
        (executeAll_lockstep respects_alike rounds body) hround halike bound) hends

end Loops

/-- A loop that ends has completed no more rounds than there were abilities and items ready when it
was entered. One that has completed more never ends, whatever bound it is given. -/
theorem loop_rounds_le_ready (condition : Expr) (body : List Stmt) (m : Machine Game)
    (hm : m.host.functions = []) :
    (∀ rounds, ¬ Run.Unfinished ((Stmt.loop condition body).execute Game.resolver rounds m) →
      ∃ count last,
        Rounds (condition.evaluate Game.resolver) (executeAll Game.resolver rounds body) count m
          last ∧
        (∀ next, ¬ Rounds (condition.evaluate Game.resolver)
          (executeAll Game.resolver rounds body) 1 last next) ∧
        count ≤ m.host.state.ready) ∧
    (∀ bound count last,
      Rounds (condition.evaluate Game.resolver) (executeAll Game.resolver bound body) count m last →
      m.host.state.ready < count →
      ∀ rounds, Run.Unfinished ((Stmt.loop condition body).execute Game.resolver rounds m)) := by
  constructor
  · intro rounds hends
    rw [Stmt.execute] at hends
    obtain ⟨count, last, hrounds, hlast⟩ := exists_rounds hends
    exact ⟨count, last, hrounds, hlast, count_le_ready hm hrounds hends⟩
  · intro bound count last hrounds hmore rounds
    -- Under a bound that allows for both the rounds and the loop, the loop cannot have ended.
    have hextends := Stmt.execute_extends (r := Game.resolver) (Nat.le_max_right bound rounds)
      (.loop condition body) m
    have hrounds' := hrounds.extend
      (executeAll_extends (r := Game.resolver) (Nat.le_max_left bound rounds) body)
    rcases hextends with hcut | hsame
    · exact hcut
    · rw [← hsame, Stmt.execute]
      apply Decidable.byContradiction
      intro hends
      exact absurd (count_le_ready hm hrounds' hends) (Nat.not_le_of_lt hmore)

/-- Whether the ability Q is ready. -/
def readyQ : Expr :=
  .call ⟨.query .cooldownReady, "cooldownReady", .nil, 1, 8, 7⟩ [.literal (.text "Q") 1]

def castQ : List Stmt :=
  [.expression (.call ⟨.action .cast, "cast", .nil, 1, 30, 29⟩ [.literal (.text "Q") 1])]

theorem loop_rounds_le_ready_ended_and_endless :
    ambushed.host.functions = [] ∧ ambushed.host.state.ready = 3 ∧
      (∃ count last,
        Rounds (readyQ.evaluate Game.resolver) (executeAll Game.resolver 2 castQ) count ambushed
          last ∧
        (∀ next, ¬ Rounds (readyQ.evaluate Game.resolver) (executeAll Game.resolver 2 castQ) 1 last
          next) ∧
        count ≤ 3) ∧
      ∀ rounds, Run.Unfinished
        ((Stmt.loop (.literal (.boolean true) 1) []).execute Game.resolver rounds ambushed) := by
  have hends : ¬ Run.Unfinished ((Stmt.loop readyQ castQ).execute Game.resolver 2 ambushed) := by
    decide +kernel
  have hrounds : Rounds ((Expr.literal (.boolean true) 1).evaluate Game.resolver)
      (executeAll Game.resolver 0 []) 4 ambushed ambushed :=
    .succ rfl rfl rfl (.succ rfl rfl rfl (.succ rfl rfl rfl (.succ rfl rfl rfl .zero)))
  exact ⟨rfl, rfl, (loop_rounds_le_ready readyQ castQ ambushed rfl).1 2 hends,
    (loop_rounds_le_ready (.literal (.boolean true) 1) [] ambushed rfl).2 0 4 ambushed hrounds
      (by decide)⟩

end RiftScript
