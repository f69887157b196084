/-
Which failures can end a run.

An error of the script ends one top-level statement and the run goes on with the next. Whatever the
embedding program supplies, all that can go wrong with it is such an error, with two exceptions: a
whole number that is too large for a float ends the whole run, and so does a host function that
aborts. The statements that follow are then never reached.
-/
import Mathlib.Algebra.Group.Int.Defs
import RiftScript.Proofs.Game.Effects

namespace RiftScript

/-! ## Data that are supplied -/

/-- Unknown or a float, as amounts and distances are. -/
def Datum.IsAmount : Datum → Prop
  | null | float _ => True
  | _ => False

def Collection.IsSet (c : Collection) : Prop :=
  ∃ s, c = set s

/-- Amounts and collections are what they should be, and the nearest enemy is among the data. -/
structure GameState.Supplies (data : Datum → Prop) (s : GameState) : Prop where
  health : s.health.IsAmount
  mana : s.mana.IsAmount
  enemyDistance : s.enemyDistance.IsAmount
  allyDistance : s.allyDistance.IsAmount
  nearestEnemy : data s.nearestEnemy
  buffs : s.buffs.IsSet
  readyItems : s.readyItems.IsSet
  readyAbilities : s.readyAbilities.IsSet

/-- Called with values, the function leaves such a state, and what it returns is among the data. It
may also fail. -/
def HostFunction.Supplies (data : Datum → Prop) (f : HostFunction) : Prop :=
  ∀ memory arguments state, (∀ v ∈ arguments, v.isForeign = false) → state.Supplies data →
    (f.step memory arguments state).state.Supplies data ∧
      ∀ d, (f.step memory arguments state).reply = .value d → data d

structure Game.Supplies (data : Datum → Prop) (g : Game) : Prop where
  globals : ∀ entry ∈ g.globals, data entry.2
  functions : ∀ entry ∈ g.functions, entry.2.Supplies data
  state : g.state.Supplies data

/-- Called with values, the function may abort. -/
def HostFunction.CanAbort (f : HostFunction) : Prop :=
  ∃ memory arguments state, (∀ v ∈ arguments, v.isForeign = false) ∧
    (f.step memory arguments state).reply = .abort

def Game.CanAbort (g : Game) : Prop :=
  ∃ entry ∈ g.functions, entry.2.CanAbort

/-- An error of the script or the bound on rounds, or else a whole number among the data that is
too large, or a call that was aborted. -/
def Failure.IsFrom (data : Datum → Prop) (aborts : Prop) : Failure → Prop
  | script _ | unfinished => True
  | host fault => fault = .tooLarge ∧ ∃ n, data (.int n) ∧ Number.ofInt? n = none
  | aborted => aborts

/-- Scripts fail by errors of their own, by large numbers and by calls that are aborted only. -/
def supplied (data : Datum → Prop) (aborts : Prop) : Contract Game where
  holds m := m.host.Supplies data ∧ (m.host.CanAbort → aborts)
  leads _ _ := True
  allows
    | .name _ => True
    | .literal v => v.isForeign = false
  values v := v.isForeign = false
  failures := Failure.IsFrom data aborts
  refl _ := trivial
  trans _ _ := trivial
  emit hm _ _ := ⟨hm, trivial⟩
  declare hm _ := ⟨hm, trivial⟩
  plain h := h
  literal h := h
  script _ := trivial
  unfinished := trivial

/-! ## Answers -/

section Answers

variable {data : Datum → Prop} {aborts : Prop}

theorem settles_valueAt {d : Datum} (hd : data d) (token : Token) :
    (supplied data aborts).Settles (fun v => v.isForeign = false) (Run.valueAt token d) := by
  cases hvalue : Run.valueAt token d with
  | ok v => exact Run.isForeign_of_valueAt hvalue
  | error f =>
    -- Data of the other types are values, or of a type that the script is told about.
    cases d with
    | int n =>
      cases hn : Number.ofInt? n with
      | some x =>
        simp only [Run.valueAt, Value.ofDatum, hn] at hvalue
        cases hvalue
      | none =>
        simp only [Run.valueAt, Value.ofDatum, hn] at hvalue
        cases hvalue
        exact ⟨rfl, n, hd, hn⟩
    | _ => cases hvalue <;> trivial

theorem settles_amount {d : Datum} (hd : d.IsAmount) (token : Token) :
    (supplied data aborts).Settles (fun v => v.isForeign = false) (Run.valueAt token d) := by
  cases d with
  | null | float => rfl
  | _ => cases hd

theorem Value.valueAt_toDatum {v : Value} (h : v.isForeign = false) (token : Token) :
    Run.valueAt token v.toDatum = .ok v := by
  cases v with
  | foreign d => cases h
  | _ => rfl

/-- An answer without effect keeps to the contract if its reply does. -/
theorem accepts_quiet {token : Token} {m : Machine Game} {a : Answer Game}
    (hm : (supplied data aborts).holds m) (hquiet : m.host.Quiet a)
    (hreply : (supplied data aborts).Settles (fun v => v.isForeign = false)
      (a.reply.bind (Run.valueAt token))) : (supplied data aborts).Accepts token m a := by
  obtain ⟨reply, rfl⟩ := hquiet
  exact ⟨hm, trivial, hreply⟩

theorem accepts_lookup {m : Machine Game} (hm : (supplied data aborts).holds m) (name : Token) :
    (supplied data aborts).Accepts name m (Game.lookup name m.host) := by
  refine accepts_quiet hm (Game.lookup_quiet name m.host) ?_
  unfold Game.lookup
  split
  · rfl
  · split
    · next d hlookup =>
      obtain ⟨before, after, hglobals, _⟩ := List.lookup_eq_some_iff.mp hlookup
      exact settles_valueAt (hm.1.globals (name.lexeme, d) (by simp [hglobals])) name
    · trivial

/-! ### Queries -/

theorem settles_plainQuery {callee : Token} {d : Datum}
    (h : (supplied data aborts).Settles (fun v => v.isForeign = false) (Run.valueAt callee d)) (g : Game)
    (arguments : List Value) : (supplied data aborts).Settles (fun v => v.isForeign = false)
      ((g.plainQuery callee arguments d).reply.bind (Run.valueAt callee)) := by
  unfold Game.plainQuery
  split
  · exact h
  · trivial

theorem settles_numberQuery {f : Float → Except Failure Bool} (h : ∀ x, ∃ b, f x = .ok b)
    (g : Game) (callee : Token) (arguments : List Value) :
    (supplied data aborts).Settles (fun v => v.isForeign = false)
      ((g.numberQuery callee arguments f).reply.bind (Run.valueAt callee)) := by
  unfold Game.numberQuery
  split
  · next x =>
    obtain ⟨b, hb⟩ := h x
    rw [hb]
    rfl
  · trivial
  · trivial

theorem settles_textQuery {f : String → Except DatumFault Bool} (h : ∀ s, ∃ b, f s = .ok b)
    (g : Game) (callee : Token) (arguments : List Value) :
    (supplied data aborts).Settles (fun v => v.isForeign = false)
      ((g.textQuery callee arguments f).reply.bind (Run.valueAt callee)) := by
  unfold Game.textQuery
  split
  · next s =>
    obtain ⟨b, hb⟩ := h s
    rw [hb]
    rfl
  · trivial
  · trivial

theorem exists_within {d : Datum} (hd : d.IsAmount) (x : Float) :
    ∃ b, Game.within d x = .ok b := by
  cases d with
  | null | float => exact ⟨_, rfl⟩
  | _ => cases hd

theorem Collection.exists_hasText {c : Collection} (hc : c.IsSet) (t : String) :
    ∃ b, c.hasText t = .ok b := by
  obtain ⟨s, rfl⟩ := hc
  exact ⟨_, rfl⟩

theorem accepts_query {m : Machine Game} (hm : (supplied data aborts).holds m) (callee : Token)
    (arguments : List Value) (q : Query) :
    (supplied data aborts).Accepts callee m (m.host.query callee arguments q) := by
  refine accepts_quiet hm (m.host.query_quiet callee arguments q) ?_
  have hs := hm.1.state
  cases q with
  | getHealth => exact settles_plainQuery (settles_amount hs.health callee) _ _
  | getMana => exact settles_plainQuery (settles_amount hs.mana callee) _ _
  | nearestEnemy => exact settles_plainQuery (settles_valueAt hs.nearestEnemy callee) _ _
  | enemyInRange => exact settles_numberQuery (exists_within hs.enemyDistance) _ _ _
  | allyInRange => exact settles_numberQuery (exists_within hs.allyDistance) _ _ _
  | hasBuff => exact settles_textQuery (Collection.exists_hasText hs.buffs) _ _ _
  | itemReady => exact settles_textQuery (Collection.exists_hasText hs.readyItems) _ _ _
  | cooldownReady => exact settles_textQuery (Collection.exists_hasText hs.readyAbilities) _ _ _

/-! ### Actions -/

theorem Collection.isSet_without {c : Collection} (hc : c.IsSet) (texts : List String) :
    (c.without texts).IsSet := by
  obtain ⟨s, rfl⟩ := hc
  exact ⟨_, rfl⟩

theorem GameState.Supplies.spent {s : GameState} (hs : s.Supplies data) (a : Action)
    (arguments : List Value) : (Game.spent s a arguments).Supplies data := by
  rw [Game.spent_eq s a arguments 0]
  exact { hs with
    readyItems := Collection.isSet_without hs.readyItems _
    readyAbilities := Collection.isSet_without hs.readyAbilities _ }

theorem GameState.Supplies.exists_spend {s : GameState} (hs : s.Supplies data) (a : Action)
    (arguments : List Value) : ∃ s', Game.spend s a arguments = .ok s' := by
  unfold Game.spend
  split
  · obtain ⟨abilities, h⟩ := hs.readyAbilities
    rw [h]
    exact ⟨_, rfl⟩
  · obtain ⟨items, h⟩ := hs.readyItems
    rw [h]
    exact ⟨_, rfl⟩
  · exact ⟨_, rfl⟩

theorem accepts_perform {m : Machine Game} (hm : (supplied data aborts).holds m) (callee : Token)
    (a : Action) {arguments : List Value} (hvalues : ∀ v ∈ arguments, v.isForeign = false) :
    (supplied data aborts).Accepts callee m (m.host.perform callee a arguments) := by
  obtain ⟨hsupplies, haborts⟩ := hm
  obtain ⟨s, hspend⟩ := hsupplies.state.exists_spend a arguments
  rw [Game.perform_eq hvalues, hspend]
  exact ⟨⟨{ hsupplies with state := hsupplies.state.spent a arguments }, haborts⟩, trivial, rfl⟩

/-! ### Functions of the embedding program -/

theorem Game.mem_put {α : Type} {name : String} {a : α} {entries : List (String × α)}
    {entry : String × α} (h : entry ∈ put name a entries) :
    entry = (name, a) ∨ entry ∈ entries := by
  induction entries with
  | nil => exact .inl (List.mem_singleton.mp h)
  | cons first rest ih =>
    rw [put] at h
    split at h
    · exact (List.mem_cons.mp h).imp_right (List.mem_cons_of_mem _)
    · rcases List.mem_cons.mp h with rfl | h
      · exact .inr List.mem_cons_self
      · exact (ih h).imp_right (List.mem_cons_of_mem _)

/-- However a call ends, the function has kept its memory and left its state. -/
theorem Game.host_callHost (g : Game) (callee : Token) (f : HostFunction) (arguments : List Value) :
    (g.callHost callee f arguments).host =
      { g.register callee.lexeme { f with memory := (f.step f.memory arguments g.state).memory } with
        state := (f.step f.memory arguments g.state).state } := by
  unfold callHost
  dsimp only
  split <;> rfl

section Calls

variable {m : Machine Game} {callee : Token} {f : HostFunction} {arguments : List Value}

/-- A function is still what it was after a call, except for what it keeps. -/
theorem holds_callHost (hm : (supplied data aborts).holds m)
    (hmem : (callee.lexeme, f) ∈ m.host.functions)
    (hvalues : ∀ v ∈ arguments, v.isForeign = false) :
    (m.host.callHost callee f arguments).host.Supplies data ∧
      ((m.host.callHost callee f arguments).host.CanAbort → aborts) := by
  obtain ⟨hsupplies, haborts⟩ := hm
  have hf : f.Supplies data := hsupplies.functions (callee.lexeme, f) hmem
  obtain ⟨hstate, -⟩ := hf f.memory arguments m.host.state hvalues hsupplies.state
  rw [Game.host_callHost]
  constructor
  · refine ⟨hsupplies.globals, fun entry hentry => ?_, hstate⟩
    rcases Game.mem_put hentry with rfl | hentry
    · exact hf
    · exact hsupplies.functions entry hentry
  · rintro ⟨entry, hentry, habort⟩
    rcases Game.mem_put hentry with rfl | hentry
    · exact haborts ⟨(callee.lexeme, f), hmem, habort⟩
    · exact haborts ⟨entry, hentry, habort⟩

theorem settles_callHost (hm : (supplied data aborts).holds m)
    (hmem : (callee.lexeme, f) ∈ m.host.functions)
    (hvalues : ∀ v ∈ arguments, v.isForeign = false) :
    (supplied data aborts).Settles (fun v => v.isForeign = false)
      ((m.host.callHost callee f arguments).reply.bind (Run.valueAt callee)) := by
  obtain ⟨hsupplies, haborts⟩ := hm
  have hf : f.Supplies data := hsupplies.functions (callee.lexeme, f) hmem
  obtain ⟨-, hreply⟩ := hf f.memory arguments m.host.state hvalues hsupplies.state
  unfold Game.callHost
  dsimp only
  split
  · next d hd =>
    have hsettles := @settles_valueAt data aborts d (hreply d hd) callee
    cases hvalue : Run.valueAt callee d with
    | ok v =>
      rw [hvalue] at hsettles
      show (supplied data aborts).Settles _ (Run.valueAt callee v.toDatum)
      rw [Value.valueAt_toDatum hsettles]
      exact hsettles
    | error failure =>
      rw [hvalue] at hsettles
      exact hsettles
  · trivial
  · trivial
  · next habort =>
    exact haborts ⟨(callee.lexeme, f), hmem, f.memory, arguments, m.host.state, hvalues, habort⟩

theorem accepts_callHost (hm : (supplied data aborts).holds m)
    (hmem : (callee.lexeme, f) ∈ m.host.functions)
    (hvalues : ∀ v ∈ arguments, v.isForeign = false) :
    (supplied data aborts).Accepts callee m (m.host.callHost callee f arguments) :=
  ⟨holds_callHost hm hmem hvalues, trivial, settles_callHost hm hmem hvalues⟩

end Calls

theorem honours_supplied : Game.resolver.Honours (supplied data aborts) where
  lookup := by
    intro m hm name _
    exact accepts_lookup hm name
  call := by
    intro m hm callee _ arguments hvalues
    show (supplied data aborts).Accepts callee m (Game.call callee arguments m.host)
    unfold Game.call
    split
    · next f hlookup =>
      obtain ⟨before, after, hfunctions, _⟩ := List.lookup_eq_some_iff.mp hlookup
      exact accepts_callHost hm (by simp [hfunctions]) hvalues
    · split
      · next a _ => exact accepts_perform hm callee a hvalues
      · next q _ => exact accepts_query hm callee arguments q
      · exact accepts_quiet hm ⟨_, rfl⟩ trivial

end Answers

/-! ## Runs -/

/-- Every top-level statement is executed, in order. One that ends with an error of the script is
followed by the report of the error and by the next statement. -/
inductive Program.Completes {σ : Type} (r : Resolver σ) (rounds : Nat) (echo : Bool) :
    Program → Machine σ → List RuntimeError → Machine σ → Prop where
  | nil {m : Machine σ} : Completes r rounds echo [] m [] m
  | done {s : Stmt} {ss : Program} {m next last : Machine σ} {errors : List RuntimeError}
      (hs : s.runTop r rounds echo m = .ok () next)
      (hss : Completes r rounds echo ss next errors last) :
      Completes r rounds echo (s :: ss) m errors last
  | failed {s : Stmt} {ss : Program} {m next last : Machine σ} {e : RuntimeError}
      {errors : List RuntimeError} (hs : s.runTop r rounds echo m = .error (.script e) next)
      (hss : Completes r rounds echo ss (next.emit (.failure e)) errors last) :
      Completes r rounds echo (s :: ss) m (e :: errors) last

/-- A run completes, or it ends with a failure that is no error of the script. -/
theorem Program.run_cases {σ : Type} (r : Resolver σ) (rounds : Nat) (echo : Bool) (p : Program)
    (m : Machine σ) :
    (∃ errors last, p.run r rounds echo m = .ok errors last ∧
      p.Completes r rounds echo m errors last) ∨
    (∃ f last, p.run r rounds echo m = .error f last ∧ ∀ e, f ≠ .script e) := by
  induction p generalizing m with
  | nil => exact .inl ⟨[], m, rfl, .nil⟩
  | cons s ss ih =>
    cases hs : s.runTop r rounds echo m with
    | ok u next =>
      rw [Program.run_cons_of_ok hs]
      rcases ih next with ⟨errors, last, hrun, hcompletes⟩ | hfails
      · exact .inl ⟨errors, last, hrun, .done hs hcompletes⟩
      · exact .inr hfails
    | error f next =>
      by_cases hf : ∃ e, f = .script e
      · obtain ⟨e, rfl⟩ := hf
        rw [Program.run_cons_of_script hs]
        rcases ih (next.emit (.failure e)) with ⟨errors, last, hrun, hcompletes⟩ |
          ⟨f, last, hrun, hf⟩
        · rw [Run.bind_of_ok hrun]
          exact .inl ⟨e :: errors, last, rfl, .failed hs hcompletes⟩
        · rw [Run.bind_of_error hrun]
          exact .inr ⟨f, last, rfl, hf⟩
      · have hne : ∀ e, f ≠ .script e := fun e he => hf ⟨e, he⟩
        rw [Program.run_cons_of_other hs hne]
        exact .inr ⟨f, next, rfl, hne⟩

/-- A run of a script completes, unless the bound on its loops is reached, it comes upon a whole
number that is too large among the data of the embedding program, or it calls a function that
aborts. -/
theorem run_ends (data : Datum → Prop) {ts : List Token} {p : Program}
    (hts : ∀ t ∈ ts, t.literal.isForeign = false) (hp : parseProgram ts = .ok p)
    {m : Machine Game} (hm : m.host.Supplies data) (rounds : Nat) (echo : Bool) :
    (∃ errors last, p.run Game.resolver rounds echo m = .ok errors last ∧
      p.Completes Game.resolver rounds echo m errors last) ∨
    (∃ last, p.run Game.resolver rounds echo m = .error .unfinished last) ∨
    (∃ last, p.run Game.resolver rounds echo m = .error (.host .tooLarge) last ∧
      ∃ n, data (.int n) ∧ Number.ofInt? n = none) ∨
    (∃ last, p.run Game.resolver rounds echo m = .error .aborted last ∧ m.host.CanAbort) := by
  have hmentions : ∀ x ∈ mentionsOfBody p, (supplied data m.host.CanAbort).allows x := by
    intro x hx
    have hfrom := isFrom_of_parseProgram hp x hx
    cases x with
    | name t => trivial
    | literal v =>
      rcases hfrom with hv | ⟨t, ht, rfl⟩
      · exact hv
      · exact hts t ht
  have hkeeps := Program.run_obeys honours_supplied rounds echo p hmentions m ⟨hm, id⟩
  rcases p.run_cases Game.resolver rounds echo m with hcompletes | ⟨f, last, hrun, hf⟩
  · exact .inl hcompletes
  · rw [hrun] at hkeeps
    cases f with
    | script e => exact absurd rfl (hf e)
    | unfinished => exact .inr (.inl ⟨last, hrun⟩)
    | host fault =>
      obtain ⟨rfl, hlarge⟩ := hkeeps.2.2
      exact .inr (.inr (.inl ⟨last, hrun, hlarge⟩))
    | aborted => exact .inr (.inr (.inr ⟨last, hrun, hkeeps.2.2⟩))

theorem eq_ok_getD {ε α : Type} {result : Except ε α} (default : α)
    (h : result.toOption.isSome = true) : result = .ok (result.toOption.getD default) := by
  cases result with
  | ok a => rfl
  | error e => cases h

theorem HostFunction.supplies_stateless {data : Datum → Prop} {reply : List Value → HostReply}
    (h : ∀ arguments d, reply arguments = .value d → data d) : (stateless reply).Supplies data :=
  fun _ arguments _ _ hs => ⟨hs, h arguments⟩

/-- The whole numbers among the data are small. -/
def Datum.IsSmall (d : Datum) : Prop :=
  ∀ n, d = .int n → n = 5

def leavingSource : String :=
  "x; boom(); list(); leave(); 1;"

/-- A number, a function that fails, one that returns no value, one that may abort, and a number. -/
@[irreducible]
def leaving : Program :=
  (parseProgram (scan leavingSource)).toOption.getD []

/-- The game of that script, with what the last of its functions replies. -/
def leavingGame (reply : HostReply) : Machine Game :=
  .start {
    globals := [("x", .int 5)]
    functions := [("boom", .failing "bad luck"), ("list", .const (.list [])),
      ("leave", .stateless fun _ => reply)] }

theorem supplies_leavingGame {reply : HostReply} (h : ∀ d, reply = .value d → d.IsSmall) :
    (leavingGame reply).host.Supplies Datum.IsSmall where
  globals := by
    intro entry hentry n hn
    obtain rfl : entry = ("x", .int 5) := List.mem_singleton.mp hentry
    cases hn
    rfl
  functions := by
    intro entry hentry
    rcases List.mem_cons.mp hentry with rfl | hentry
    · exact HostFunction.supplies_stateless fun _ _ h => by cases h
    rcases List.mem_cons.mp hentry with rfl | hentry
    · refine HostFunction.supplies_stateless fun _ d h n hn => ?_
      cases h
      cases hn
    · obtain rfl := List.mem_singleton.mp hentry
      exact HostFunction.supplies_stateless fun _ => h
  state := by
    refine ⟨trivial, trivial, trivial, trivial, fun n hn => ?_, ⟨_, rfl⟩, ⟨_, rfl⟩, ⟨_, rfl⟩⟩
    cases hn

/-- The number of errors of a run that completes, and none for one that is aborted. -/
def errorCount? : EStateM.Result Failure (Machine Game) (List RuntimeError) → Option (Option Nat)
  | .ok errors _ => some (some errors.length)
  | .error .aborted _ => some none
  | .error _ _ => none

/-- Two calls fail and the run goes on; it completes unless the third call aborts. -/
theorem run_ends_after_failed_calls :
    (∀ t ∈ scan leavingSource, t.literal.isForeign = false) ∧
      parseProgram (scan leavingSource) = .ok leaving ∧
      (leavingGame (.value .null)).host.Supplies Datum.IsSmall ∧
      (leavingGame .abort).host.Supplies Datum.IsSmall ∧
      (∃ errors last, leaving.run Game.resolver 0 true (leavingGame (.value .null))
          = .ok errors last ∧ errors.length = 2 ∧
        leaving.Completes Game.resolver 0 true (leavingGame (.value .null)) errors last) ∧
      ∃ last, leaving.run Game.resolver 0 true (leavingGame .abort) = .error .aborted last ∧
        (leavingGame .abort).host.CanAbort := by
  have hts : ∀ t ∈ scan leavingSource, t.literal.isForeign = false :=
    fun t ht => (isScripted_of_mem_scan ht).2
  have hp : parseProgram (scan leavingSource) = .ok leaving := by
    rw [leaving]
    exact eq_ok_getD [] (by decide +kernel)
  have hnull : (leavingGame (.value .null)).host.Supplies Datum.IsSmall :=
    supplies_leavingGame fun d h n hn => by
      cases h
      cases hn
  have habort : (leavingGame .abort).host.Supplies Datum.IsSmall :=
    supplies_leavingGame fun d h => by cases h
  have hcount : errorCount? (leaving.run Game.resolver 0 true (leavingGame (.value .null)))
      = some (some 2) := by decide +kernel
  have hcount' : errorCount? (leaving.run Game.resolver 0 true (leavingGame .abort))
      = some none := by decide +kernel
  refine ⟨hts, hp, hnull, habort, ?_, ?_⟩
  · rcases run_ends Datum.IsSmall hts hp hnull 0 true with
      ⟨errors, last, hrun, hcompletes⟩ | ⟨last, hrun⟩ | ⟨last, hrun, -⟩ | ⟨last, hrun, -⟩
    · rw [hrun] at hcount
      exact ⟨errors, last, hrun, Option.some.inj (Option.some.inj hcount), hcompletes⟩
    all_goals
      rw [hrun] at hcount
      cases hcount
  · rcases run_ends Datum.IsSmall hts hp habort 0 true with
      ⟨errors, last, hrun, -⟩ | ⟨last, hrun⟩ | ⟨last, hrun, -⟩ | hends
    · rw [hrun] at hcount'
      cases hcount'
    · rw [hrun] at hcount'
      cases hcount'
    · rw [hrun] at hcount'
      cases hcount'
    · exact hends

/-- Names a variable, and then a number. -/
@[irreducible]
def hugeScript : Program :=
  (parseProgram (scan "x; 1;")).toOption.getD []

/-- The variable is a whole number that is too large for a float. -/
def hugeGame : Machine Game :=
  .start { globals := [("x", .int (10 ^ 309))] }

/-- Whether a run was ended by a number that is too large, with nothing written before. -/
def endsTooLarge : EStateM.Result Failure (Machine Game) (List RuntimeError) → Bool
  | .error (.host .tooLarge) last => last.lines.isEmpty
  | _ => false

theorem run_tooLarge :
    parseProgram (scan "x; 1;") = .ok hugeScript ∧
      hugeGame.host.Supplies (fun _ => True) ∧
      ∃ last, hugeScript.run Game.resolver 0 true hugeGame = .error (.host .tooLarge) last ∧
        last.lines = [] := by
  refine ⟨?_, ?_, ?_⟩
  · rw [hugeScript]
    exact eq_ok_getD [] (by decide +kernel)
  · exact ⟨fun _ _ => trivial, nofun,
      ⟨trivial, trivial, trivial, trivial, trivial, ⟨_, rfl⟩, ⟨_, rfl⟩, ⟨_, rfl⟩⟩⟩
  · have hrun : endsTooLarge (hugeScript.run Game.resolver 0 true hugeGame) = true := by
      decide +kernel
    rw [endsTooLarge.eq_def] at hrun
    split at hrun
    · next last heq => exact ⟨last, heq, List.isEmpty_iff.mp hrun⟩
    · cases hrun

end RiftScript
