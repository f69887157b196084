/-
What scripts do to the game.

Where the embedding program has registered no functions, a script changes the game by its actions
only, and an action does no more than to be recorded and to use up an ability or an item. So the
game after a run is determined by the game before it and the actions of the run. `Game.after` is
that game, and the main result says so of every run of a script and of every event.
-/
import RiftScript.Game.Bindings
import RiftScript.Proofs.Running.Contracts

namespace RiftScript

/-! ## Taking away from collections -/

namespace Collection

/-- A collection without some texts. Only a set can lose any. -/
def without (c : Collection) (texts : List String) : Collection :=
  match c with
  | set s => set ⟨s.elements.filter fun d => !texts.any fun t => d.isText t⟩
  | c => c

theorem without_nil (c : Collection) : c.without [] = c := by
  cases c with
  | set s => exact congrArg (fun elements => set ⟨elements⟩) (List.filter_eq_self.mpr (by simp))
  | other d => rfl
  | missing => rfl

theorem without_append (c : Collection) (texts more : List String) :
    c.without (texts ++ more) = (c.without texts).without more := by
  cases c with
  | set s => simp [without, List.filter_filter, Bool.and_comm]
  | other d => rfl
  | missing => rfl

/-- Whether or not a text can be erased, its collection becomes the one without it. -/
theorem without_singleton (c : Collection) (t : String) :
    c.without [t] = (c.eraseText t).toOption.getD c := by
  cases c with
  | set s => simp [without, eraseText, DatumSet.eraseText, Except.toOption]
  | other d => rfl
  | missing => rfl

end Collection

namespace GameState

/-- A state in which abilities and items have been used up. -/
def without (s : GameState) (abilities items : List String) : GameState :=
  { s with
    readyAbilities := s.readyAbilities.without abilities
    readyItems := s.readyItems.without items }

theorem without_nil (s : GameState) : s.without [] [] = s := by
  simp [without, Collection.without_nil]

theorem without_without (s : GameState) (abilities items abilities' items' : List String) :
    (s.without abilities items).without abilities' items' =
      s.without (abilities ++ abilities') (items ++ items') := by
  simp [without, Collection.without_append]

end GameState

/-! ## One action -/

/-- What an action uses up if it uses up anything: its first argument, if that is a text. -/
def Value.usedUp : List Value → Option String
  | text t :: _ => some t
  | _ => none

namespace ActionRecord

/-- What actions of one name among the records have used up. -/
def usedUp (name : String) (records : List ActionRecord) : List String :=
  records.filterMap fun record =>
    if record.name = name then Value.usedUp record.arguments else none

theorem usedUp_append (name : String) (records more : List ActionRecord) :
    usedUp name (records ++ more) = usedUp name records ++ usedUp name more :=
  List.filterMap_append

/-- The line that shows an action. -/
def shown (record : ActionRecord) : String :=
  s!"> {record.display}"

end ActionRecord

namespace Game

/-- The game after some actions: they are recorded, casting has used up abilities and using items
has used up items. Nothing else is different. -/
def after (g : Game) (records : List ActionRecord) : Game :=
  { g with
    state := g.state.without (ActionRecord.usedUp Action.cast.word records)
      (ActionRecord.usedUp Action.useItem.word records)
    actions := g.actions ++ records }

theorem after_nil (g : Game) : g.after [] = g := by
  simp [after, ActionRecord.usedUp, GameState.without_nil]

theorem after_after (g : Game) (records more : List ActionRecord) :
    (g.after records).after more = g.after (records ++ more) := by
  have hactions : g.actions ++ records ++ more = g.actions ++ (records ++ more) :=
    Array.toList_inj.mp (by simp)
  simp [after, GameState.without_without, ActionRecord.usedUp_append, hactions]

/-- The state that an action leaves. It is the one before if nothing can be taken away. -/
def spent (s : GameState) (a : Action) (arguments : List Value) : GameState :=
  (spend s a arguments).toOption.getD s

theorem spent_of_usedUp_eq_none {s : GameState} {a : Action} {arguments : List Value}
    (h : Value.usedUp arguments = none) : spent s a arguments = s := by
  unfold spent spend
  split <;> first | cases h | rfl

theorem spent_cast (s : GameState) (t : String) (rest : List Value) :
    spent s .cast (.text t :: rest) = s.without [t] [] := by
  rw [GameState.without, Collection.without_singleton, Collection.without_nil]
  simp only [spent, spend]
  cases s.readyAbilities.eraseText t <;> rfl

theorem spent_useItem (s : GameState) (t : String) (rest : List Value) :
    spent s .useItem (.text t :: rest) = s.without [] [t] := by
  rw [GameState.without, Collection.without_singleton, Collection.without_nil]
  simp only [spent, spend]
  cases s.readyItems.eraseText t <;> rfl

theorem spent_eq (s : GameState) (a : Action) (arguments : List Value) (line : Int) :
    spent s a arguments =
      s.without (ActionRecord.usedUp Action.cast.word [⟨a.word, arguments, line⟩])
        (ActionRecord.usedUp Action.useItem.word [⟨a.word, arguments, line⟩]) := by
  cases hused : Value.usedUp arguments with
  | none =>
    rw [spent_of_usedUp_eq_none hused]
    simp [ActionRecord.usedUp, hused, GameState.without_nil]
  | some t =>
    obtain ⟨rest, rfl⟩ : ∃ rest, arguments = .text t :: rest := by
      unfold Value.usedUp at hused
      split at hused <;> cases hused
      exact ⟨_, rfl⟩
    -- The names of the two actions that use something up differ from all others.
    cases a with
    | cast => exact spent_cast s t rest
    | useItem => exact spent_useItem s t rest
    | _ => exact (GameState.without_nil s).symm

theorem perform_eq {g : Game} {callee : Token} {a : Action} {arguments : List Value}
    (h : ∀ v ∈ arguments, v.isForeign = false) :
    g.perform callee a arguments =
      { reply := ((spend g.state a arguments).map fun _ => .null).mapError .host
        host := { g with
          state := spent g.state a arguments
          actions := g.actions.push ⟨callee.lexeme, arguments, callee.line⟩ }
        notices := [.action ⟨callee.lexeme, arguments, callee.line⟩ g.announces] } := by
  have hnone : arguments.any Value.isForeign = false := by
    rw [List.any_eq_false]
    intro v hv
    simp [h v hv]
  unfold perform spent
  simp only [hnone, Bool.and_false, Bool.false_eq_true, if_false]
  cases spend g.state a arguments <;> rfl

theorem perform_eq_after {g : Game} {callee : Token} {a : Action} {arguments : List Value}
    (hword : callee.lexeme = a.word) (h : ∀ v ∈ arguments, v.isForeign = false) :
    (g.perform callee a arguments).host = g.after [⟨callee.lexeme, arguments, callee.line⟩] := by
  have hpush : ∀ record, g.actions.push record = g.actions ++ [record] :=
    fun record => Array.toList_inj.mp (by simp)
  rw [perform_eq h, hword, after, spent_eq g.state a arguments callee.line, hpush]

/-! ## Answers -/

/-- The host has changed nothing and said nothing. -/
def Quiet (g : Game) (a : Answer Game) : Prop :=
  ∃ reply, a = ⟨reply, g, []⟩

theorem lookup_quiet (name : Token) (g : Game) : g.Quiet (lookup name g) := by
  unfold lookup
  split
  · exact ⟨_, rfl⟩
  · split <;> exact ⟨_, rfl⟩

theorem plainQuery_quiet (g : Game) (callee : Token) (arguments : List Value) (d : Datum) :
    g.Quiet (g.plainQuery callee arguments d) := by
  unfold plainQuery
  split <;> exact ⟨_, rfl⟩

theorem numberQuery_quiet (g : Game) (callee : Token) (arguments : List Value)
    (f : Float → Except Failure Bool) : g.Quiet (g.numberQuery callee arguments f) := by
  unfold numberQuery
  split <;> exact ⟨_, rfl⟩

theorem textQuery_quiet (g : Game) (callee : Token) (arguments : List Value)
    (f : String → Except DatumFault Bool) : g.Quiet (g.textQuery callee arguments f) := by
  unfold textQuery
  split <;> exact ⟨_, rfl⟩

theorem query_quiet (g : Game) (callee : Token) (arguments : List Value) (q : Query) :
    g.Quiet (g.query callee arguments q) := by
  cases q with
  | getHealth | getMana | nearestEnemy => exact g.plainQuery_quiet callee arguments _
  | enemyInRange | allyInRange => exact g.numberQuery_quiet callee arguments _
  | hasBuff | itemReady | cooldownReady => exact g.textQuery_quiet callee arguments _

/-- Where no functions are registered, a call is an action or it leaves everything as it is. -/
theorem call_cases {g : Game} (hg : g.functions = []) (callee : Token) (arguments : List Value) :
    (∃ a, callee.kind = .action a ∧ call callee arguments g = g.perform callee a arguments) ∨
      g.Quiet (call callee arguments g) := by
  unfold call
  rw [hg, List.lookup_nil]
  cases hkind : callee.kind with
  | action a => exact .inl ⟨a, rfl, rfl⟩
  | query q => exact .inr (g.query_quiet callee arguments q)
  | _ => exact .inr ⟨_, rfl⟩

end Game

/-! ## Runs -/

/-- The lines in which notices show actions. -/
def Notice.actionLines (notices : List Notice) : List String :=
  (notices.filter Notice.isAction).filterMap Notice.line?

/-- The second machine is the first after some actions, and it has shown each of them in order
if the game shows them at all. -/
structure Machine.Performs (m m' : Machine Game) (records : List ActionRecord) : Prop where
  host : m'.host = m.host.after records
  shown : ∃ told : List Notice, m'.notices = m.notices ++ told ∧
    Notice.actionLines told =
      if m.host.announces then records.map ActionRecord.shown else []

namespace Machine

/-- Without a change to the game, and with notices that show no action, nothing is performed. -/
theorem performs_nil {m m' : Machine Game} (told : List Notice) (hhost : m'.host = m.host)
    (hnotices : m'.notices = m.notices ++ told) (htold : ∀ n ∈ told, n.isAction = false) :
    m.Performs m' [] := by
  refine ⟨by rw [hhost, Game.after_nil], told, hnotices, ?_⟩
  have hnone : told.filter Notice.isAction = [] :=
    List.filter_eq_nil_iff.mpr fun n hn => by simp [htold n hn]
  rw [Notice.actionLines, hnone]
  cases m.host.announces <;> rfl

theorem Performs.trans {m m' m'' : Machine Game} {records more : List ActionRecord}
    (h : m.Performs m' records) (h' : m'.Performs m'' more) :
    m.Performs m'' (records ++ more) := by
  obtain ⟨hhost, told, hnotices, hshown⟩ := h
  obtain ⟨hhost', told', hnotices', hshown'⟩ := h'
  have hannounces : m'.host.announces = m.host.announces := by
    rw [hhost]
    rfl
  refine ⟨by rw [hhost', hhost, Game.after_after], told ++ told', ?_, ?_⟩
  · rw [hnotices', hnotices]
    exact Array.toList_inj.mp (by simp)
  · rw [Notice.actionLines, List.filter_append, List.filterMap_append]
    change Notice.actionLines told ++ Notice.actionLines told' = _
    rw [hshown, hshown', hannounces]
    cases m.host.announces with
    | true => exact List.map_append.symm
    | false => rfl

theorem performs_accept_quiet {m : Machine Game} {a : Answer Game} (h : m.host.Quiet a) :
    m.Performs (m.accept a) [] := by
  obtain ⟨reply, rfl⟩ := h
  exact performs_nil [] rfl rfl (by simp)

theorem performs_accept_perform {m : Machine Game} {callee : Token} {a : Action}
    {arguments : List Value} (hword : callee.lexeme = a.word)
    (h : ∀ v ∈ arguments, v.isForeign = false) :
    m.Performs (m.accept (m.host.perform callee a arguments))
      [⟨callee.lexeme, arguments, callee.line⟩] := by
  have hnotices : (m.accept (m.host.perform callee a arguments)).notices = m.notices ++
      [Notice.action ⟨callee.lexeme, arguments, callee.line⟩ m.host.announces] := by
    rw [Machine.accept, Game.perform_eq h]
  refine ⟨Game.perform_eq_after hword h, _, hnotices, ?_⟩
  cases m.host.announces <;> rfl

end Machine

/-- Scripts change the game by actions only. -/
def performing : Contract Game where
  holds m := m.host.functions = []
  leads m m' := ∃ records, m.Performs m' records
  allows := Mention.IsScripted
  values v := v.isForeign = false
  failures _ := True
  refl m := ⟨[], Machine.performs_nil [] rfl (by simp) (by simp)⟩
  trans h h' := by
    obtain ⟨records, h⟩ := h
    obtain ⟨more, h'⟩ := h'
    exact ⟨records ++ more, h.trans h'⟩
  emit hm n hn := ⟨hm, [], Machine.performs_nil [n] rfl rfl (by simpa using hn)⟩
  declare hm d := ⟨hm, [], Machine.performs_nil [_] rfl rfl (by simp [Notice.isAction])⟩
  plain h := h
  literal h := h
  script _ := trivial
  unfinished := trivial

theorem accepts_of_performs {token : Token} {m : Machine Game} {a : Answer Game}
    {records : List ActionRecord} (hm : m.host.functions = [])
    (h : m.Performs (m.accept a) records) : performing.Accepts token m a where
  holds := by
    show (m.accept a).host.functions = []
    rw [h.host]
    exact hm
  leads := ⟨records, h⟩
  settles := by
    cases hvalue : a.reply.bind (Run.valueAt token) with
    | ok v => exact Run.isForeign_of_bind_valueAt hvalue
    | error f => trivial

theorem honours_performing : Game.resolver.Honours performing where
  lookup := by
    intro m hm name _
    exact accepts_of_performs hm (Machine.performs_accept_quiet (Game.lookup_quiet name m.host))
  call := by
    intro m hm callee hcallee arguments hvalues
    rcases Game.call_cases hm callee arguments with ⟨a, hkind, hcall⟩ | hquiet
    · have hperforms :=
        @Machine.performs_accept_perform m callee a arguments (hcallee a hkind) hvalues
      rw [← hcall] at hperforms
      exact accepts_of_performs hm hperforms
    · exact accepts_of_performs hm (Machine.performs_accept_quiet hquiet)

/-- Every champion of a registry was declared somewhere in a script. -/
def Registry.IsScripted (registry : Registry) : Prop :=
  ∀ c ∈ registry.champions, ∃ file source p,
    (Script.readProgram file source).result = some p ∧ c ∈ championsOfBody p

theorem Registry.IsScripted.mentions {registry : Registry} (h : registry.IsScripted) {name : String}
    {c : Champion} (hget : registry.get? name = some c) : ∀ x ∈ c.mentions, x.IsScripted := by
  obtain ⟨file, source, p, hread, hmem⟩ := h c (List.mem_of_find?_eq_some hget)
  intro x hx
  exact isScripted_of_readProgram hread x (mentions_of_mem_championsOfBody p hmem hx)

/-- Whatever comes of running a script, or of firing an event at champions from scripts, the game
is the one before after the actions of the run, and their lines are the lines it has shown. -/
theorem script_performs (m : Machine Game) (hm : m.host.functions = []) :
    (∀ file source p, (Script.readProgram file source).result = some p → ∀ rounds echo,
      ∃ records, m.Performs (Run.machine (p.run Game.resolver rounds echo m)) records) ∧
    (m.champions.IsScripted → ∀ rounds champion event, ∃ records,
      m.Performs (Run.machine (trigger Game.resolver rounds champion event m)) records) := by
  constructor
  · intro file source p hread rounds echo
    exact (Program.run_obeys honours_performing rounds echo p (isScripted_of_readProgram hread) m
      hm).leads
  · intro hscripted rounds champion event
    exact (trigger_keeps honours_performing rounds champion event hm
      fun d hget => hscripted.mentions hget).leads

def ambushSource : String :=
  r#"champion Annie { onAttack { cast("Q"); } } useItem("ward");"#

/-- A champion and a top-level action. -/
@[irreducible]
def ambush : Program :=
  (Script.readProgram "ambush" ambushSource).result.getD []

/-- The champion of the script in a game with two abilities and one item. -/
def ambushed : Machine Game where
  champions := ⟨championsOfBody ambush⟩
  host := { state := {
    readyAbilities := .set ⟨[.text "Q", .text "W"]⟩
    readyItems := .set ⟨[.text "ward"]⟩ } }

theorem script_performs_run_and_event :
    ambushed.host.functions = [] ∧ ambushed.champions.IsScripted ∧
      (Script.readProgram "ambush" ambushSource).result = some ambush ∧
      (∃ records, ambushed.Performs
        (Run.machine (ambush.run Game.resolver 1 true ambushed)) records) ∧
      (∃ records, ambushed.Performs
        (Run.machine (trigger Game.resolver 1 "Annie" "onAttack" ambushed)) records) ∧
      (Run.machine (trigger Game.resolver 1 "Annie" "onAttack" ambushed)).lines =
        ["Running onAttack for Annie", "> cast(Q)"] := by
  have hread : (Script.readProgram "ambush" ambushSource).result = some ambush := by
    obtain ⟨p, hp⟩ : ∃ p, (Script.readProgram "ambush" ambushSource).result = some p :=
      Option.isSome_iff_exists.mp (by decide +kernel)
    rw [ambush, hp, Option.getD_some]
  have hscripted : ambushed.champions.IsScripted :=
    fun _ hc => ⟨"ambush", ambushSource, ambush, hread, hc⟩
  obtain ⟨hrun, htrigger⟩ := script_performs ambushed rfl
  exact ⟨rfl, hscripted, hread, hrun "ambush" ambushSource ambush hread 1 true,
    htrigger hscripted 1 "Annie" "onAttack", by decide +kernel⟩

end RiftScript
