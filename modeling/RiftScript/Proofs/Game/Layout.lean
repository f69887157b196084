/-
Where the tokens of a script stand makes no difference to what it does.

The game sees of a token what it says and, for the record of an action, its line. So if a script and
the records so far are moved, the game answers as before, except that places are moved in what it
records and reports. Two scripts that are the same up to places are both moved to the same script,
and what they do can differ in places alone.
-/
import RiftScript.Game.Bindings
import RiftScript.Proofs.Parsing.Layout
import RiftScript.Proofs.Running.Simulation

namespace RiftScript

/-! ## Moved machines -/

section Moved

variable (f : Relocation)

def Game.relocate (g : Game) : Game :=
  { g with actions := g.actions.map (ActionRecord.relocate f) }

def Answer.relocate (a : Answer Game) : Answer Game where
  reply := a.reply.mapError (Failure.relocate f)
  host := a.host.relocate f
  notices := a.notices.map (Notice.relocate f)

def Registry.relocate (r : Registry) : Registry :=
  ⟨r.champions.map (Champion.relocate f)⟩

def Machine.relocate (m : Machine Game) : Machine Game where
  champions := m.champions.relocate f
  host := m.host.relocate f
  notices := m.notices.map (Notice.relocate f)

theorem Registry.contains_relocate (r : Registry) (name : String) :
    (r.relocate f).contains name = r.contains name := by
  rw [contains, relocate, List.any_map]
  refine congrArg (r.champions.any ·) (funext fun c => ?_)
  rw [Function.comp_apply, c.key_relocate]

theorem Registry.place_relocate (c : Champion) (cs : List Champion) :
    place (c.relocate f) (cs.map (Champion.relocate f)) =
      (place c cs).map (Champion.relocate f) := by
  induction cs with
  | nil => rfl
  | cons d ds ih =>
    rw [List.map_cons, place, place, c.key_relocate, d.key_relocate]
    split
    · rfl
    · rw [ih, List.map_cons]

theorem Machine.emit_relocate (m : Machine Game) (n : Notice) :
    (m.relocate f).emit (n.relocate f) = (m.emit n).relocate f := by
  simp [emit, relocate]

theorem Machine.declare_relocate (m : Machine Game) (c : Champion) :
    (m.relocate f).declare (c.relocate f) = (m.declare c).relocate f := by
  have hchampions : (m.champions.relocate f).register (c.relocate f) =
      (m.champions.register c).relocate f := congrArg Registry.mk (Registry.place_relocate f c _)
  have hcontains : (m.relocate f).champions.contains c.key = m.champions.contains c.key :=
    m.champions.contains_relocate f c.key
  rw [declare, declare, c.key_relocate, hcontains, ← emit_relocate]
  exact congrArg (fun r => Machine.emit ⟨r, _, _⟩ _) hchampions

theorem Machine.accept_relocate (m : Machine Game) (a : Answer Game) :
    (m.relocate f).accept (a.relocate f) = (m.accept a).relocate f := by
  have hnotices : (m.notices.map (Notice.relocate f)) ++ (a.notices.map (Notice.relocate f)) =
      (m.notices ++ a.notices).map (Notice.relocate f) := Array.toList_inj.mp (by simp)
  exact congrArg (Machine.mk _ _) hnotices

end Moved

/-! ## The game -/

namespace Game

variable (f : Relocation) (g : Game) (callee : Token) (arguments : List Value)

theorem refuse_relocate (cause : RuntimeCause) :
    (g.relocate f).refuse (f.token callee) cause = (g.refuse callee cause).relocate f := rfl

theorem lookup_relocate (name : Token) :
    lookup (f.token name) (g.relocate f) = (lookup name g).relocate f := by
  unfold lookup relocate
  rw [f.kind_token, f.lexeme_token]
  dsimp only
  split
  · rfl
  · cases g.globals.lookup name.lexeme <;> rfl

theorem perform_relocate (a : Action) :
    (g.relocate f).perform (f.token callee) a arguments =
      (g.perform callee a arguments).relocate f := by
  have hpush : ∀ record : ActionRecord, (g.actions.push record).map (ActionRecord.relocate f) =
      (g.actions.map (ActionRecord.relocate f)).push (record.relocate f) :=
    fun record => Array.map_push
  unfold perform relocate
  rw [f.lexeme_token, f.line_token]
  dsimp only
  split
  · simp only [Answer.relocate, relocate, hpush]
    rfl
  · cases spend g.state a arguments <;>
      simp only [Answer.relocate, relocate, hpush] <;> rfl

/-- A reply that names no token is the same elsewhere. -/
theorem numberQuery_relocate {q : Float → Except Failure Bool}
    (hq : ∀ x, (q x).mapError (Failure.relocate f) = q x) :
    (g.relocate f).numberQuery (f.token callee) arguments q =
      (g.numberQuery callee arguments q).relocate f := by
  unfold numberQuery
  split
  · next x =>
    have hreply : ((q x).map Datum.bool).mapError (Failure.relocate f) = (q x).map Datum.bool := by
      have hq := hq x
      cases h : q x with
      | ok b => rfl
      | error failure =>
        rw [h] at hq
        injection hq with hq
        exact congrArg Except.error hq
    exact congrArg (Answer.mk · (g.relocate f) []) hreply.symm
  · rfl
  · rfl

theorem within_relocate (distance : Datum) (limit : Float) :
    (within distance limit).mapError (Failure.relocate f) = within distance limit := by
  unfold within
  split
  · rfl
  · rfl
  · split <;> rfl

theorem textQuery_relocate (q : String → Except DatumFault Bool) :
    (g.relocate f).textQuery (f.token callee) arguments q =
      (g.textQuery callee arguments q).relocate f := by
  unfold textQuery
  split
  · next s => cases q s <;> rfl
  · rfl
  · rfl

theorem query_relocate (q : Query) :
    (g.relocate f).query (f.token callee) arguments q =
      (g.query callee arguments q).relocate f := by
  cases q with
  | getHealth | getMana | nearestEnemy =>
    simp only [query, plainQuery]
    split <;> rfl
  | enemyInRange | allyInRange =>
    exact g.numberQuery_relocate f callee arguments (within_relocate f _)
  | hasBuff | itemReady | cooldownReady => exact g.textQuery_relocate f callee arguments _

theorem callHost_relocate (h : HostFunction) :
    (g.relocate f).callHost (f.token callee) h arguments =
      (g.callHost callee h arguments).relocate f := by
  unfold callHost
  rw [f.lexeme_token]
  dsimp only [relocate]
  cases (h.step h.memory arguments g.state).reply with
  | value d =>
    have hreply : ((Run.valueAt callee d).map Value.toDatum).mapError (Failure.relocate f) =
        (Run.valueAt (f.token callee) d).map Value.toDatum := by
      rw [Run.valueAt_relocate]
      cases Run.valueAt callee d <;> rfl
    exact congrArg (Answer.mk · _ []) hreply.symm
  | scriptError message => rfl
  | failure message => rfl
  | abort => rfl

theorem call_relocate :
    call (f.token callee) arguments (g.relocate f) = (call callee arguments g).relocate f := by
  have hfunctions : (g.relocate f).functions = g.functions := rfl
  unfold call
  rw [f.lexeme_token, f.kind_token, hfunctions]
  cases g.functions.lookup callee.lexeme with
  | some h => exact g.callHost_relocate f callee arguments h
  | none =>
    cases callee.kind with
    | action a => exact g.perform_relocate f callee arguments a
    | query q => exact g.query_relocate f callee arguments q
    | _ => exact g.refuse_relocate f callee _

end Game

theorem resolver_simulates (f : Relocation) :
    Resolver.Simulates f (fun m n => n = m.relocate f) Game.resolver Game.resolver where
  declare := by
    rintro m _ rfl d
    exact m.declare_relocate f d
  lookup := by
    rintro name m _ rfl
    show Run.Replies f _ m (m.relocate f) (Game.lookup name m.host)
      (Game.lookup (f.token name) (m.host.relocate f))
    rw [Game.lookup_relocate]
    exact ⟨rfl, m.accept_relocate f _⟩
  call := by
    rintro callee arguments m _ rfl
    show Run.Replies f _ m (m.relocate f) (Game.call callee arguments m.host)
      (Game.call (f.token callee) arguments (m.host.relocate f))
    rw [Game.call_relocate]
    exact ⟨rfl, m.accept_relocate f _⟩

theorem reports_relocate (f : Relocation) : Reports f fun m n => n = Machine.relocate f m where
  result := by
    rintro m _ rfl v
    exact m.emit_relocate f (.result v)
  failure := by
    rintro m _ rfl e
    exact m.emit_relocate f (.failure e)

/-! ## Runs -/

/-- The values that a run has shown. -/
def Machine.results (m : Machine Game) : List Value :=
  m.notices.toList.filterMap fun n =>
    match n with
    | .result v => some v
    | _ => none

/-- The machines differ at most in the places of what was recorded. -/
structure Machine.SameUpToPlaces (m n : Machine Game) : Prop where
  state : m.host.state = n.host.state
  globals : m.host.globals = n.host.globals
  functions : m.host.functions = n.host.functions
  actions : m.host.actions.toList.map (fun a => (a.name, a.arguments)) =
    n.host.actions.toList.map fun a => (a.name, a.arguments)
  champions : m.champions.relocate .nowhere = n.champions.relocate .nowhere
  results : m.results = n.results

theorem Machine.results_relocate (f : Relocation) (m : Machine Game) :
    (m.relocate f).results = m.results := by
  rw [results, relocate, Array.toList_map, List.filterMap_map]
  refine congrArg (List.filterMap · _) (funext fun n => ?_)
  cases n <;> rfl

theorem Machine.sameUpToPlaces_of_relocate {m n : Machine Game}
    (h : m.relocate .nowhere = n.relocate .nowhere) : m.SameUpToPlaces n := by
  have hhost : m.host.relocate .nowhere = n.host.relocate .nowhere := congrArg Machine.host h
  have hactions : m.host.actions.map (ActionRecord.relocate .nowhere) =
      n.host.actions.map (ActionRecord.relocate .nowhere) := congrArg Game.actions hhost
  have hstate : m.host.state = n.host.state := (Game.mk.inj hhost).1
  have hglobals : m.host.globals = n.host.globals := (Game.mk.inj hhost).2.1
  have hfunctions : m.host.functions = n.host.functions := (Game.mk.inj hhost).2.2.1
  refine ⟨hstate, hglobals, hfunctions, ?_, congrArg Machine.champions h, ?_⟩
  · have hlist := congrArg (fun records => records.toList.map fun a => (a.name, a.arguments))
      hactions
    simp only [Array.toList_map, List.map_map] at hlist
    exact hlist
  · rw [← m.results_relocate .nowhere, h, results_relocate]

/-- Two runs ended alike, and the errors they give back have the same messages and name the same
tokens. -/
inductive SameEnd : EStateM.Result Failure (Machine Game) (List RuntimeError) →
    EStateM.Result Failure (Machine Game) (List RuntimeError) → Prop where
  | ok {errors errors' : List RuntimeError} {m n : Machine Game}
      (herrors : errors.map (fun e => (e.message, e.token.map Token.lexeme)) =
        errors'.map fun e => (e.message, e.token.map Token.lexeme))
      (h : m.SameUpToPlaces n) : SameEnd (.ok errors m) (.ok errors' n)
  | error {failure failure' : Failure} {m n : Machine Game}
      (hfailure : failure.relocate .nowhere = failure'.relocate .nowhere)
      (h : m.SameUpToPlaces n) : SameEnd (.error failure m) (.error failure' n)

theorem message_relocate (f : Relocation) (e : RuntimeError) :
    ((e.relocate f).message, (e.relocate f).token.map Token.lexeme) =
      (e.message, e.token.map Token.lexeme) := by
  cases e with
  | mk token cause =>
    cases token with
    | none => rfl
    | some t => exact congrArg (fun lexeme => (cause.message, some lexeme)) (f.lexeme_token t)

theorem run_sameEnd {p q : Program} (h : p.SameUpToPlaces q) (m : Machine Game) (rounds : Nat)
    (echo : Bool) :
    SameEnd (p.run Game.resolver rounds echo m) (q.run Game.resolver rounds echo m) := by
  -- Both runs are compared with a third one, of the tree that both become without places.
  have hp := Program.run_simulates (resolver_simulates .nowhere) (reports_relocate .nowhere) rounds
    echo p m _ rfl
  have hq := Program.run_simulates (resolver_simulates .nowhere) (reports_relocate .nowhere) rounds
    echo q m _ rfl
  rw [show relocateBody .nowhere p = relocateBody .nowhere q from h] at hp
  generalize p.run Game.resolver rounds echo m = first, q.run Game.resolver rounds echo m = second,
    Program.run Game.resolver rounds echo (relocateBody .nowhere q) _ = common at hp hq ⊢
  cases hp with
  | ok herrors hm =>
    cases hq with
    | ok herrors' hn =>
      refine .ok ?_ (Machine.sameUpToPlaces_of_relocate (hm.symm.trans hn))
      have hsame := congrArg (List.map fun e => (e.message, e.token.map Token.lexeme))
        (herrors.symm.trans herrors')
      simpa only [List.map_map, Function.comp_def, message_relocate] using hsame
  | error hfailure hm =>
    cases hq with
    | error hfailure' hn =>
      exact .error (hfailure.symm.trans hfailure')
        (Machine.sameUpToPlaces_of_relocate (hm.symm.trans hn))

/-- Scripts whose tokens say the same are read alike, and scripts that are the same up to places do
the same to the game. -/
theorem layout_noninterference :
    (∀ ts us : List Token, ts.map Token.content = us.map Token.content →
      SameReading (parseProgram ts) (parseProgram us)) ∧
    ∀ p q : Program, p.SameUpToPlaces q → ∀ (m : Machine Game) (rounds : Nat) (echo : Bool),
      SameEnd (p.run Game.resolver rounds echo m) (q.run Game.resolver rounds echo m) := by
  refine ⟨fun ts us h => parseProgram_sameReading h, fun p q h m rounds echo => ?_⟩
  exact run_sameEnd h m rounds echo

/-- An action and a division by zero, on one line. -/
@[irreducible] def onOneLine : List Token :=
  scan "ping(river); 1 / 0"

@[irreducible] def onThreeLines : List Token :=
  scan "ping(\n  river);\n\n1 /0"

theorem layout_noninterference_three_lines :
    onOneLine ≠ onThreeLines ∧ onOneLine.map Token.content = onThreeLines.map Token.content ∧
      ∃ p q, parseProgram onOneLine = .ok p ∧ parseProgram onThreeLines = .ok q ∧
        p.SameUpToPlaces q ∧ SameEnd (p.run Game.resolver 1 true (.start {}))
          (q.run Game.resolver 1 true (.start {})) := by
  have hcontent : onOneLine.map Token.content = onThreeLines.map Token.content := by
    decide +kernel
  have hok : (parseProgram onOneLine).toOption.isSome = true := by decide +kernel
  have hread := layout_noninterference.1 onOneLine onThreeLines hcontent
  refine ⟨by decide +kernel, hcontent, ?_⟩
  generalize parseProgram onOneLine = first, parseProgram onThreeLines = second at hok hread
  cases hread with
  | @ok p q hsame =>
    exact ⟨p, q, rfl, rfl, hsame, layout_noninterference.2 p q hsame (.start {}) 1 true⟩
  | error => cases hok

end RiftScript
