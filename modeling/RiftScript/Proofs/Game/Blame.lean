/-
Errors of a run and the statements they come from.

A run gives back the errors of the script. With a game as the host, every one of them points into
the statement that raised it, provided that the functions of the embedding program raise no errors
of the script themselves: these have no token, since a function does not know where it was called.
-/
import RiftScript.Proofs.Game.Faults
import RiftScript.Proofs.Parsing.Singles
import RiftScript.Proofs.Recovery.Ranges
import RiftScript.Proofs.Running.Blame

namespace RiftScript

/-! ## Answers -/

/-- However often it is called, the function raises no error of the script. What it keeps between
its calls may see to that. -/
def HostFunction.NeverRaises (f : HostFunction) : Prop :=
  ∃ keeps : Datum → Prop, keeps f.memory ∧ ∀ memory, keeps memory → ∀ arguments state,
    keeps (f.step memory arguments state).memory ∧
      ∀ message, (f.step memory arguments state).reply ≠ .scriptError message

def Game.NeverRaises (g : Game) : Prop :=
  ∀ entry ∈ g.functions, entry.2.NeverRaises

namespace Game

theorem blames_refuse {g : Game} (hg : g.NeverRaises) (token : Token) (cause : RuntimeCause) :
    (g.refuse token cause).Blames NeverRaises token := by
  refine ⟨hg, fun f h => ?_⟩
  cases h
  exact Failure.isAt_atToken token cause

theorem blames_answer {g : Game} (hg : g.NeverRaises) (token : Token) (d : Datum) :
    (g.answer d).Blames NeverRaises token := by
  refine ⟨hg, fun f h => ?_⟩
  cases h

theorem blames_lookup {g : Game} (hg : g.NeverRaises) (name : Token) :
    (lookup name g).Blames NeverRaises name := by
  unfold lookup
  split
  · exact blames_answer hg name _
  · split
    · exact blames_answer hg name _
    · exact blames_refuse hg name _

theorem blames_callHost {g : Game} (hg : g.NeverRaises) (callee : Token) {f : HostFunction}
    (hf : f.NeverRaises) (arguments : List Value) :
    (g.callHost callee f arguments).Blames NeverRaises callee := by
  obtain ⟨keeps, hmemory, hstep⟩ := hf
  obtain ⟨hkeeps, hreply⟩ := hstep f.memory hmemory arguments g.state
  have hnext : ∀ entry ∈ put callee.lexeme
      { f with memory := (f.step f.memory arguments g.state).memory } g.functions,
      entry.2.NeverRaises := by
    intro entry hentry
    rcases mem_put hentry with rfl | hentry
    · exact ⟨keeps, hkeeps, hstep⟩
    · exact hg entry hentry
  unfold callHost
  dsimp only
  split
  · exact ⟨hnext, Failure.isAt_of_map (fun _ => Run.isAt_of_valueAt) _⟩
  · next message hraised => exact absurd hraised (hreply message)
  · refine blames_refuse ?_ callee _
    exact hnext
  · refine ⟨hnext, fun f h => ?_⟩
    cases h
    trivial

theorem blames_perform {g : Game} (hg : g.NeverRaises) (callee : Token) (action : Action)
    (arguments : List Value) : (g.perform callee action arguments).Blames NeverRaises callee := by
  unfold perform
  dsimp only
  split
  · refine ⟨hg, fun f h => ?_⟩
    cases h
    trivial
  · split
    · refine ⟨hg, fun f h => ?_⟩
      cases h
    · refine ⟨hg, fun f h => ?_⟩
      cases h
      trivial

theorem blames_plainQuery {g : Game} (hg : g.NeverRaises) (callee : Token)
    (arguments : List Value) (d : Datum) :
    (g.plainQuery callee arguments d).Blames NeverRaises callee := by
  unfold plainQuery
  split
  · exact blames_answer hg callee d
  · exact blames_refuse hg callee _

theorem isAt_of_within {distance : Datum} {limit : Float} {f : Failure} (tokens : List Token)
    (h : within distance limit = .error f) : f.IsAt tokens := by
  unfold within at h
  split at h
  · cases h
  · cases h
  · split at h
    · cases h
    · cases h
      trivial

theorem blames_numberQuery {g : Game} (hg : g.NeverRaises) (callee : Token)
    (arguments : List Value) (distance : Datum) :
    (g.numberQuery callee arguments (within distance)).Blames NeverRaises callee := by
  unfold numberQuery
  split
  · exact ⟨hg, Failure.isAt_of_map (fun _ => isAt_of_within _) _⟩
  · exact blames_refuse hg callee _
  · exact blames_refuse hg callee _

theorem blames_textQuery {g : Game} (hg : g.NeverRaises) (callee : Token)
    (arguments : List Value) (query : String → Except DatumFault Bool) :
    (g.textQuery callee arguments query).Blames NeverRaises callee := by
  unfold textQuery
  split
  · next s =>
    refine ⟨hg, Failure.isAt_of_map (fun f h => ?_) _⟩
    cases hquery : query s with
    | ok b =>
      rw [hquery] at h
      cases h
    | error fault =>
      rw [hquery] at h
      cases h
      trivial
  · exact blames_refuse hg callee _
  · exact blames_refuse hg callee _

theorem blames_query {g : Game} (hg : g.NeverRaises) (callee : Token) (arguments : List Value)
    (q : Query) : (g.query callee arguments q).Blames NeverRaises callee := by
  cases q with
  | getHealth | getMana | nearestEnemy => exact blames_plainQuery hg callee arguments _
  | enemyInRange | allyInRange => exact blames_numberQuery hg callee arguments _
  | hasBuff | itemReady | cooldownReady => exact blames_textQuery hg callee arguments _

/-- Every answer of a game is at the name or the callee that it was asked for. -/
theorem resolver_blames : resolver.Blames NeverRaises where
  lookup := blames_lookup
  call := by
    intro g hg callee arguments
    show (call callee arguments g).Blames NeverRaises callee
    unfold call
    split
    · next f hlookup =>
      obtain ⟨before, after, hfunctions, _⟩ := List.lookup_eq_some_iff.mp hlookup
      have hf : f.NeverRaises := hg (callee.lexeme, f) (by simp [hfunctions])
      exact blames_callHost hg callee hf arguments
    · split
      · exact blames_perform hg callee _ arguments
      · exact blames_query hg callee arguments _
      · exact blames_refuse hg callee _

end Game

/-! ## Runs -/

/-- The error is at an operator, name or callee of the statement, which is among its tokens. -/
def RuntimeError.PointsInto (s : Stmt) (tokens : List Token) (e : RuntimeError) : Prop :=
  ∃ t, e.token = some t ∧ t ∈ tokens ∧ t ∈ s.suspects ∧ e.line = t.line

/-- Statements come with the tokens that spell them. The error `e` of a run of them was raised by
one that it points into. The errors in front of `e` are those of the statements in front of that
one, and the errors behind it are those of the statements behind. -/
def RaisedIn {σ : Type} (r : Resolver σ) (rounds : Nat) (echo : Bool)
    (parts : List (Stmt × List Token)) (m : Machine σ) (before : List RuntimeError)
    (e : RuntimeError) (after : List RuntimeError) (n : Machine σ) : Prop :=
  ∃ front s tokens back k l, parts = front ++ (s, tokens) :: back ∧
    Program.Completes r rounds echo (front.map Prod.fst) m before k ∧
    s.runTop r rounds echo k = .error (.script e) l ∧ e.PointsInto s tokens ∧
    Program.Completes r rounds echo (back.map Prod.fst) (l.emit (.failure e)) after n

section Runs

variable {σ : Type} {r : Resolver σ} {rounds : Nat} {echo : Bool}

theorem Program.completes_of_run {p : Program} {m n : Machine σ} {errors : List RuntimeError}
    (h : p.run r rounds echo m = .ok errors n) : p.Completes r rounds echo m errors n := by
  rcases p.run_cases r rounds echo m with ⟨errors', last, hok, hcompletes⟩ | ⟨f, last, herror, _⟩
  · rw [h] at hok
    cases hok
    exact hcompletes
  · rw [h] at herror
    cases herror

theorem pointsInto_of_runTop {fair : σ → Prop} (hr : r.Blames fair) {s : Stmt}
    {tokens : List Token} (htokens : s.suspects ⊆ tokens) {m n : Machine σ} (hm : fair m.host)
    {e : RuntimeError} (h : s.runTop r rounds echo m = .error (.script e) n) :
    e.PointsInto s tokens := by
  obtain ⟨t, ht, htoken⟩ := (s.runTop_blames hr rounds echo m hm).2 _ n h
  refine ⟨t, htoken, htokens ht, ht, ?_⟩
  rw [RuntimeError.line, htoken]
  rfl

theorem raisedIn_of_completes {fair : σ → Prop} (hr : r.Blames fair)
    {parts : List (Stmt × List Token)} (hparts : ∀ part ∈ parts, part.1.suspects ⊆ part.2)
    {m n : Machine σ} (hm : fair m.host) {before after : List RuntimeError} {e : RuntimeError}
    (h : Program.Completes r rounds echo (parts.map Prod.fst) m (before ++ e :: after) n) :
    RaisedIn r rounds echo parts m before e after n := by
  -- The host is fair at every statement, so `m` has to vary along with the errors in front of `e`.
  induction parts generalizing m before with
  | nil => cases before <;> cases h
  | cons part parts ih =>
    obtain ⟨s, tokens⟩ := part
    obtain ⟨hpart, hparts⟩ := List.forall_mem_cons.mp hparts
    have hhost := (s.runTop_blames hr rounds echo m hm).1
    generalize herrors : before ++ e :: after = errors at h
    cases h with
    | done hs hss =>
      subst herrors
      rw [hs] at hhost
      obtain ⟨front, s', tokens', back, k, l, rfl, hfront, hrun, hpoints, hback⟩ :=
        ih hparts hhost hss
      exact ⟨_ :: front, s', tokens', back, k, l, rfl, .done hs hfront, hrun, hpoints, hback⟩
    | @failed _ _ _ next _ e' errors hs hss =>
      rw [hs] at hhost
      cases before with
      | nil =>
        obtain ⟨rfl, rfl⟩ := List.cons.inj herrors
        exact ⟨[], s, tokens, parts, m, next, rfl, .nil, hs,
          pointsInto_of_runTop hr hpart hm hs, hss⟩
      | cons first before =>
        obtain ⟨rfl, rfl⟩ := List.cons.inj herrors
        obtain ⟨front, s', tokens', back, k, l, rfl, hfront, hrun, hpoints, hback⟩ :=
          ih (m := next.emit _) hparts hhost hss
        exact ⟨_ :: front, s', tokens', back, k, l, rfl, .failed hs hfront, hrun, hpoints, hback⟩

end Runs

/-- The statements of a script divide its tokens among themselves. -/
theorem exists_parts_of_parseProgram {source : String} {p : Program}
    (h : parseProgram (scan source) = .ok p) :
    ∃ (parts : List (Stmt × List Token)) (stop : Token), parts.map Prod.fst = p ∧
      parts.flatMap Prod.snd ++ [stop] = scan source ∧
      ∀ part ∈ parts, ∃ next, part.1.Yields Expr.Apart part.2 next := by
  obtain ⟨rest, hprogram⟩ := TokenStream.parse_eq_ok.mp h
  obtain ⟨parts, hstatements, htokens, hparts⟩ :=
    (Parser.spelled_of_statements (fun _ _ h => h) hprogram).1.exists_parts
  refine ⟨parts, (TokenStream.ofTokens (scan source)).stop, hstatements, ?_, hparts⟩
  rw [htokens]
  exact stream_of_scan source

/-- The errors that a run gives back point into the statements that raised them, with one error at
most for each statement and in the order of the statements. -/
theorem run_errors_point (source : String) {p : Program}
    (hp : parseProgram (scan source) = .ok p) (rounds : Nat) (echo : Bool) {m n : Machine Game}
    (hm : m.host.NeverRaises) {errors : List RuntimeError}
    (hrun : p.run Game.resolver rounds echo m = .ok errors n) :
    ∃ (parts : List (Stmt × List Token)) (stop : Token), parts.map Prod.fst = p ∧
      parts.flatMap Prod.snd ++ [stop] = scan source ∧
      (∀ part ∈ parts, ∃ next, part.1.Yields Expr.Apart part.2 next) ∧
      ∀ before e after, errors = before ++ e :: after →
        RaisedIn Game.resolver rounds echo parts m before e after n := by
  obtain ⟨parts, stop, rfl, hscan, hparts⟩ := exists_parts_of_parseProgram hp
  refine ⟨parts, stop, rfl, hscan, hparts, ?_⟩
  rintro before e after rfl
  have hsuspects : ∀ part ∈ parts, part.1.suspects ⊆ part.2 := by
    intro part hpart
    obtain ⟨next, hyields⟩ := hparts part hpart
    exact hyields.suspects_sublist.subset
  exact raisedIn_of_completes Game.resolver_blames hsuspects hm (Program.completes_of_run hrun)

theorem Run.eq_ok_of_run' {σ α : Type} {x : Run σ α} {m : Machine σ} {a : α}
    (h : x.run' m = some a) : ∃ n, x m = .ok a n := by
  delta EStateM.run' EStateM.run at h
  cases hx : x m with
  | ok b n =>
    rw [hx] at h
    cases h
    exact ⟨n, rfl⟩
  | error f n =>
    rw [hx] at h
    cases h

/-- An operator, a call in a branch, a unary operator and a name fail; a handler that would fail is
not run. -/
def blunderSource : String :=
  "1 + nil;\nchampion Ashe { onDeath { 1 / 0; } }\n"
    ++ "if (true) { roll(2); }\n-\"a\"; hp"

@[irreducible] def blunders : Program :=
  (parseProgram (scan blunderSource)).toOption.getD []

def blunderGame : Machine Game :=
  .start { functions := [("roll", .failing "no dice")] }

theorem run_errors_point_four_causes :
    parseProgram (scan blunderSource) = .ok blunders ∧ blunderGame.host.NeverRaises ∧
      ∃ errors n, blunders.run Game.resolver 1 true blunderGame = .ok errors n ∧
        errors.map RuntimeError.line = [1, 3, 4, 4] ∧
        ∃ (parts : List (Stmt × List Token)) (stop : Token), parts.map Prod.fst = blunders ∧
          parts.flatMap Prod.snd ++ [stop] = scan blunderSource ∧
          (∀ part ∈ parts, ∃ next, part.1.Yields Expr.Apart part.2 next) ∧
          ∀ before e after, errors = before ++ e :: after →
            RaisedIn Game.resolver 1 true parts blunderGame before e after n := by
  have hfacts : (parseProgram (scan blunderSource)).toOption.isSome = true ∧
      ((blunders.run Game.resolver 1 true).run' blunderGame).map (List.map RuntimeError.line) =
        some [1, 3, 4, 4] := by decide +kernel
  obtain ⟨hread, hlines⟩ := hfacts
  have hp : parseProgram (scan blunderSource) = .ok blunders := by
    unfold blunders
    exact eq_ok_getD [] hread
  have hm : blunderGame.host.NeverRaises := by
    intro entry hentry
    rw [List.mem_singleton.mp hentry]
    exact ⟨fun _ => True, trivial, fun _ _ _ _ => ⟨trivial, nofun⟩⟩
  obtain ⟨errors, herrors, hlines⟩ := Option.map_eq_some_iff.mp hlines
  obtain ⟨n, hrun⟩ := Run.eq_ok_of_run' herrors
  exact ⟨hp, hm, errors, n, hrun, hlines, run_errors_point blunderSource hp 1 true hm hrun⟩

end RiftScript
