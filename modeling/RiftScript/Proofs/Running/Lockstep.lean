/-
Runs side by side.

A host need not tell all machines apart. From machines that look alike to it a script does the same
thing, and the machines it leaves look alike again. So a loop whose round leads back to where it
started, as far as the host can see, never ends.

The other comparison is between bounds on the rounds of loops. A run that its bound did not cut
short is the same under every larger bound.
-/
import RiftScript.Proofs.Running.Simulation

namespace RiftScript

namespace Run

variable {σ α β : Type}

/-! ## Machines that look alike -/

/-- Two steps gave the same result or the same failure, and machines that are alike. -/
inductive Matches (alike : Machine σ → Machine σ → Prop) :
    EStateM.Result Failure (Machine σ) α → EStateM.Result Failure (Machine σ) α → Prop where
  | ok (a : α) {m n : Machine σ} (h : alike m n) : Matches alike (.ok a m) (.ok a n)
  | error (f : Failure) {m n : Machine σ} (h : alike m n) : Matches alike (.error f m) (.error f n)

/-- From machines that are alike the step does the same. -/
def Lockstep (alike : Machine σ → Machine σ → Prop) (x : Run σ α) : Prop :=
  ∀ m n, alike m n → Matches alike (x m) (x n)

variable {alike : Machine σ → Machine σ → Prop}

/-- A step that stands beside itself in a simulation. -/
theorem Lockstep.of_simulates {x : Run σ α} (h : Simulates .stay alike Eq x x) :
    Lockstep alike x := by
  intro m n hmn
  have h := h m n hmn
  generalize x m = first, x n = second at h ⊢
  cases h with
  | @ok a b _ _ hgood h =>
    subst hgood
    exact .ok a h
  | @error failure failure' _ _ hfailure h =>
    rw [hfailure, failure.relocate_stay]
    exact .error failure h

theorem Lockstep.of_ok {x : Run σ α} (hx : Lockstep alike x) {m n m' : Machine σ} {a : α}
    (h : alike m n) (hm : x m = .ok a m') : ∃ n', x n = .ok a n' ∧ alike m' n' := by
  have hx := hx m n h
  rw [hm] at hx
  generalize x n = result at hx ⊢
  cases hx with
  | ok _ h => exact ⟨_, rfl, h⟩

end Run

/-- The host gives the same replies on machines that are alike, and they stay alike. -/
structure Resolver.Respects {σ : Type} (r : Resolver σ) (alike : Machine σ → Machine σ → Prop) :
    Prop where
  declare : ∀ {m n}, alike m n → ∀ d : Champion, alike (m.declare d) (n.declare d)
  lookup : ∀ {m n}, alike m n → ∀ name : Token,
    (r.lookup name m.host).reply = (r.lookup name n.host).reply ∧
      alike (m.accept (r.lookup name m.host)) (n.accept (r.lookup name n.host))
  call : ∀ {m n}, alike m n → ∀ (callee : Token) (arguments : List Value),
    (r.call callee arguments m.host).reply = (r.call callee arguments n.host).reply ∧
      alike (m.accept (r.call callee arguments m.host))
        (n.accept (r.call callee arguments n.host))

section Lockstep

variable {σ : Type} {r : Resolver σ} {alike : Machine σ → Machine σ → Prop}

theorem Resolver.Respects.simulates (hr : r.Respects alike) :
    Resolver.Simulates .stay alike r r where
  declare m n h d := by
    rw [d.relocate_stay]
    exact hr.declare h d
  lookup name m n h := by
    obtain ⟨hreply, halike⟩ := hr.lookup h name
    exact ⟨by rw [mapError_stay, hreply]; rfl, halike⟩
  call callee arguments m n h := by
    obtain ⟨hreply, halike⟩ := hr.call h callee arguments
    exact ⟨by rw [mapError_stay, hreply]; rfl, halike⟩

theorem Expr.evaluate_lockstep (hr : r.Respects alike) (e : Expr) :
    Run.Lockstep alike (e.evaluate r) := by
  have h := e.evaluate_simulates hr.simulates
  rw [e.relocate_stay] at h
  exact .of_simulates h

theorem executeAll_lockstep (hr : r.Respects alike) (rounds : Nat) (ss : List Stmt) :
    Run.Lockstep alike (executeAll r rounds ss) := by
  have h := executeAll_simulates hr.simulates rounds ss
  rw [relocateBody_stay ss] at h
  exact .of_simulates h

end Lockstep

/-! ## Larger bounds -/

namespace Run

variable {σ α β : Type}

/-- The bound on the rounds of a loop ended the step. -/
def Unfinished (result : EStateM.Result Failure (Machine σ) α) : Prop :=
  ∃ m, result = .error .unfinished m

instance (result : EStateM.Result Failure (Machine σ) α) : Decidable (Unfinished result) :=
  match result with
  | .error .unfinished m => isTrue ⟨m, rfl⟩
  | .error (.script _) _ | .error (.host _) _ | .error .aborted _ | .ok _ _ => isFalse nofun

/-- Unless the first step is cut short, the second does the same. -/
def Extends (x y : Run σ α) : Prop :=
  ∀ m, Unfinished (x m) ∨ y m = x m

theorem extends_refl (x : Run σ α) : Extends x x :=
  fun _ => .inr rfl

theorem Extends.bind {x y : Run σ α} {f g : α → Run σ β} (hxy : Extends x y)
    (hfg : ∀ a, Extends (f a) (g a)) : Extends (x >>= f) (y >>= g) := by
  intro m
  rcases hxy m with ⟨n, hcut⟩ | hsame
  · exact .inl ⟨n, bind_of_error hcut⟩
  · cases hx : x m with
    | ok a n =>
      rw [bind_of_ok hx, bind_of_ok (hsame.trans hx)]
      exact hfg a n
    | error failure n =>
      rw [bind_of_error hx, bind_of_error (hsame.trans hx)]
      exact .inr rfl

end Run

section Bounds

variable {σ : Type} {r : Resolver σ}

theorem repeatWhile_extends {test : Run σ Value} {body body' : Run σ Unit}
    (hb : Run.Extends body body') {rounds rounds' : Nat} (hle : rounds ≤ rounds') :
    Run.Extends (repeatWhile test body rounds) (repeatWhile test body' rounds') := by
  -- On the smaller bound: with none left the loop is cut short, and a round costs one of each.
  induction rounds generalizing rounds' with
  | zero => exact fun m => .inl ⟨m, rfl⟩
  | succ rounds ih =>
    obtain ⟨k, rfl⟩ : ∃ k, rounds' = k + 1 := ⟨rounds' - 1, by omega⟩
    rw [repeatWhile, repeatWhile]
    refine (Run.extends_refl test).bind fun v => ?_
    split
    · exact hb.bind fun _ => ih (by omega)
    · exact Run.extends_refl _

mutual

theorem Stmt.execute_extends {rounds rounds' : Nat} (hle : rounds ≤ rounds') :
    (s : Stmt) → Run.Extends (s.execute r rounds) (s.execute r rounds')
  | .expression value => by
    rw [Stmt.execute, Stmt.execute]
    exact Run.extends_refl _
  | .block statements => by
    rw [Stmt.execute, Stmt.execute]
    exact executeAll_extends hle statements
  | .conditional condition thenBody elseBody => by
    rw [Stmt.execute, Stmt.execute]
    refine (Run.extends_refl _).bind fun v => ?_
    split
    · exact executeAll_extends hle thenBody
    · exact executeElse_extends hle elseBody
  | .loop condition body => by
    rw [Stmt.execute, Stmt.execute]
    exact repeatWhile_extends (executeAll_extends hle body) hle
  | .combo actions => by
    rw [Stmt.execute, Stmt.execute]
    exact executeAll_extends hle actions
  | .champion declared => by
    rw [Stmt.execute, Stmt.execute]
    exact Run.extends_refl _

theorem executeAll_extends {rounds rounds' : Nat} (hle : rounds ≤ rounds') :
    (ss : List Stmt) → Run.Extends (executeAll r rounds ss) (executeAll r rounds' ss)
  | [] => by
    rw [executeAll, executeAll]
    exact Run.extends_refl _
  | s :: ss => by
    rw [executeAll, executeAll]
    exact (s.execute_extends hle).bind fun _ => executeAll_extends hle ss

theorem executeElse_extends {rounds rounds' : Nat} (hle : rounds ≤ rounds') :
    (e : Option (List Stmt)) → Run.Extends (executeElse r rounds e) (executeElse r rounds' e)
  | none => by
    rw [executeElse, executeElse]
    exact Run.extends_refl _
  | some body => by
    rw [executeElse, executeElse]
    exact executeAll_extends hle body

end

end Bounds

/-! ## Rounds of a loop -/

/-- The test held and the body was completed, a number of times in a row. -/
inductive Rounds {σ : Type} (test : Run σ Value) (body : Run σ Unit) :
    Nat → Machine σ → Machine σ → Prop where
  | zero {m : Machine σ} : Rounds test body 0 m m
  | succ {count : Nat} {m tested done last : Machine σ} {v : Value} (ht : test m = .ok v tested)
      (hv : v.truthy = true) (hb : body tested = .ok () done)
      (hrest : Rounds test body count done last) : Rounds test body (count + 1) m last

section Rounds

variable {σ : Type} {test : Run σ Value} {body : Run σ Unit}

theorem Rounds.extend {body' : Run σ Unit} (hb : Run.Extends body body') {count : Nat}
    {m last : Machine σ} (h : Rounds test body count m last) : Rounds test body' count m last := by
  induction h with
  | zero => exact .zero
  | @succ count m tested done last v ht hv hdone hrest ih =>
    rcases hb tested with ⟨n, hcut⟩ | hsame
    · rw [hcut] at hdone
      cases hdone
    · exact .succ ht hv (hsame.trans hdone) ih

/-- Rounds keep to every contract that the test and the body keep to. -/
theorem Rounds.keeps {c : Contract σ} (ht : Run.Obeys c c.values test)
    (hb : Run.Obeys c (fun _ => True) body) {count : Nat} {m last : Machine σ}
    (h : Rounds test body count m last) (hm : c.holds m) : c.holds last ∧ c.leads m last := by
  induction h with
  | zero => exact ⟨hm, c.refl _⟩
  | @succ count m tested done last v htest hv hdone hrest ih =>
    have ht := ht m hm
    rw [htest] at ht
    have hb := hb tested ht.1
    rw [hdone] at hb
    obtain ⟨hlast, hlead⟩ := ih hb.1
    exact ⟨hlast, c.trans ht.2.1 (c.trans hb.2.1 hlead)⟩

theorem rounds_one_iff {m next : Machine σ} :
    Rounds test body 1 m next ↔
      ∃ v tested, test m = .ok v tested ∧ v.truthy = true ∧ body tested = .ok () next := by
  constructor
  · intro h
    cases h with
    | succ ht hv hb hrest =>
      cases hrest
      exact ⟨_, _, ht, hv, hb⟩
  · rintro ⟨v, tested, ht, hv, hb⟩
    exact .succ ht hv hb .zero

theorem repeatWhile_of_round {m tested done : Machine σ} {v : Value} (ht : test m = .ok v tested)
    (hv : v.truthy = true) (hb : body tested = .ok () done) (rounds : Nat) :
    repeatWhile test body (rounds + 1) m = repeatWhile test body rounds done := by
  rw [repeatWhile, Run.bind_of_ok ht, if_pos hv, Run.bind_of_ok hb]

/-- A loop that its bound does not cut short completes a number of rounds, and not one more. -/
theorem exists_rounds {rounds : Nat} {m : Machine σ}
    (h : ¬ Run.Unfinished (repeatWhile test body rounds m)) :
    ∃ count last, Rounds test body count m last ∧ ∀ next, ¬ Rounds test body 1 last next := by
  induction rounds generalizing m with
  | zero => exact absurd ⟨m, rfl⟩ h
  | succ rounds ih =>
    by_cases hnext : ∃ next, Rounds test body 1 m next
    · obtain ⟨next, hround⟩ := hnext
      obtain ⟨v, tested, ht, hv, hb⟩ := rounds_one_iff.mp hround
      rw [repeatWhile_of_round ht hv hb] at h
      obtain ⟨count, last, hcount, hlast⟩ := ih h
      exact ⟨count + 1, last, .succ ht hv hb hcount, hlast⟩
    · exact ⟨0, m, .zero, fun next hround => hnext ⟨next, hround⟩⟩

/-- A round that leads to a machine like the one it started from is followed by another such
round, so no bound lets the loop end. -/
theorem unfinished_of_round {alike : Machine σ → Machine σ → Prop} (htest : Run.Lockstep alike test)
    (hbody : Run.Lockstep alike body) {m next : Machine σ} (h : Rounds test body 1 m next)
    (halike : alike m next) (rounds : Nat) :
    Run.Unfinished (repeatWhile test body rounds m) := by
  induction rounds generalizing m next with
  | zero => exact ⟨m, rfl⟩
  | succ rounds ih =>
    obtain ⟨v, tested, ht, hv, hb⟩ := rounds_one_iff.mp h
    rw [repeatWhile_of_round ht hv hb]
    -- From `next` the test and the body do what they did from `m`, which makes another round.
    obtain ⟨again, hnext, htested⟩ := htest.of_ok halike ht
    obtain ⟨after, hagain, hdone⟩ := hbody.of_ok htested hb
    exact ih (rounds_one_iff.mpr ⟨v, again, hnext, hv, hagain⟩) hdone

end Rounds
end RiftScript
