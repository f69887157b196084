/-
Showing results.

A run may show the value of every top-level expression, or it may not. `Program.turns` takes the
statements of a program one after the other and shows nothing: it tells what each of them writes
itself and what value it has. Both runs follow these turns. The one that shows results adds a line
after the lines of a turn that has a value other than nil, and that is all it does.
-/
import RiftScript.Proofs.Running.Notices
import RiftScript.Proofs.Running.Transcript

namespace RiftScript

variable {σ : Type}

/-! ## Turns -/

/-- Take a top-level statement. Only an expression has a value. -/
def Stmt.take (r : Resolver σ) (rounds : Nat) : Stmt → Run σ (Option Value)
  | .expression e => do return some (← e.evaluate r)
  | s => do
    s.execute r rounds
    return none

/-- What became of a top-level statement. -/
structure Turn where
  /-- All that it wrote, with the report of the error that ended it. -/
  notices : List Notice
  value : Option Value

namespace Turn

def lines (t : Turn) : List String :=
  t.notices.filterMap Notice.line?

/-- The line that shows the value of a turn, if there is one to show. -/
def results (t : Turn) : List String :=
  match t.value with
  | none | some .nil => []
  | some v => ["Result: " ++ v.display]

/-- What a run shows of the value of a statement. -/
def shown (echo : Bool) : Option Value → List Notice
  | some v => if echo && v != .nil then [.result v] else []
  | none => []

/-- All that a run writes in a turn. -/
def told (echo : Bool) (t : Turn) : List Notice :=
  t.notices ++ shown echo t.value

theorem told_none (echo : Bool) (notices : List Notice) : told echo ⟨notices, none⟩ = notices :=
  List.append_nil notices

theorem lines_told_false (t : Turn) : (t.told false).filterMap Notice.line? = t.lines := by
  have hshown : shown false t.value = [] := by
    cases t.value <;> rfl
  rw [told, hshown, List.append_nil, lines]

theorem lines_told_true (t : Turn) :
    (t.told true).filterMap Notice.line? = t.lines ++ t.results := by
  have hshown : (shown true t.value).filterMap Notice.line? = t.results := by
    unfold results
    cases t.value with
    | none => rfl
    | some v => cases v <;> rfl
  rw [told, List.filterMap_append, hshown, lines]

end Turn

/-- The turns of a program. Every statement starts on the machine that the one before has left, and
an error of the script does not keep the next one from its turn. -/
def Program.turns (r : Resolver σ) (rounds : Nat) : Program → Machine σ → List Turn
  | [], _ => []
  | s :: ss, m =>
    match s.take r rounds m.fresh with
    | .ok value n => ⟨n.notices.toList, value⟩ :: Program.turns r rounds ss n
    | .error (.script e) n =>
      ⟨n.notices.toList ++ [.failure e], none⟩ :: Program.turns r rounds ss n
    | .error _ n => [⟨n.notices.toList, none⟩]

section Turns

variable {r : Resolver σ} {rounds : Nat} {s : Stmt} {ss : Program} {m n : Machine σ}

theorem Program.turns_cons_of_ok {value : Option Value}
    (h : s.take r rounds m.fresh = .ok value n) :
    Program.turns r rounds (s :: ss) m
      = ⟨n.notices.toList, value⟩ :: Program.turns r rounds ss n := by
  rw [turns, h]

theorem Program.turns_cons_of_script {e : RuntimeError}
    (h : s.take r rounds m.fresh = .error (.script e) n) :
    Program.turns r rounds (s :: ss) m
      = ⟨n.notices.toList ++ [.failure e], none⟩ :: Program.turns r rounds ss n := by
  rw [turns, h]

theorem Program.turns_cons_of_other {failure : Failure}
    (h : s.take r rounds m.fresh = .error failure n) (hne : ∀ e, failure ≠ .script e) :
    Program.turns r rounds (s :: ss) m = [⟨n.notices.toList, none⟩] := by
  rw [turns, h]
  cases failure with
  | script e => exact absurd rfl (hne e)
  | _ => rfl

/-- The turns do not depend on what was told before them. -/
theorem Program.turns_congr (h : m.fresh = n.fresh) (p : Program) :
    p.turns r rounds m = p.turns r rounds n := by
  cases p with
  | nil => rfl
  | cons s ss => rw [turns, turns, h]

end Turns

/-! ## One turn of a run -/

section Steps

variable {r : Resolver σ} {rounds : Nat} {s : Stmt} {m n : Machine σ}

/-- A statement is taken alike whatever was told before it. -/
theorem Stmt.take_following (r : Resolver σ) (rounds : Nat) (s : Stmt) (earlier : Array Notice)
    (m : Machine σ) :
    s.take r rounds (m.following earlier)
      = Run.onMachine (Machine.following earlier) (s.take r rounds m) := by
  have hr := following_simulates r earlier
  have hexecute := s.execute_simulates hr rounds
  rw [s.relocate_stay] at hexecute
  refine Run.Simulates.eq_onMachine ?_ m
  cases s with
  | expression e =>
    have hevaluate := e.evaluate_simulates hr
    rw [e.relocate_stay] at hevaluate
    exact hevaluate.bind fun v => Run.simulates_pure rfl
  | _ => exact hexecute.bind fun _ => Run.simulates_pure rfl

/-- Show the value of a statement. -/
def Run.exhibit (echo : Bool) : Option Value → Run σ Unit
  | some v => if echo && v != .nil then Run.notice (.result v) else return ()
  | none => return ()

theorem Run.exhibit_apply (echo : Bool) (value : Option Value) (m : Machine σ) :
    ∃ k, Run.exhibit echo value m = .ok () k ∧ k.fresh = m.fresh ∧
      k.notices.toList = m.notices.toList ++ Turn.shown echo value := by
  cases value with
  | none => exact ⟨m, rfl, rfl, (List.append_nil _).symm⟩
  | some v =>
    rw [exhibit, Turn.shown]
    split
    · exact ⟨m.emit (.result v), rfl, rfl, Array.toList_push⟩
    · exact ⟨m, rfl, rfl, (List.append_nil _).symm⟩

/-- A run takes its statements as they are, and shows the values afterwards. -/
theorem Stmt.runTop_eq (r : Resolver σ) (rounds : Nat) (echo : Bool) (s : Stmt) :
    s.runTop r rounds echo = s.take r rounds >>= Run.exhibit echo := by
  have hother : s.execute r rounds =
      ((do
        s.execute r rounds
        return none) >>= Run.exhibit echo : Run σ Unit) := by
    rw [bind_assoc]
    exact (bind_pure_unit (x := s.execute r rounds)).symm
  cases s with
  | expression e =>
    rw [runTop, take, bind_assoc]
    rfl
  | _ => exact hother

theorem Stmt.runTop_of_ok {value : Option Value} (h : s.take r rounds m.fresh = .ok value n)
    (echo : Bool) : ∃ k, s.runTop r rounds echo m = .ok () k ∧ k.fresh = n.fresh ∧
      k.notices.toList = m.notices.toList ++ Turn.told echo ⟨n.notices.toList, value⟩ := by
  have htake : s.take r rounds m = .ok value (n.following m.notices) := by
    rw [← m.following_fresh, s.take_following, h]
    rfl
  obtain ⟨k, hk, hfresh, hnotices⟩ := Run.exhibit_apply echo value (n.following m.notices)
  refine ⟨k, ?_, hfresh, ?_⟩
  · rw [runTop_eq, Run.bind_of_ok htake, hk]
  · rw [hnotices, Turn.told, ← List.append_assoc, Machine.following, Array.toList_append]

theorem Stmt.runTop_of_error {failure : Failure} (h : s.take r rounds m.fresh = .error failure n)
    (echo : Bool) : s.runTop r rounds echo m = .error failure (n.following m.notices) := by
  have htake : s.take r rounds m = .error failure (n.following m.notices) := by
    rw [← m.following_fresh, s.take_following, h]
    rfl
  rw [runTop_eq, Run.bind_of_error htake]

end Steps

/-! ## Whole runs -/

section Runs

variable {r : Resolver σ} {rounds : Nat}

/-- A run writes what its turns write, with the values it shows. -/
theorem Program.notices_run (echo : Bool) (p : Program) (m : Machine σ) :
    (Run.machine (p.run r rounds echo m)).notices.toList
      = m.notices.toList ++ (p.turns r rounds m).flatMap (Turn.told echo) := by
  induction p generalizing m with
  | nil => exact (List.append_nil _).symm
  | cons s ss ih =>
    cases h : s.take r rounds m.fresh with
    | ok value n =>
      obtain ⟨k, hk, hfresh, hnotices⟩ := Stmt.runTop_of_ok h echo
      rw [run_cons_of_ok hk, ih, hnotices, turns_congr hfresh, turns_cons_of_ok h,
        List.flatMap_cons, List.append_assoc]
    | error failure n =>
      have hrun := Stmt.runTop_of_error h echo
      by_cases hscript : ∃ e, failure = .script e
      · obtain ⟨e, rfl⟩ := hscript
        have hfresh : ((n.following m.notices).emit (.failure e)).fresh = n.fresh := rfl
        have hnotices : ((n.following m.notices).emit (.failure e)).notices.toList
            = m.notices.toList ++ (n.notices.toList ++ [.failure e]) := by
          simp [Machine.emit, Machine.following]
        rw [run_cons_of_script hrun, Run.machine_map, ih, hnotices, turns_congr hfresh,
          turns_cons_of_script h, List.flatMap_cons, Turn.told_none, List.append_assoc]
      · have hother : ∀ e, failure ≠ .script e := fun e he => hscript ⟨e, he⟩
        rw [run_cons_of_other hrun hother, turns_cons_of_other h hother, List.flatMap_singleton,
          Turn.told_none]
        exact Array.toList_append

theorem Program.lines_run (echo : Bool) (p : Program) (m : Machine σ) :
    (Run.machine (p.run r rounds echo m)).lines = m.lines ++
      (p.turns r rounds m).flatMap fun t => (t.told echo).filterMap Notice.line? := by
  rw [Machine.lines, notices_run, List.filterMap_append, List.filterMap_flatMap, Machine.lines]

/-- Whether values are shown makes no difference to anything but the notices. -/
theorem Program.run_simulates_echo (r : Resolver σ) (rounds : Nat) (p : Program) :
    Run.Simulates .stay (fun m n => m.fresh = n.fresh) Eq (p.run r rounds true)
      (p.run r rounds false) := by
  have hturn : ∀ s : Stmt, Run.Simulates .stay (fun m n => m.fresh = n.fresh) Eq
      (s.runTop r rounds true) (s.runTop r rounds false) := by
    intro s m n hmn
    cases h : s.take r rounds m.fresh with
    | ok value k =>
      obtain ⟨m', hm, hfresh, -⟩ := Stmt.runTop_of_ok h true
      obtain ⟨n', hn, hfresh', -⟩ := Stmt.runTop_of_ok (hmn ▸ h) false
      rw [hm, hn]
      exact .ok rfl (hfresh.trans hfresh'.symm)
    | error failure k =>
      rw [Stmt.runTop_of_error h true, Stmt.runTop_of_error (hmn ▸ h) false]
      exact .error (failure.relocate_stay).symm rfl
  have hrun := Program.run_simulates_map (g := id) hturn (fun m n hmn e => hmn) p
  rw [List.map_id] at hrun
  exact hrun.mono Program.eq_of_stay

theorem Program.outcome_echo (r : Resolver σ) (rounds : Nat) (p : Program) (m : Machine σ) :
    Run.onMachine Machine.fresh (p.run r rounds true m)
      = Run.onMachine Machine.fresh (p.run r rounds false m) := by
  have h := p.run_simulates_echo r rounds m m rfl
  generalize p.run r rounds true m = first, p.run r rounds false m = second at h ⊢
  cases h with
  | ok hsame hfresh =>
    subst hsame
    exact congrArg (EStateM.Result.ok _) hfresh
  | @error failure _ _ _ hfailure hfresh =>
    rw [hfailure, failure.relocate_stay]
    exact congrArg (EStateM.Result.error failure) hfresh

end Runs

/-- Showing results is for the eye alone. With results or without, a run ends with the same errors or
the same failure (that of a loop which reaches the bound on its rounds is one of them), with the same
champions and the same state of the host, after the same questions and answers. Without results the
lines of the run are those of its turns. With results there is a line more right after those of each
turn that has a value other than nil. -/
theorem echo_only_adds_results (r : Resolver σ) (rounds : Nat) (p : Program) (m : Machine σ) :
    Run.onMachine Machine.fresh (p.run r rounds true m)
        = Run.onMachine Machine.fresh (p.run r rounds false m) ∧
      p.interactions r rounds true m = p.interactions r rounds false m ∧
      (Run.machine (p.run r rounds false m)).lines
        = m.lines ++ (p.turns r rounds m).flatMap Turn.lines ∧
      (Run.machine (p.run r rounds true m)).lines
        = m.lines ++ (p.turns r rounds m).flatMap fun t => t.lines ++ t.results := by
  refine ⟨p.outcome_echo r rounds m, ?_, ?_, ?_⟩
  · have hrecorded := congrArg Run.machine (p.outcome_echo r.recorded rounds m.recording)
    rw [Run.machine_onMachine, Run.machine_onMachine] at hrecorded
    exact congrArg (fun k => k.host.record) hrecorded
  · rw [p.lines_run, funext Turn.lines_told_false]
  · rw [p.lines_run, funext Turn.lines_told_true]

end RiftScript
