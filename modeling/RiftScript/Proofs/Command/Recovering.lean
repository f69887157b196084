/-
Running a script file with and without recovery.

Without recovery a script is accepted if it has no syntax error. What scanning finds wrong with it is
told and then passed over. With recovery a script is accepted if nothing at all was found wrong with
it, so that one which would run without recovery is refused for a stray character. Recovery needs the
limit on errors, too, and the settings may hold something that is no number.
-/
import RiftScript.Command.Run
import RiftScript.Proofs.Recovery.Refinement

namespace RiftScript
namespace Work

/-- The statements that a command gets from a script, unless it refuses the script or breaks off. -/
def accepted (s : Settings) (recover : Bool) (file source : String) : Option Program :=
  match statements? s recover file source #[] with
  | .ok program _ => program
  | .error _ _ => none

variable {s : Settings} {file source : String}

theorem statements?_plain (hplain : s.recoverErrors = false) (told : Array Notice) :
    statements? s false file source told
      = .ok (Script.readProgram file source).result
          (told ++ (Script.readProgram file source).notices.toArray) := by
  unfold statements?
  rw [hplain]
  rfl

theorem statements?_recovering {limit : Int} (hlimit : s.maxErrors = .ok limit)
    (told : Array Notice) :
    statements? s true file source told
      = .ok (if (check source (some limit)).success then some (check source (some limit)).statements
            else none)
          (told ++ (Script.readRecovering (some limit) file source).notices.toArray) := by
  unfold statements?
  rw [hlimit, ← Script.isEmpty_notices_readRecovering (some limit) file source]
  rfl

theorem statements?_unlimited {fault : DatumFault} (hlimit : s.maxErrors = .error fault)
    (told : Array Notice) : statements? s true file source told = .error (.datum fault) told := by
  unfold statements?
  rw [hlimit]
  rfl

theorem result_readProgram (file source : String) :
    (Script.readProgram file source).result = (parseProgram (scan source)).toOption := by
  rw [Script.readProgram, Script.readWith, Reading.following, Script.parseWith]
  cases parseProgram (scan source) <;> rfl

theorem accepted_plain (hplain : s.recoverErrors = false) :
    accepted s false file source = (parseProgram (scan source)).toOption := by
  rw [accepted, statements?_plain hplain, result_readProgram]

theorem accepted_recovering {limit : Int} (hlimit : s.maxErrors = .ok limit) :
    accepted s true file source
      = if (check source (some limit)).success then some (check source (some limit)).statements
        else none := by
  rw [accepted, statements?_recovering hlimit]

theorem accepted_unlimited {fault : DatumFault} (hlimit : s.maxErrors = .error fault) :
    accepted s true file source = none := by
  rw [accepted, statements?_unlimited hlimit]

/-- With recovery those scripts are accepted that are accepted without it and have nothing wrong for
scanning either, if there is a limit on errors. -/
theorem accepted_recovering_iff (hplain : s.recoverErrors = false) (p : Program) :
    accepted s true file source = some p ↔
      accepted s false file source = some p ∧ scanErrors source = [] ∧ s.maxErrors.isOk = true := by
  rw [accepted_plain hplain]
  cases hlimit : s.maxErrors with
  | error fault =>
    rw [accepted_unlimited hlimit]
    simp [Except.isOk, Except.toBool]
  | ok limit =>
    rw [accepted_recovering hlimit]
    cases hparse : parseProgram (scan source) with
    | ok q =>
      have hsuccess : (check source (some limit)).success = true ↔ scanErrors source = [] := by
        rw [success_check_iff]
        exact ⟨fun h => h.1, fun h => ⟨h, q, hparse⟩⟩
      have hstatements : (check source (some limit)).statements = q := by
        rw [check, Recovery.parseRecovering_of_ok _ hparse]
      rw [hstatements]
      by_cases hscan : scanErrors source = []
      · rw [if_pos (hsuccess.mpr hscan)]
        exact ⟨fun h => ⟨h, hscan, rfl⟩, fun h => h.1⟩
      · rw [if_neg (mt hsuccess.mp hscan)]
        constructor
        · intro h
          cases h
        · intro h
          exact absurd h.2.1 hscan
    | error e =>
      have hfailed : ¬ (check source (some limit)).success = true := by
        intro hsuccess
        obtain ⟨-, q, hq⟩ := (success_check_iff (some limit) source).mp hsuccess
        rw [hparse] at hq
        cases hq
      rw [if_neg hfailed]
      constructor
      · intro h
        cases h
      · intro h
        cases h.1

/-- What is accepted with recovery is read with nothing to say, so it is read alike without it. -/
theorem statements?_of_accepted (hplain : s.recoverErrors = false) {p : Program}
    (h : accepted s true file source = some p) :
    statements? s true file source = statements? s false file source := by
  obtain ⟨hfalse, hscan, hok⟩ := (accepted_recovering_iff hplain p).mp h
  obtain ⟨limit, hlimit⟩ : ∃ limit, s.maxErrors = .ok limit := by
    cases hmax : s.maxErrors with
    | ok limit => exact ⟨limit, rfl⟩
    | error fault =>
      rw [hmax] at hok
      cases hok
  have hparse : parseProgram (scan source) = .ok p := by
    rw [accepted_plain hplain] at hfalse
    cases hparse : parseProgram (scan source) with
    | ok q =>
      rw [hparse] at hfalse
      exact congrArg Except.ok (Option.some.inj hfalse)
    | error e =>
      rw [hparse] at hfalse
      cases hfalse
  have hsuccess : (check source (some limit)).success = true :=
    (success_check_iff (some limit) source).mpr ⟨hscan, p, hparse⟩
  have hrecovering : (Script.readRecovering (some limit) file source).notices = [] := by
    rw [← List.isEmpty_iff, Script.isEmpty_notices_readRecovering, hsuccess]
  have hprogram : (Script.readProgram file source).notices = [] := by
    rw [← List.isEmpty_iff, Script.isEmpty_notices_readProgram hparse (some limit), hsuccess]
  funext told
  rw [accepted_recovering hlimit] at h
  rw [statements?_recovering hlimit, statements?_plain hplain, h, result_readProgram, hparse,
    hrecovering, hprogram]
  rfl

/-- A command that reads a script says what is wrong with it and goes on with what it accepted, or
breaks off with nothing said and nothing accepted. -/
theorem statements?_cases (hplain : s.recoverErrors = false) (recover : Bool) (file source : String)
    (told : Array Notice) :
    (∃ ns : List Notice, (∀ n ∈ ns, n.isReport = true) ∧
        statements? s recover file source told
          = .ok (accepted s recover file source) (told ++ ns.toArray)) ∨
      accepted s recover file source = none ∧
        ∃ b, statements? s recover file source told = .error b told := by
  cases recover with
  | false =>
    refine .inl ⟨_, Script.isReport_readProgram file source, ?_⟩
    rw [statements?_plain hplain, accepted_plain hplain, result_readProgram]
  | true =>
    cases hlimit : s.maxErrors with
    | ok limit =>
      refine .inl ⟨_, Script.isReport_readRecovering (some limit) file source, ?_⟩
      rw [statements?_recovering hlimit, accepted_recovering hlimit]
    | error fault =>
      exact .inr ⟨accepted_unlimited hlimit, _, statements?_unlimited hlimit told⟩

/-! ## The command -/

/-- Execute the statements of a script in a new game and fire events. -/
def play (w : Surroundings) (s : Settings) (triggers : List (String × String)) (program : Program) :
    Work Nat := do
  let m := Machine.start (← game s)
  match ← onMachine (program.run Game.resolver w.rounds s.echoResults) m with
  | (.ok errors, m) =>
    let failed ← fire w.rounds triggers m
    return if failed || !errors.isEmpty then 1 else 0
  | (.error _, _) => return 1

section Command

variable {w : Surroundings} {bytes : ByteArray} {triggers : List (String × String)}
  {recover : Bool} {told told' : Array Notice}

theorem script?_of_ok (hfile : (w.files file).bytes file = .ok bytes) (told : Array Notice) :
    script? w file told = .ok (some (Source.decode bytes)) told := by
  unfold script?
  rw [hfile]
  rfl

theorem runScript_of_some {p : Program} (hfile : (w.files file).bytes file = .ok bytes)
    (h : statements? s recover file (Source.decode bytes) told = .ok (some p) told') :
    runScript w s file triggers recover told = play w s triggers p told' := by
  unfold runScript
  simp only [bind, EStateM.bind, script?_of_ok hfile, h]
  rfl

theorem runScript_of_none (hfile : (w.files file).bytes file = .ok bytes)
    (h : statements? s recover file (Source.decode bytes) told = .ok none told') :
    runScript w s file triggers recover told
      = .ok 1 (told'.push (.complaint s!"Parse failed: {file}")) := by
  unfold runScript
  simp only [bind, EStateM.bind, script?_of_ok hfile, h]
  rfl

theorem runScript_of_error {b : Breakdown} (hfile : (w.files file).bytes file = .ok bytes)
    (h : statements? s recover file (Source.decode bytes) told = .error b told') :
    runScript w s file triggers recover told = .error b told' := by
  unfold runScript
  simp only [bind, EStateM.bind, script?_of_ok hfile, h]

theorem runScript_congr {recover' : Bool} (hfile : (w.files file).bytes file = .ok bytes)
    (h : statements? s recover file (Source.decode bytes)
      = statements? s recover' file (Source.decode bytes)) :
    runScript w s file triggers recover = runScript w s file triggers recover' := by
  funext told
  unfold runScript
  simp only [bind, EStateM.bind, script?_of_ok hfile, h]

end Command

end Work

/-- A notice of something that is wrong with a script or with the command. -/
def Notice.isFault : Notice → Bool
  | complaint _ => true
  | n => n.isReport

theorem Notice.isFault_of_isReport (n : Notice) (h : n.isReport = true) : n.isFault = true := by
  cases n with
  | complaint text => rfl
  | _ => exact h

namespace Work

/-- The command says what is wrong with the script and then executes it. -/
def Executes (w : Surroundings) (s : Settings) (triggers : List (String × String))
    (program : Program) (x : Work Nat) : Prop :=
  ∀ told, ∃ more : List Notice, (∀ n ∈ more, n.isFault = true) ∧
    x told = play w s triggers program (told ++ more.toArray)

/-- The command comes to no success, and has nothing to say but what is wrong. -/
def Refuses (x : Work Nat) : Prop :=
  ∀ told, ∃ more : List Notice, (∀ n ∈ more, n.isFault = true) ∧
    (x told = .ok 1 (told ++ more.toArray) ∨ ∃ b, x told = .error b (told ++ more.toArray))

section Verdict

variable {w : Surroundings} {s : Settings} {file : String} {bytes : ByteArray}
  {triggers : List (String × String)} {recover : Bool}

theorem executes_of_some {p : Program} (hplain : s.recoverErrors = false)
    (hfile : (w.files file).bytes file = .ok bytes)
    (h : accepted s recover file (Source.decode bytes) = some p) :
    Executes w s triggers p (runScript w s file triggers recover) := by
  intro told
  rcases statements?_cases hplain recover file (Source.decode bytes) told with
    ⟨ns, hns, hread⟩ | ⟨hnone, -⟩
  · rw [h] at hread
    exact ⟨ns, fun n hn => n.isFault_of_isReport (hns n hn), runScript_of_some hfile hread⟩
  · rw [h] at hnone
    cases hnone

theorem refuses_of_none (hplain : s.recoverErrors = false)
    (hfile : (w.files file).bytes file = .ok bytes)
    (h : accepted s recover file (Source.decode bytes) = none) :
    Refuses (runScript w s file triggers recover) := by
  intro told
  rcases statements?_cases hplain recover file (Source.decode bytes) told with
    ⟨ns, hns, hread⟩ | ⟨-, b, hread⟩
  · rw [h] at hread
    refine ⟨ns ++ [.complaint s!"Parse failed: {file}"], ?_, .inl ?_⟩
    · intro n hn
      rcases List.mem_append.mp hn with hn | hn
      · exact n.isFault_of_isReport (hns n hn)
      · obtain rfl := List.mem_singleton.mp hn
        rfl
    · rw [runScript_of_none hfile hread]
      simp
  · refine ⟨[], ?_, .inr ⟨b, ?_⟩⟩
    · intro n hn
      cases hn
    · rw [runScript_of_error hfile hread]
      simp

end Verdict

/-- With recovery a script file is accepted, to the same statements, if it is accepted without it,
scanning finds nothing wrong with it and the settings hold a limit on errors. It is then run as without
recovery. In either way a script that is accepted is executed, and one that is not is refused. -/
theorem recovering_accepts_clean_scripts (w : Surroundings) (s : Settings)
    (hplain : s.recoverErrors = false) (file : String) (bytes : ByteArray)
    (hfile : (w.files file).bytes file = .ok bytes) (triggers : List (String × String)) :
    (∀ p, accepted s true file (Source.decode bytes) = some p ↔
        accepted s false file (Source.decode bytes) = some p ∧
          scanErrors (Source.decode bytes) = [] ∧ s.maxErrors.isOk = true) ∧
      (∀ p, accepted s true file (Source.decode bytes) = some p →
        runScript w s file triggers true = runScript w s file triggers false) ∧
      ∀ recover,
        (∀ p, accepted s recover file (Source.decode bytes) = some p →
          Executes w s triggers p (runScript w s file triggers recover)) ∧
        (accepted s recover file (Source.decode bytes) = none →
          Refuses (runScript w s file triggers recover)) := by
  refine ⟨accepted_recovering_iff hplain, ?_, ?_⟩
  · intro p h
    exact runScript_congr hfile (statements?_of_accepted hplain h)
  · intro recover
    exact ⟨fun p => executes_of_some hplain hfile, refuses_of_none hplain hfile⟩

/-- A script with nothing wrong in it. -/
@[irreducible] def raid : ByteArray :=
  "champion Ashe { onAttack { attack() } }\n1 + 1;".toUTF8

def camp : Surroundings where
  files := .ofList [("raid.lsl", .file raid)]
  home := "/"
  environment := []
  input := ""
  rounds := 8

theorem recovering_accepts_clean_scripts_with_event :
    Settings.defaults.recoverErrors = false ∧
      (camp.files "raid.lsl").bytes "raid.lsl" = .ok raid ∧
      ∃ p, accepted .defaults true "raid.lsl" (Source.decode raid) = some p ∧
        accepted .defaults false "raid.lsl" (Source.decode raid) = some p ∧
        runScript camp .defaults "raid.lsl" [("Ashe", "onAttack")] true
          = runScript camp .defaults "raid.lsl" [("Ashe", "onAttack")] false ∧
        Executes camp .defaults [("Ashe", "onAttack")] p
          (runScript camp .defaults "raid.lsl" [("Ashe", "onAttack")] true) := by
  have hplain : Settings.defaults.recoverErrors = false := by decide
  have hfile : (camp.files "raid.lsl").bytes "raid.lsl" = .ok raid := rfl
  have hsome : (accepted .defaults true "raid.lsl" (Source.decode raid)).isSome = true := by
    decide +kernel
  obtain ⟨p, hp⟩ := Option.isSome_iff_exists.mp hsome
  obtain ⟨hiff, hsame, hverdict⟩ := recovering_accepts_clean_scripts camp .defaults hplain
    "raid.lsl" raid hfile [("Ashe", "onAttack")]
  exact ⟨hplain, hfile, p, hp, ((hiff p).mp hp).1, hsame p hp, (hverdict true).1 p hp⟩

/-- Settings whose limit on errors is no number. -/
def limitless : Settings :=
  { Settings.defaults with
    values := Settings.overlay Settings.defaultValues [(.text "max_errors", .text "lots")] }

/-- Recovery refuses a script for a stray character, and any script where the limit on errors is no
number. Without recovery both are accepted. -/
theorem recovering_refuses_accepted_scripts :
    ((accepted .defaults false "s.lsl" "@ 1;").isSome = true ∧
        (accepted .defaults true "s.lsl" "@ 1;").isSome = false) ∧
      limitless.recoverErrors = false ∧
      (accepted limitless false "s.lsl" "1;").isSome = true ∧
      (accepted limitless true "s.lsl" "1;").isSome = false := by
  decide +kernel

end Work
end RiftScript
