/-
Interactive sessions.

What a session has in its buffer and what it has run can be told from the lines that were entered.
The buffer is the lines of script since the last one that cleared it, as they were entered. Each line
that says to run a buffer with something in it runs the program that the buffer stands for, if it
stands for one, on the machine that the runs before have left. Apart from what is said about it the
session does nothing else to the machine.
-/
import RiftScript.Proofs.Recovery.Refinement
import RiftScript.Proofs.Running.Notices
import RiftScript.Repl

namespace RiftScript

variable {σ : Type}

/-! ## What the lines say -/

namespace Repl

/-- A line without the blanks around it, in small letters. -/
def word (line : String) : String :=
  String.ofList (Text.lowerCase (Text.trim line.toList))

/-- A line of script is neither blank nor a command. -/
def isScript (line : String) : Bool :=
  !(["", "exit", "quit", "clear", "show", "run"].contains (word line))

/-- The lines after the last one that clears the buffer. -/
def sinceClear (lines : List String) : List String :=
  (lines.reverse.takeWhile (word · != "clear")).reverse

/-- The lines of script that are still there. -/
def bufferOf (lines : List String) : List String :=
  (sinceClear lines).filter isScript

/-- The program that a buffer stands for. With recovery it always stands for one. -/
def programOf (options : ReplOptions) (buffer : List String) : Option Program :=
  let tokens := scan ("\n".intercalate buffer)
  if options.recover then some (parseRecovering tokens options.limit).statements
  else (parseProgram tokens).toOption

/-- The program that a line runs when it finds a buffer. -/
def ranBy (options : ReplOptions) (buffer : List String) (line : String) : Option Program :=
  if word line = "run" ∧ buffer ≠ [] then programOf options buffer else none

/-- The programs that lines run, in order, when other lines were entered before. -/
def ranAfter (options : ReplOptions) (before : List String) : List String → List Program
  | [] => []
  | line :: rest =>
    (ranBy options (bufferOf before) line).toList ++ ranAfter options (before ++ [line]) rest

/-- The programs that the lines of a session run. -/
def programsOf (options : ReplOptions) (lines : List String) : List Program :=
  ranAfter options [] lines

theorem sinceClear_concat (lines : List String) (line : String) :
    sinceClear (lines ++ [line])
      = if word line = "clear" then [] else sinceClear lines ++ [line] := by
  unfold sinceClear
  rw [List.reverse_concat]
  by_cases hclear : word line = "clear"
  · rw [if_pos hclear, List.takeWhile_cons_of_neg (by simp [hclear]), List.reverse_nil]
  · rw [if_neg hclear, List.takeWhile_cons_of_pos (by simp [hclear]), List.reverse_cons]

theorem bufferOf_concat (lines : List String) (line : String) :
    bufferOf (lines ++ [line])
      = if word line = "clear" then [] else bufferOf lines ++ [line].filter isScript := by
  rw [bufferOf, sinceClear_concat]
  split
  · rfl
  · rw [List.filter_append, bufferOf]

theorem word_ne_of_isScript {line command : String} (h : isScript line = true)
    (hcommand : command ∈ ["", "exit", "quit", "clear", "show", "run"]) : word line ≠ command := by
  intro hword
  rw [isScript, hword, List.contains_iff_mem.mpr hcommand] at h
  cases h

end Repl

namespace ReplCommand

/-- What the commands are called. -/
inductive Means (line : String) : ReplCommand → Prop where
  | leave (h : Repl.word line = "exit" ∨ Repl.word line = "quit") : Means line .leave
  | clear (h : Repl.word line = "clear") : Means line .clear
  | list (h : Repl.word line = "show") : Means line .list
  | run (h : Repl.word line = "run") : Means line .run
  | blank (h : Repl.word line = "") : Means line .blank
  | add (h : Repl.isScript line = true) : Means line (.add line)

theorem means_ofLine (line : String) : Means line (ofLine line) := by
  unfold ofLine
  split
  · next h => exact .leave (.inl h)
  · next h => exact .leave (.inr h)
  · next h => exact .clear h
  · next h => exact .list h
  · next h => exact .run h
  · next h => exact .blank h
  · next hexit hquit hclear hshow hrun hblank =>
    refine .add ?_
    rw [Repl.isScript, Bool.not_eq_true', ← Bool.not_eq_true, List.contains_iff_mem]
    simp only [List.mem_cons, List.not_mem_nil, or_false, not_or]
    exact ⟨hblank, hexit, hquit, hclear, hshow, hrun⟩

end ReplCommand

/-! ## What is said about a run -/

/-- What a session says itself, about a script or about what it does. -/
def Notice.isDialogue : Notice → Bool
  | line _ => true
  | n => n.isReport

theorem Notice.isDialogue_of_isReport (n : Notice) (h : n.isReport = true) :
    n.isDialogue = true := by
  cases n with
  | line text => rfl
  | _ => exact h

namespace Machine

/-- The machine without what the session has said. -/
def withoutDialogue (m : Machine σ) : Machine σ :=
  { m with notices := m.notices.filter (!·.isDialogue) }

theorem withoutDialogue_emit (m : Machine σ) {n : Notice} (hn : n.isDialogue = true) :
    (m.emit n).withoutDialogue = m.withoutDialogue := by
  have hfilter : (m.notices.push n).filter (!·.isDialogue) = m.notices.filter (!·.isDialogue) :=
    Array.toList_inj.mp (by simp [hn])
  rw [withoutDialogue, emit, hfilter, withoutDialogue]

theorem withoutDialogue_following (earlier : Array Notice) (m : Machine σ) :
    (m.following earlier).withoutDialogue
      = m.withoutDialogue.following (earlier.filter (!·.isDialogue)) := by
  have hfilter : (earlier ++ m.notices).filter (!·.isDialogue)
      = earlier.filter (!·.isDialogue) ++ m.notices.filter (!·.isDialogue) :=
    Array.toList_inj.mp (by simp)
  rw [withoutDialogue, following, hfilter, withoutDialogue, following]

theorem fresh_of_withoutDialogue {m n : Machine σ} (h : m.withoutDialogue = n.withoutDialogue) :
    m.fresh = n.fresh := by
  have hfresh := congrArg fresh h
  exact hfresh

end Machine

/-- What came of a step, apart from the state it leaves. -/
def outcome {ε τ α : Type} : EStateM.Result ε τ α → Except ε α
  | .ok a _ => .ok a
  | .error e _ => .error e

/-- The machine that a run of a program leaves in a session, whatever came of it. -/
def Program.leave (r : Resolver σ) (options : ReplOptions) (m : Machine σ) (p : Program) :
    Machine σ :=
  Run.machine (p.run r options.rounds options.echo m)

theorem Program.leave_eq (r : Resolver σ) (options : ReplOptions) (m : Machine σ) (p : Program) :
    p.leave r options m = (p.leave r options m.fresh).following m.notices := by
  rw [leave, ← m.following_fresh, p.run_following, Run.machine_onMachine]
  rfl

/-- Nor does it matter to what comes of a run what was told before it. -/
theorem Program.outcome_run {m n : Machine σ} (h : m.fresh = n.fresh) (r : Resolver σ)
    (rounds : Nat) (echo : Bool) (p : Program) :
    outcome (p.run r rounds echo m) = outcome (p.run r rounds echo n) := by
  have hfresh : ∀ k : Machine σ, outcome (p.run r rounds echo k)
      = outcome (p.run r rounds echo k.fresh) := by
    intro k
    have hrun := p.run_following r rounds echo k.notices k.fresh
    rw [k.following_fresh] at hrun
    rw [hrun]
    cases p.run r rounds echo k.fresh <;> rfl
  rw [hfresh m, hfresh n, h]

/-- A run goes on from what the session has said. -/
theorem Program.withoutDialogue_leave {m n : Machine σ}
    (h : m.withoutDialogue = n.withoutDialogue) (r : Resolver σ) (options : ReplOptions)
    (p : Program) :
    (p.leave r options m).withoutDialogue = (p.leave r options n).withoutDialogue := by
  have hnotices : m.notices.filter (!·.isDialogue) = n.notices.filter (!·.isDialogue) :=
    congrArg Machine.notices h
  rw [p.leave_eq r options m, p.leave_eq r options n, Machine.withoutDialogue_following,
    Machine.withoutDialogue_following, Machine.fresh_of_withoutDialogue h, hnotices]

/-! ## Steps of a session -/

namespace Repl

variable {r : Resolver σ} {options : ReplOptions} {s : Repl σ}

/-- The session that a step leaves, whatever came of it. -/
def left {α : Type} : EStateM.Result Failure (Repl σ) α → Repl σ
  | .ok _ s => s
  | .error _ s => s

/-- The session after a line. -/
def after (r : Resolver σ) (options : ReplOptions) (s : Repl σ) (line : String) : Repl σ :=
  left (handle r options line s)

def afterAll (r : Resolver σ) (options : ReplOptions) (s : Repl σ) (lines : List String) : Repl σ :=
  lines.foldl (after r options) s

/-- The second session is the first with something said. -/
structure Says (s t : Repl σ) : Prop where
  buffer : t.buffer = s.buffer
  machine : t.machine.withoutDialogue = s.machine.withoutDialogue

theorem Says.trans {s t u : Repl σ} (hst : Says s t) (htu : Says t u) : Says s u :=
  ⟨htu.buffer.trans hst.buffer, htu.machine.trans hst.machine⟩

/-- The second session is the first with a program run, or none, and something said. -/
structure Runs (r : Resolver σ) (options : ReplOptions) (ran : Option Program) (s t : Repl σ) :
    Prop where
  buffer : t.buffer = s.buffer
  machine : t.machine.withoutDialogue
    = (ran.toList.foldl (Program.leave r options) s.machine).withoutDialogue

theorem Says.runs {s t : Repl σ} (h : Says s t) : Runs r options none s t :=
  ⟨h.buffer, h.machine⟩

theorem says_emit (s : Repl σ) {n : Notice} (hn : n.isDialogue = true) : Says s (s.emit n) :=
  ⟨rfl, s.machine.withoutDialogue_emit hn⟩

theorem says_emitAll (s : Repl σ) {ns : List Notice} (hns : ∀ n ∈ ns, n.isDialogue = true) :
    Says s (s.emitAll ns) := by
  induction ns generalizing s with
  | nil => exact ⟨rfl, rfl⟩
  | cons n ns ih =>
    obtain ⟨hn, hmore⟩ := List.forall_mem_cons.mp hns
    exact (s.says_emit hn).trans (ih (s.emit n) hmore)

theorem says_line (s : Repl σ) (text : String) : Says s (s.emit (.line text)) :=
  s.says_emit rfl

theorem says_lines (s : Repl σ) (texts : List String) : Says s (s.emitAll (texts.map .line)) := by
  refine s.says_emitAll ?_
  intro n hn
  obtain ⟨text, -, rfl⟩ := List.mem_map.mp hn
  rfl

/-! ### Running the buffer -/

theorem readBuffer_program (options : ReplOptions) (buffer : List String) :
    (readBuffer options ("\n".intercalate buffer)).result.1 = programOf options buffer := by
  rw [readBuffer, programOf]
  split
  · rfl
  · rw [Script.readProgram, Script.readWith, Reading.following, Script.parseWith]
    cases parseProgram (scan ("\n".intercalate buffer)) <;> rfl

/-- Nothing is found wrong with a buffer that stands for a program if a check finds nothing. -/
theorem readBuffer_success {options : ReplOptions} {buffer : List String} {p : Program}
    (h : programOf options buffer = some p) :
    (readBuffer options ("\n".intercalate buffer)).result.2
      = (check ("\n".intercalate buffer) options.limit).success := by
  rw [programOf] at h
  rw [readBuffer]
  split at h
  · next hrecover =>
    rw [if_pos hrecover]
    exact Script.isEmpty_notices_readRecovering options.limit "<repl>" _
  · next hrecover =>
    rw [if_neg hrecover]
    cases hparse : parseProgram (scan ("\n".intercalate buffer)) with
    | ok p => exact Script.isEmpty_notices_readProgram hparse options.limit "<repl>"
    | error e =>
      rw [hparse] at h
      cases h

theorem readBuffer_isDialogue (options : ReplOptions) (source : String) :
    ∀ n ∈ (readBuffer options source).notices, n.isDialogue = true := by
  intro n hn
  rw [readBuffer] at hn
  split at hn
  · exact n.isDialogue_of_isReport (Script.isReport_readRecovering _ _ _ n hn)
  · exact n.isDialogue_of_isReport (Script.isReport_readProgram _ _ n hn)

/-- The session when the buffer has been read for a run. -/
def ready (options : ReplOptions) (s : Repl σ) : Repl σ :=
  (s.emitAll (["", "Executing script...", "---"].map .line)).emitAll
    (readBuffer options ("\n".intercalate s.buffer)).notices

theorem says_ready (options : ReplOptions) (s : Repl σ) : Says s (s.ready options) :=
  (s.says_lines _).trans (says_emitAll _ (readBuffer_isDialogue options _))

theorem get_bind {α : Type} (k : Repl σ → Dialogue σ α) (s : Repl σ) : (get >>= k) s = k s s := rfl

theorem runBuffer_of_empty (h : s.buffer = []) :
    runBuffer r options s
      = .ok false (s.emit (.line "Buffer is empty! Add some code first.")) := by
  cases s with
  | mk buffer machine =>
    cases h
    rfl

theorem runBuffer_of_none (h : s.buffer ≠ []) (hprogram : programOf options s.buffer = none) :
    runBuffer r options s = .ok false (((s.ready options).emit (.line "Parse error occurred.")).emitAll
      (["---", "Script execution completed!", ""].map .line)) := by
  have hempty : s.buffer.isEmpty = false := List.isEmpty_eq_false_iff.mpr h
  rw [← readBuffer_program] at hprogram
  unfold runBuffer
  rw [get_bind]
  simp only [bind, EStateM.bind, hempty, Bool.false_eq_true, if_false]
  rw [hprogram]
  rfl

theorem runBuffer_of_some {p : Program} (h : s.buffer ≠ [])
    (hprogram : programOf options s.buffer = some p) :
    runBuffer r options s = (do
      let errors ← onMachine (p.run r options.rounds options.echo)
      sayAll ["---", "Script execution completed!", ""]
      return errors.isEmpty && (readBuffer options ("\n".intercalate s.buffer)).result.2 :
        Dialogue σ Bool) (s.ready options) := by
  have hempty : s.buffer.isEmpty = false := List.isEmpty_eq_false_iff.mpr h
  rw [← readBuffer_program] at hprogram
  unfold runBuffer
  rw [get_bind]
  simp only [bind, EStateM.bind, hempty, Bool.false_eq_true, if_false]
  rw [hprogram]
  rfl

/-- Running the buffer leaves it as it is and runs the program that it stands for. -/
theorem runs_runBuffer (r : Resolver σ) (options : ReplOptions) (s : Repl σ) {line : String}
    (hline : word line = "run") :
    Runs r options (ranBy options s.buffer line) s (left (runBuffer r options s)) := by
  rw [ranBy]
  by_cases h : s.buffer = []
  · rw [if_neg fun hran => hran.2 h, runBuffer_of_empty h]
    exact (s.says_line _).runs
  rw [if_pos ⟨hline, h⟩]
  have hready := s.says_ready options
  cases hprogram : programOf options s.buffer with
  | none =>
    rw [runBuffer_of_none h hprogram]
    exact (hready.trans ((says_line _ _).trans (says_lines _ _))).runs
  | some p =>
    rw [runBuffer_of_some h hprogram]
    -- The machine is that of the program, also where the run fails and nothing more is said.
    have hmachine := p.withoutDialogue_leave hready.machine r options
    cases hrun : p.run r options.rounds options.echo (s.ready options).machine with
    | ok errors m =>
      have hstep : onMachine (p.run r options.rounds options.echo) (s.ready options)
          = .ok errors { s.ready options with machine := m } := by
        rw [onMachine, hrun]
      rw [Program.leave, hrun] at hmachine
      simp only [bind, EStateM.bind, hstep]
      have hsaid := says_lines { s.ready options with machine := m }
        ["---", "Script execution completed!", ""]
      exact ⟨hsaid.buffer.trans hready.buffer, hsaid.machine.trans hmachine⟩
    | error failure m =>
      have hstep : onMachine (p.run r options.rounds options.echo) (s.ready options)
          = .error failure { s.ready options with machine := m } := by
        rw [onMachine, hrun]
      rw [Program.leave, hrun] at hmachine
      simp only [bind, EStateM.bind, hstep]
      exact ⟨hready.buffer, hmachine⟩

/-- What comes of running a buffer is what comes of its program, as far as that is told: whether
there was nothing wrong at all. -/
theorem outcome_runBuffer {p : Program} (h : s.buffer ≠ [])
    (hprogram : programOf options s.buffer = some p) :
    outcome (runBuffer r options s)
      = (outcome (p.run r options.rounds options.echo s.machine)).map fun errors =>
        errors.isEmpty && (check ("\n".intercalate s.buffer) options.limit).success := by
  have hfresh := Machine.fresh_of_withoutDialogue (s.says_ready options).machine
  rw [runBuffer_of_some h hprogram, ← Program.outcome_run hfresh, ← readBuffer_success hprogram]
  simp only [bind, EStateM.bind, onMachine]
  cases p.run r options.rounds options.echo (s.ready options).machine <;> rfl

/-! ### One line -/

theorem says_showBuffer (s : Repl σ) : Says s (left (showBuffer s)) := by
  have hshow : showBuffer s = if s.buffer.isEmpty then say "Buffer is empty!" s
      else sayAll ("Current script buffer:" :: "---" :: s.buffer ++ ["---"]) s := by
    unfold showBuffer
    rw [get_bind]
    split <;> rfl
  rw [hshow]
  split
  · exact s.says_line "Buffer is empty!"
  · exact s.says_lines _

theorem left_map {α β : Type} (x : Dialogue σ α) (b : β) (s : Repl σ) :
    left ((do
      let _ ← x
      return b) s) = left (x s) := by
  simp only [bind, EStateM.bind]
  cases x s <;> rfl

theorem ranBy_of_ne {line : String} (h : word line ≠ "run") (buffer : List String) :
    ranBy options buffer line = none := by
  rw [ranBy, if_neg fun hran => h hran.1]

/-- A step that does what a line asks for: the buffer and the machine it leaves. -/
structure Obeys (r : Resolver σ) (options : ReplOptions) (line : String) (s t : Repl σ) : Prop where
  buffer : t.buffer = if word line = "clear" then [] else s.buffer ++ [line].filter isScript
  machine : t.machine.withoutDialogue
    = ((ranBy options s.buffer line).toList.foldl (Program.leave r options)
        s.machine).withoutDialogue

/-- A command that is no `clear` leaves the buffer as it is. -/
theorem buffer_of_command {line command : String} (hline : word line = command)
    (hcommand : command ∈ ["", "exit", "quit", "show", "run"]) (buffer : List String) :
    (if word line = "clear" then [] else buffer ++ [line].filter isScript) = buffer := by
  have hclear : word line ≠ "clear" := by
    intro hword
    rw [← hline, hword] at hcommand
    revert hcommand
    decide
  have hscript : ¬ isScript line = true := by
    intro hscript
    exact word_ne_of_isScript hscript (List.Sublist.subset (by decide) hcommand) hline
  rw [if_neg hclear, List.filter_cons_of_neg hscript, List.filter_nil, List.append_nil]

theorem Runs.obeys {line command : String} {t : Repl σ}
    (h : Runs r options (ranBy options s.buffer line) s t) (hline : word line = command)
    (hcommand : command ∈ ["", "exit", "quit", "show", "run"]) : Obeys r options line s t :=
  ⟨h.buffer.trans (buffer_of_command hline hcommand s.buffer).symm, h.machine⟩

/-- A command that has something said and nothing run. -/
theorem Says.obeys {line command : String} {t : Repl σ} (h : Says s t)
    (hline : word line = command) (hcommand : command ∈ ["", "exit", "quit", "show"]) :
    Obeys r options line s t := by
  have hrun : word line ≠ "run" := by
    intro hword
    rw [← hline, hword] at hcommand
    revert hcommand
    decide
  have hruns : Runs r options (ranBy options s.buffer line) s t := by
    rw [ranBy_of_ne hrun]
    exact h.runs
  exact hruns.obeys hline (List.Sublist.subset (by decide) hcommand)

/-- What a line does to the buffer and to the machine. -/
theorem obeys_after (r : Resolver σ) (options : ReplOptions) (s : Repl σ) (line : String) :
    Obeys r options line s (s.after r options line) := by
  have hmeans := ReplCommand.means_ofLine line
  unfold after handle
  generalize ReplCommand.ofLine line = command at hmeans ⊢
  cases hmeans with
  | leave h =>
    have hsaid := s.says_line "Thanks for using LSL! Good luck on the Rift!"
    rcases h with h | h
    · exact hsaid.obeys h (by decide)
    · exact hsaid.obeys h (by decide)
  | clear h =>
    have hsaid := says_line { s with buffer := [] } "Script buffer cleared."
    refine ⟨?_, ?_⟩
    · rw [if_pos h]
      exact hsaid.buffer
    · rw [ranBy_of_ne (by rw [h]; decide)]
      exact hsaid.machine
  | list h =>
    have hsaid := s.says_showBuffer
    rw [← left_map showBuffer true s] at hsaid
    exact hsaid.obeys h (by decide)
  | run h =>
    have hruns := runs_runBuffer r options s h
    rw [← left_map (runBuffer r options) true s] at hruns
    exact hruns.obeys h (by decide)
  | blank h =>
    have hsaid : Says s s := ⟨rfl, rfl⟩
    exact hsaid.obeys h (by decide)
  | add h =>
    have hsaid := says_line { s with buffer := s.buffer ++ [line] } " [Added to buffer]"
    refine ⟨?_, ?_⟩
    · rw [if_neg (word_ne_of_isScript h (by decide)), List.filter_cons_of_pos h, List.filter_nil]
      exact hsaid.buffer
    · rw [ranBy_of_ne (word_ne_of_isScript h (by decide))]
      exact hsaid.machine

/-! ## Whole sessions -/

/-- The session has come as far as the lines say, with the machine that their programs leave. -/
structure Follows (lines : List String) (m : Machine σ) (s : Repl σ) : Prop where
  buffer : s.buffer = bufferOf lines
  machine : s.machine.withoutDialogue = m.withoutDialogue

theorem follows_start (machine : Machine σ) : Follows [] machine (start machine) :=
  ⟨rfl, rfl⟩

theorem Follows.after {lines : List String} {m : Machine σ} (h : Follows lines m s)
    (r : Resolver σ) (options : ReplOptions) (line : String) :
    Follows (lines ++ [line])
      ((ranBy options (bufferOf lines) line).toList.foldl (Program.leave r options) m)
      (s.after r options line) := by
  have hobeys := obeys_after r options s line
  refine ⟨?_, ?_⟩
  · rw [hobeys.buffer, bufferOf_concat, h.buffer]
  · rw [hobeys.machine, h.buffer]
    cases ranBy options (bufferOf lines) line with
    | none => exact h.machine
    | some p => exact p.withoutDialogue_leave h.machine r options

theorem Follows.afterAll {before : List String} {m : Machine σ} (h : Follows before m s)
    (r : Resolver σ) (options : ReplOptions) (lines : List String) :
    Follows (before ++ lines) ((ranAfter options before lines).foldl (Program.leave r options) m)
      (s.afterAll r options lines) := by
  induction lines generalizing before m s with
  | nil =>
    rw [List.append_nil]
    exact h
  | cons line lines ih =>
    have hrest := ih (h.after r options line)
    rw [List.append_assoc, List.singleton_append, ← List.foldl_append] at hrest
    exact hrest

/-- A session follows its lines. The buffer holds the lines of script since it was last cleared, in
order and as they were entered; to show it or to run it leaves it as it is. But for what the session
itself has said, the machine is the one that the programs of the lines leave one after another: with
the champions, the state of the host, the results and the reports of errors. On that machine the next
program runs, too, and there are errors if it has some. Running a buffer that cannot be read leaves
the machine as it is. -/
theorem session_follows_lines (r : Resolver σ) (options : ReplOptions) (machine : Machine σ)
    (lines : List String) :
    let s := (start machine).afterAll r options lines
    let m := (programsOf options lines).foldl (Program.leave r options) machine
    s.buffer = bufferOf lines ∧
      (∀ line, word line = "show" ∨ word line = "run" →
        (s.after r options line).buffer = s.buffer) ∧
      s.machine.withoutDialogue = m.withoutDialogue ∧
      (∀ p, s.buffer ≠ [] → programOf options s.buffer = some p →
        outcome (runBuffer r options s)
          = (outcome (p.run r options.rounds options.echo m)).map fun errors =>
            errors.isEmpty && (check ("\n".intercalate s.buffer) options.limit).success) ∧
      ∀ line, word line = "run" → programOf options s.buffer = none →
        (s.after r options line).machine.withoutDialogue = s.machine.withoutDialogue := by
  intro s m
  have hfollows : Follows lines m s := (follows_start machine).afterAll r options lines
  refine ⟨hfollows.buffer, ?_, hfollows.machine, ?_, ?_⟩
  · intro line hline
    rw [(obeys_after r options s line).buffer]
    rcases hline with hline | hline
    · exact buffer_of_command hline (by decide) s.buffer
    · exact buffer_of_command hline (by decide) s.buffer
  · intro p hbuffer hprogram
    have hfresh := Machine.fresh_of_withoutDialogue hfollows.machine
    rw [outcome_runBuffer hbuffer hprogram, Program.outcome_run hfresh]
  · intro line hline hprogram
    have hran : ranBy options s.buffer line = none := by
      rw [ranBy, hprogram, ite_self]
    rw [(obeys_after r options s line).machine, hran]
    rfl

end Repl

end RiftScript
