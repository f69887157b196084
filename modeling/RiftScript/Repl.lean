/-
The interactive session.

Lines are collected in a buffer. The words `run`, `clear`, `show`, `exit` and `quit`, in any
letter case and with blanks around them, are commands; every other line that is not blank is
added to the buffer as it stands. Champions stay declared from one run to the next.
-/
import RiftScript.Eval.Basic
import RiftScript.Script
import RiftScript.Text.Blank
import RiftScript.Text.Case

namespace RiftScript

/-- How a session runs its buffer. -/
structure ReplOptions where
  echo : Bool := true
  /-- Whether to go on after syntax errors. -/
  recover : Bool := false
  /-- The errors after which parsing is given up. -/
  limit : Option Int := none
  /-- The rounds that a loop may take. -/
  rounds : Nat

structure Repl (σ : Type) where
  buffer : List String
  machine : Machine σ

/-- What a line of input asks for. -/
inductive ReplCommand where
  | leave | clear | list | run | blank
  | add (line : String)
deriving Repr, DecidableEq

namespace ReplCommand

def ofLine (line : String) : ReplCommand :=
  match String.ofList (Text.lowerCase (Text.trim line.toList)) with
  | "exit" | "quit" => leave
  | "clear" => clear
  | "show" => list
  | "run" => run
  | "" => blank
  | _ => add line

end ReplCommand

/-- A step of a session. Only a failure of the host ends one early. -/
abbrev Dialogue (σ α : Type) := EStateM Failure (Repl σ) α

namespace Repl

variable {σ : Type}

def banner : List String :=
  ["==========================================",
    " Welcome to LoL Script Language (LSL)",
    "==========================================",
    "",
    "Commands:",
    "  'exit' or 'quit' - Exit the REPL",
    "  'run' - Execute and evaluate the script",
    "  'clear' - Clear the script buffer",
    "  'show' - Display the current script buffer",
    ""]

def start (machine : Machine σ) : Repl σ := ⟨[], machine⟩

def emit (s : Repl σ) (n : Notice) : Repl σ :=
  { s with machine := s.machine.emit n }

def emitAll (s : Repl σ) (ns : List Notice) : Repl σ :=
  ns.foldl emit s

def say (text : String) : Dialogue σ Unit :=
  modify (·.emit (.line text))

def sayAll (texts : List String) : Dialogue σ Unit :=
  modify (·.emitAll (texts.map .line))

/-- Run a step of a script on the machine of the session. -/
def onMachine {α : Type} (step : Run σ α) : Dialogue σ α := fun s =>
  match step s.machine with
  | .ok a m => .ok a { s with machine := m }
  | .error f m => .error f { s with machine := m }

/-- The statements of the buffer, with whether scanning and parsing found nothing wrong. -/
def readBuffer (options : ReplOptions) (source : String) : Reading (Option Program × Bool) :=
  if options.recover then
    let r := Script.readRecovering options.limit "<repl>" source
    ⟨(some r.result.statements, r.notices.isEmpty), r.notices⟩
  else
    let r := Script.readProgram "<repl>" source
    ⟨(r.result, r.notices.isEmpty), r.notices⟩

/-- Run the buffer. The answer is whether all went well. -/
def runBuffer (r : Resolver σ) (options : ReplOptions) : Dialogue σ Bool := do
  let buffer := (← get).buffer
  if buffer.isEmpty then
    say "Buffer is empty! Add some code first."
    return false
  sayAll ["", "Executing script...", "---"]
  let reading := readBuffer options ("\n".intercalate buffer)
  modify (·.emitAll reading.notices)
  let ok ←
    match reading.result.1 with
    | none =>
      say "Parse error occurred."
      pure false
    | some program =>
      let errors ← onMachine (program.run r options.rounds options.echo)
      pure (errors.isEmpty && reading.result.2)
  sayAll ["---", "Script execution completed!", ""]
  return ok

/-- Show the buffer. -/
def showBuffer : Dialogue σ Unit := do
  let buffer := (← get).buffer
  if buffer.isEmpty then say "Buffer is empty!"
  else sayAll ("Current script buffer:" :: "---" :: buffer ++ ["---"])

/-- Do what a line asks for. The answer is whether the session goes on. -/
def handle (r : Resolver σ) (options : ReplOptions) (line : String) : Dialogue σ Bool := do
  match ReplCommand.ofLine line with
  | .leave =>
    say "Thanks for using LSL! Good luck on the Rift!"
    return false
  | .clear =>
    modify fun s => { s with buffer := [] }
    say "Script buffer cleared."
  | .list => showBuffer
  | .run =>
    let _ ← runBuffer r options
  | .blank => pure ()
  | .add line =>
    modify fun s => { s with buffer := s.buffer ++ [line] }
    say " [Added to buffer]"
  return true

/-- What waiting for input brings. The end of all input is the end of the list. -/
inductive Input where
  | line (text : String)
  | interrupt
deriving Repr, DecidableEq

/-- Prompt for lines and handle them until the session ends. The input that is left is given
back. -/
def converse (r : Resolver σ) (options : ReplOptions) (prompt : String) :
    List Input → Dialogue σ (List Input)
  | [] => do
    modify (·.emit (.prompt prompt))
    return []
  | .interrupt :: rest => do
    modify (·.emit (.prompt prompt))
    say ""
    return rest
  | .line text :: rest => do
    modify (·.emit (.prompt prompt))
    if ← handle r options text then converse r options prompt rest else return rest

/-- A whole session. -/
def session (r : Resolver σ) (options : ReplOptions) (prompt : String) (input : List Input) :
    Dialogue σ (List Input) := do
  sayAll banner
  converse r options prompt input

end Repl
end RiftScript
