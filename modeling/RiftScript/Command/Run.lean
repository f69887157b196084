/-
What the commands do.

A command is run on what the outside provides, and comes to an exit status and two streams of
text. Everything it says is a notice; the log goes to the error stream.
-/
import RiftScript.Command.Line
import RiftScript.Game.Bindings
import RiftScript.Repl
import RiftScript.Settings
import RiftScript.Tree.Json
import RiftScript.Tree.Render

namespace RiftScript

/-- What the outside provides. -/
structure Surroundings where
  files : Files
  home : String
  environment : Settings.Environment
  input : String
  /-- The rounds that a loop may take. -/
  rounds : Nat

/-- Why a command breaks off. -/
inductive Breakdown where
  | settings (fault : SettingsFault)
  | state (fault : StateFault)
  | datum (fault : DatumFault)
  | failure (f : Failure)
deriving Repr, DecidableEq

/-- A command under way: what it has said so far, and its result unless it broke off. -/
abbrev Work (α : Type) := EStateM Breakdown (Array Notice) α

/-- What a command came to. -/
structure Finished where
  status : Except Breakdown Nat
  output : String
  errorOutput : String

/-- An interactive session that is ready to begin. -/
structure Conversation where
  options : ReplOptions
  prompt : String
  repl : Repl Game

namespace Work

def tell (n : Notice) : Work Unit :=
  modify (·.push n)

def tellAll (ns : List Notice) : Work Unit :=
  modify (· ++ ns.toArray)

def need {α ε : Type} (breakdown : ε → Breakdown) (r : Except ε α) : Work α :=
  match r with
  | .ok a => pure a
  | .error e => throw (breakdown e)

/-- The game that the settings describe. -/
def game (s : Settings) : Work Game := do
  let state ← need .state (GameState.ofEntries s.gameState)
  return { state }

/-- Run a step of a script. What it says is said, also when it fails. -/
def onMachine {α : Type} (step : Run Game α) (m : Machine Game) :
    Work (Except RuntimeError α × Machine Game) :=
  match step { m with notices := #[] } with
  | .ok a m => do
    tellAll m.notices.toList
    return (.ok a, m)
  | .error (.script e) m => do
    tellAll m.notices.toList
    return (.error e, m)
  | .error f m => do
    tellAll m.notices.toList
    throw (.failure f)

/-- The text of a script file, or a complaint. -/
def script? (w : Surroundings) (file : String) : Work (Option String) := do
  match (w.files file).bytes file with
  | .ok bytes => return some (Source.decode bytes)
  | .error reason =>
    tell (.complaint s!"Error: {reason}")
    return none

/-- The statements of a script. With recovery every error is reported, and any of them means that
there are none. -/
def statements? (s : Settings) (recover : Bool) (file source : String) : Work (Option Program) := do
  if recover || s.recoverErrors then
    let limit ← need .datum s.maxErrors
    let r := Script.readRecovering (some limit) file source
    tellAll r.notices
    return if r.notices.isEmpty then some r.result.statements else none
  else
    let r := Script.readProgram file source
    tellAll r.notices
    return r.result

/-- Fire events one after the other. The answer is whether one of them failed. -/
def fire (rounds : Nat) : List (String × String) → Machine Game → Work Bool
  | [], _ => return false
  | (champion, event) :: rest, m => do
    match ← onMachine (trigger Game.resolver rounds champion event) m with
    | (.ok count, m) =>
      if count = 0 then tell (.noHandler event champion)
      fire rounds rest m
    | (.error e, m) =>
      tell (.complaint s!"Error: {e.report}")
      let _ ← fire rounds rest m
      return true

/-- Run a script file and fire events. -/
def runScript (w : Surroundings) (s : Settings) (file : String) (triggers : List (String × String))
    (recover : Bool) : Work Nat := do
  let some source ← script? w file | return 1
  match ← statements? s recover file source with
  | none =>
    tell (.complaint s!"Parse failed: {file}")
    return 1
  | some program =>
    let m := Machine.start (← game s)
    match ← onMachine (program.run Game.resolver w.rounds s.echoResults) m with
    | (.ok errors, m) =>
      let failed ← fire w.rounds triggers m
      return if failed || !errors.isEmpty then 1 else 0
    | (.error _, _) => return 1

/-- Evaluate one expression and show its value. -/
def evaluate (s : Settings) (source : String) : Work Nat := do
  let r := Script.readExpression "<eval>" source
  tellAll r.notices
  match r.result with
  | none => return 1
  | some e =>
    let m := Machine.start (← game s)
    match ← onMachine (e.evaluate Game.resolver) m with
    | (.ok v, _) =>
      tell (.line v.display)
      return 0
    | (.error e, _) =>
      tell (.complaint s!"Error: {e.report}")
      return 1

/-- List the tokens of a file, with the errors between them. -/
def listTokens (w : Surroundings) (file : String) : Work Nat := do
  let some source ← script? w file | return 1
  tellAll ((scanAll source).map fun
    | .token t => .line ("  " ++ t.listing)
    | .error e => .scanError file e)
  return if (scanErrors source).isEmpty then 0 else 1

/-- Show the statements of a file. -/
def showTree (w : Surroundings) (s : Settings) (file : String) (json groups : Bool) : Work Nat := do
  let some source ← script? w file | return 1
  match ← statements? s false file source with
  | none => return 1
  | some program =>
    if json then tell (.line (Program.serialize file program))
    else tell (.line (Program.render (s.showGroups && groups) program))
    return 0

/-- The lines of an input text. -/
def inputLines (input : String) : List Repl.Input :=
  let lines := (String.ofList (Source.joinLines input.toList)).splitOn "\n"
  let lines := if lines.getLast? = some "" then lines.dropLast else lines
  lines.map .line

/-- The interactive session that the settings describe. -/
def prepare (w : Surroundings) (s : Settings) : Work Conversation := do
  let g ← game s
  let limit ← need .datum s.maxErrors
  return {
    options :=
      { echo := s.echoResults, recover := s.recoverErrors, limit := some limit, rounds := w.rounds }
    prompt := s.prompt
    repl := Repl.start (Machine.start g) }

/-- Hold an interactive session on all of the input. -/
def converse (w : Surroundings) (s : Settings) : Work Nat := do
  let c ← prepare w s
  match Repl.session Game.resolver c.options c.prompt (inputLines w.input) c.repl with
  | .ok _ r =>
    tellAll r.machine.notices.toList
    return 0
  | .error f r =>
    tellAll r.machine.notices.toList
    throw (.failure f)

end Work

namespace Command

def perform (w : Surroundings) (s : Settings) : Command → Work Nat
  | repl => Work.converse w s
  | run file triggers recover => Work.runScript w s file triggers recover
  | eval expression => Work.evaluate s expression
  | tokens file => Work.listTokens w file
  | ast file json groups => Work.showTree w s file json groups

/-- The texts that notices amount to, with the log kept from a level on. -/
def finish (threshold : LogLevel) (status : Except Breakdown Nat) (notices : List Notice) :
    Finished where
  status := status
  output := String.join (notices.map Notice.output)
  errorOutput := String.join (notices.map (Notice.errorOutput threshold))

/-- The level from which on the log is kept. -/
def threshold (verbose : Bool) (s : Settings) : LogLevel :=
  if verbose then .debug else s.logLevel

/-- Run the program on its command line. Warnings about settings come before the log is set up, so
they are plain lines. -/
def execute (w : Surroundings) (arguments : List String) : Finished :=
  match Request.ofArguments arguments with
  | .print text => ⟨.ok 0, text, ""⟩
  | .refuse usage program message => ⟨.ok 2, "", usage ++ s!"{program}: error: {message}\n"⟩
  | .invoke path verbose command =>
    let (warnings, result) := Settings.load w.files w.home w.environment path
    let before := warnings.map Notice.complaint
    match result with
    | .error fault => finish .warning (.error (.settings fault)) before
    | .ok s =>
      let level := threshold verbose s
      match command with
      | none => finish level (.ok 0) (before ++ [.prompt Request.programHelp])
      | some c =>
        match c.perform w s before.toArray with
        | .ok status notices => finish level (.ok status) notices.toList
        | .error b notices => finish level (.error b) notices.toList

/-- The interactive session that a command line asks for, with the level of the log and the
notices so far, if it can begin. -/
def conversation? (w : Surroundings) (arguments : List String) :
    Option (Conversation × LogLevel × List Notice) :=
  match Request.ofArguments arguments with
  | .invoke path verbose (some .repl) =>
    let (warnings, result) := Settings.load w.files w.home w.environment path
    match result with
    | .error _ => none
    | .ok s =>
      match Work.prepare w s (warnings.map Notice.complaint).toArray with
      | .ok c notices => some (c, threshold verbose s, notices.toList)
      | .error .. => none
  | _ => none

/-- The files that a command line may read. -/
def paths (home : String) (environment : Settings.Environment) (arguments : List String) :
    List String :=
  match Request.ofArguments arguments with
  | .invoke path _ command =>
    let script :=
      match command with
      | some (.run file ..) | some (.tokens file) | some (.ast file ..) => [file]
      | _ => []
    Settings.candidates home environment path ++ script
  | _ => []

end Command
end RiftScript
