/-
Notices: what scanning, parsing and running tell the outside.

A notice can be shown as a line of output, and it can be written to the log. Most are both.
-/
import RiftScript.Eval.Failure
import RiftScript.Game.Action
import RiftScript.Token.Scan
import RiftScript.Tree.Parser.Fault

namespace RiftScript

inductive Notice where
  | scanError (file : String) (e : ScanError)
  | syntaxError (file : String) (e : SyntaxError)
  | declared (champion : String) (replaced : Bool)
  | running (event champion : String)
  | unknownChampion (champion : String)
  | noHandler (event champion : String)
  /-- An action; hosts without an output do not show it. -/
  | action (record : ActionRecord) (shown : Bool)
  | result (value : Value)
  | failure (e : RuntimeError)
  /-- A line of a dialogue. -/
  | line (text : String)
  /-- A request for input, on an open line. -/
  | prompt (text : String)
  /-- A line for the error output. -/
  | complaint (text : String)
deriving Repr, DecidableEq

/-- Levels of the log, as it numbers them. -/
structure LogLevel where
  rank : Int
deriving Repr, DecidableEq

namespace LogLevel

def debug : LogLevel := ⟨10⟩
def info : LogLevel := ⟨20⟩
def warning : LogLevel := ⟨30⟩

def label (l : LogLevel) : String :=
  if l.rank = 50 then "CRITICAL"
  else if l.rank = 40 then "ERROR"
  else if l.rank = 30 then "WARNING"
  else if l.rank = 20 then "INFO"
  else if l.rank = 10 then "DEBUG"
  else if l.rank = 0 then "NOTSET"
  else s!"Level {l.rank}"

/-- The level with a name. -/
def ofName? (name : String) : Option LogLevel :=
  [("CRITICAL", 50), ("FATAL", 50), ("ERROR", 40), ("WARN", 30), ("WARNING", 30), ("INFO", 20),
    ("DEBUG", 10), ("NOTSET", 0)].lookup name |>.map LogLevel.mk

end LogLevel

/-- An entry of the log. -/
structure LogRecord where
  level : LogLevel
  logger : String
  message : String
deriving Repr, DecidableEq

namespace LogRecord

def display (r : LogRecord) : String :=
  s!"{r.level.label} {r.logger}: {r.message}"

/-- Whether a log that keeps entries from a level on keeps this one. Entries without a positive
level are never kept. -/
def kept (threshold : LogLevel) (r : LogRecord) : Bool :=
  decide (threshold.rank ≤ r.level.rank ∧ 0 < r.level.rank)

end LogRecord

namespace Notice

/-- The line of output that shows a notice. -/
def line? : Notice → Option String
  | scanError _ e => some e.report
  | syntaxError _ e => some e.report
  | declared champion _ => some s!"Champion registered: {champion}"
  | running event champion => some s!"Running {event} for {champion}"
  | action record shown => if shown then some s!"> {record.display}" else none
  | result value => some s!"Result: {value.display}"
  | failure e => some e.report
  | line text => some text
  | unknownChampion _ | noHandler .. | prompt _ | complaint _ => none

/-- The log entry for a notice. -/
def log? : Notice → Option LogRecord
  | scanError file e => some ⟨.debug, "lsl.parser.lexer", s!"{file}: {e.report}"⟩
  | syntaxError file e => some ⟨.debug, "lsl.parser.parser", s!"{file}: {e.report}"⟩
  | declared champion replaced =>
    let verb := if replaced then "replaced" else "registered"
    some ⟨.info, "lsl.runtime.evaluator", s!"Champion {verb}: {champion}"⟩
  | running event champion =>
    some ⟨.info, "lsl.runtime.evaluator", s!"Running {event} for {champion}"⟩
  | unknownChampion champion =>
    some ⟨.debug, "lsl.runtime.evaluator", s!"No champion named {champion}"⟩
  | noHandler event champion => some ⟨.info, "lsl.cli", s!"No {event} handler for {champion}"⟩
  | action record _ => some ⟨.info, "lsl.runtime.bindings", s!"Action: {record.display}"⟩
  | failure e => some ⟨.warning, "lsl.runtime.evaluator", e.report⟩
  | result _ | line _ | prompt _ | complaint _ => none

/-- What a notice adds to the output. -/
def output (n : Notice) : String :=
  match n with
  | prompt text => text
  | n =>
    match n.line? with
    | some text => text ++ "\n"
    | none => ""

/-- What a notice adds to the error output when the log is kept there from a level on. -/
def errorOutput (threshold : LogLevel) (n : Notice) : String :=
  match n with
  | complaint text => text ++ "\n"
  | n =>
    match n.log? with
    | some record => if record.kept threshold then record.display ++ "\n" else ""
    | none => ""

end Notice
end RiftScript
