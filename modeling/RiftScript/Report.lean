/-
The wording of error reports.

Scanning, parsing and running a script report errors in one line each. The three forms differ in
how they say where the error happened.
-/
import RiftScript.Token.Basic

namespace RiftScript
namespace Report

/-- A scanning error names its line only. -/
def scanning (line : Int) (message : String) : String :=
  s!"[line {line}] Error: {message}"

/-- The line that a report about a token gives; without a token it is 0. -/
def lineOf (token : Option Token) : Int :=
  (token.map Token.line).getD 0

def columnOf (token : Option Token) : Int :=
  (token.map Token.column).getD 0

/-- A parsing error names its line and token, or the end of the script. -/
def parsing (token : Option Token) (message : String) : String :=
  s!"[line {lineOf token}] Error {whereabouts token}: {message}"

/-- A runtime error names its line and token if it has one. -/
def running (token : Option Token) (message : String) : String :=
  match token with
  | some t => s!"[line {t.line}] Runtime error at '{t.lexeme}': {message}"
  | none => s!"Runtime error: {message}"

end Report
end RiftScript
