/-
From script text to trees, with the notices that tell what was wrong on the way.
-/
import RiftScript.Diagnostic
import RiftScript.Notice

namespace RiftScript

/-- The diagnostic that a notice of scanning or parsing stands for. -/
def Diagnostic.ofNotice? : Notice → Option Diagnostic
  | .scanError _ e => some (ofScanError e)
  | .syntaxError _ e => some (ofSyntaxError e)
  | _ => none

/-- What reading a script gives, and the notices it gave rise to. -/
structure Reading (α : Type) where
  result : α
  notices : List Notice

namespace Reading

variable {α : Type}

/-- The lines of output that show the notices. -/
def lines (r : Reading α) : List String :=
  r.notices.filterMap Notice.line?

/-- The diagnostics that the notices stand for. -/
def diagnostics (r : Reading α) : List Diagnostic :=
  r.notices.filterMap Diagnostic.ofNotice?

/-- The same reading, with notices that came before it. -/
def following (earlier : List Notice) (r : Reading α) : Reading α :=
  ⟨r.result, earlier ++ r.notices⟩

end Reading

namespace Script

def scanNotices (file source : String) : List Notice :=
  (scanErrors source).map (.scanError file)

/-- Parse tokens with a parser that stops at the first syntax error. -/
def parseWith {α : Type} (parse : List Token → Except SyntaxError α) (file : String)
    (ts : List Token) : Reading (Option α) :=
  match parse ts with
  | .ok a => ⟨some a, []⟩
  | .error e => ⟨none, [.syntaxError file e]⟩

/-- Parse tokens with recovery. -/
def parseThrough (limit : Option Int) (file : String) (ts : List Token) : Reading Recovery.Outcome :=
  let outcome := parseRecovering ts limit
  ⟨outcome, outcome.errors.map (.syntaxError file)⟩

/-- Read with a parser that stops at the first syntax error. -/
def readWith {α : Type} (parse : List Token → Except SyntaxError α) (file source : String) :
    Reading (Option α) :=
  (parseWith parse file (scan source)).following (scanNotices file source)

/-- The statements of a script, unless it has a syntax error. -/
def readProgram : (file source : String) → Reading (Option Program) :=
  readWith parseProgram

/-- The one expression of a script, unless it has a syntax error. -/
def readExpression : (file source : String) → Reading (Option Expr) :=
  readWith parseExpression

/-- The statements of a script that could be read. -/
def readRecovering (limit : Option Int) (file source : String) : Reading Recovery.Outcome :=
  (parseThrough limit file (scan source)).following (scanNotices file source)

end Script
end RiftScript
