/-
Diagnostics for editors and other tools.
-/
import RiftScript.Token.Scan
import RiftScript.Tree.Parser.Recovery

namespace RiftScript

inductive Severity where
  | error | warning | info
deriving Repr, DecidableEq

namespace Severity

def label : Severity → String
  | error => "error"
  | warning => "warning"
  | info => "info"

end Severity

/-- Where a diagnostic comes from. -/
inductive DiagnosticCode where
  | scanning | parsing | tooManyErrors
deriving Repr, DecidableEq

namespace DiagnosticCode

def label : DiagnosticCode → String
  | scanning => "LEXER_ERROR"
  | parsing => "PARSE_ERROR"
  | tooManyErrors => "TOO_MANY_ERRORS"

end DiagnosticCode

/-- A message about a range of a script. -/
structure Diagnostic where
  line : Int
  column : Int
  endLine : Int
  endColumn : Int
  severity : Severity
  code : DiagnosticCode
  message : String
deriving Repr, DecidableEq

namespace Diagnostic

/-- A scanning error covers one character. -/
def ofScanError (e : ScanError) : Diagnostic where
  line := e.line
  column := e.column
  endLine := e.line
  endColumn := e.column + 1
  severity := .error
  code := .scanning
  message := e.message

def codeOf : SyntaxFault → DiagnosticCode
  | .tooManyErrors _ => .tooManyErrors
  | _ => .parsing

/-- A syntax error covers the token it is blamed on. -/
def ofSyntaxError (e : SyntaxError) : Diagnostic where
  line := e.token.line
  column := e.token.column
  endLine := e.token.line
  endColumn := e.token.column + e.token.lexeme.length
  severity := .error
  code := codeOf e.fault
  message := e.message

end Diagnostic

/-- The outcome of checking a script: what could be read and everything that is wrong with it. -/
structure Checked where
  statements : List Stmt
  diagnostics : List Diagnostic

namespace Checked

def success (c : Checked) : Bool :=
  c.diagnostics.isEmpty

def errors (c : Checked) : List Diagnostic :=
  c.diagnostics.filter (·.severity == .error)

def warnings (c : Checked) : List Diagnostic :=
  c.diagnostics.filter (·.severity == .warning)

end Checked

/-- Scan and parse a script with recovery. Scanning errors come first. -/
def check (source : String) (limit : Option Int) : Checked :=
  let outcome := parseRecovering (scan source) limit
  { statements := outcome.statements
    diagnostics := (scanErrors source).map .ofScanError ++ outcome.errors.map .ofSyntaxError }

end RiftScript
