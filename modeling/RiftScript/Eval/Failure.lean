/-
What can go wrong while a script runs.
-/
import RiftScript.Datum.Basic
import RiftScript.Report

namespace RiftScript

inductive RuntimeCause where
  | unresolved (name : String)
  | undefinedVariable (name : String)
  | undefinedFunction (name : String)
  | operandNotNumber
  | operandsNotNumbers
  | operandsNotAddable
  | divisionByZero
  | unsupportedUnary (operator : String)
  | unsupportedBinary (operator : String)
  | unsupportedValue (typeName : String)
  | wrongArity (expected actual : Nat)
  | numberExpected (kindName : String)
  | textExpected (kindName : String)
  | hostFailed (message : String)
  /-- A host function raised a script error in its own words. -/
  | raised (message : String)
deriving Repr, DecidableEq

namespace RuntimeCause

def message : RuntimeCause → String
  | unresolved name => s!"Unresolved identifier '{name}'."
  | undefinedVariable name => s!"Undefined variable '{name}'."
  | undefinedFunction name => s!"Undefined function '{name}'."
  | operandNotNumber => "Operand must be a number."
  | operandsNotNumbers => "Operands must be numbers."
  | operandsNotAddable => "Operands must be numbers or strings."
  | divisionByZero => "Division by zero."
  | unsupportedUnary operator => s!"Unsupported unary operator '{operator}'."
  | unsupportedBinary operator => s!"Unsupported binary operator '{operator}'."
  | unsupportedValue typeName => s!"Unsupported value of type {typeName}."
  | wrongArity expected actual => s!"Expected {expected} arguments but got {actual}."
  | numberExpected kindName => s!"Expected a number but got {kindName}."
  | textExpected kindName => s!"Expected text but got {kindName}."
  | hostFailed message => s!"Host function failed: {message}"
  | raised message => message

end RuntimeCause

/-- An error of the script, with the token it happened at if it has one. -/
structure RuntimeError where
  token : Option Token
  cause : RuntimeCause
deriving Repr, DecidableEq

namespace RuntimeError

def message (e : RuntimeError) : String :=
  e.cause.message

def line (e : RuntimeError) : Int :=
  Report.lineOf e.token

def report (e : RuntimeError) : String :=
  Report.running e.token e.message

end RuntimeError

/-- Why an evaluation ends without a result. -/
inductive Failure where
  /-- An error of the script. Running a program reports it and goes on with the next statement. -/
  | script (e : RuntimeError)
  /-- The host supplied something that cannot be used at all. This ends the whole run. -/
  | host (fault : DatumFault)
  /-- A host function did not come back. This ends the whole run. -/
  | aborted
  /-- A loop went round more often than it was allowed to. -/
  | unfinished
deriving Repr, DecidableEq

namespace Failure

/-- A script error at a token. -/
def atToken (token : Token) (cause : RuntimeCause) : Failure :=
  .script ⟨some token, cause⟩

end Failure
end RiftScript
