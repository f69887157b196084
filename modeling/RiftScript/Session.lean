/-
Sessions: one machine asked to do one thing after another.

Champions stay declared from one request to the next until they are cleared.
-/
import RiftScript.Eval.Basic
import RiftScript.Script

namespace RiftScript
namespace Session

inductive Request where
  /-- Run a script statement by statement, showing results and reporting errors. -/
  | run (source : String) (recover : Bool)
  /-- Execute a script for its effects, up to the first error. -/
  | execute (source : String) (recover : Bool)
  | evaluate (source : String)
  | trigger (champion event : String)
  | clear
deriving Repr, DecidableEq

inductive Reply where
  /-- The source has a syntax error. -/
  | unreadable
  | ran (errors : List RuntimeError)
  | executed
  | value (v : Value)
  /-- The number of handlers that ran. -/
  | triggered (count : Nat)
  | cleared
deriving Repr, DecidableEq

variable {σ α : Type}

/-- Tell what was found while reading. -/
def tell (reading : Reading α) : Run σ α := do
  reading.notices.forM Run.notice
  return reading.result

/-- The statements of a source. With recovery there always are some. -/
def statements (recover : Bool) (source : String) : Run σ (Option Program) := do
  if recover then
    let outcome ← tell (Script.readRecovering none "<unknown>" source)
    return some outcome.statements
  else tell (Script.readProgram "<unknown>" source)

/-- Do what is asked for. -/
def perform (r : Resolver σ) (rounds : Nat) (echo : Bool) : Request → Run σ Reply
  | .run source recover => do
    match ← statements recover source with
    | none => return .unreadable
    | some program => return .ran (← program.run r rounds echo)
  | .execute source recover => do
    match ← statements recover source with
    | none => return .unreadable
    | some program =>
      executeAll r rounds program
      return .executed
  | .evaluate source => do
    match ← tell (Script.readExpression "<unknown>" source) with
    | none => return .unreadable
    | some e => return .value (← e.evaluate r)
  | .trigger champion event => do
    return .triggered (← trigger r rounds champion event)
  | .clear => do
    modify fun m => { m with champions := .empty }
    return .cleared

end Session
end RiftScript
