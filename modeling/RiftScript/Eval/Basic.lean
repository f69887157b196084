/-
Running scripts.

Evaluation goes depth first and from left to right. The logical operators look at their right
operand only if they need it. The only unbounded construct is the loop, so a bound on the number
of rounds of each loop makes every run finite; a loop that reaches it ends the run unfinished.
-/
import RiftScript.Eval.Machine
import RiftScript.Eval.Operator

namespace RiftScript

variable {σ : Type}

mutual

/-- The value of an expression. -/
def Expr.evaluate (r : Resolver σ) : Expr → Run σ Value
  | .literal value _ => return value
  | .grouping inner => inner.evaluate r
  | .unary operator operand => do
    Run.lift (Value.applyUnary operator (← operand.evaluate r))
  | .binary left operator right => do
    let l ← left.evaluate r
    match operator.kind with
    | .andWord =>
      if l.truthy then return .boolean (← right.evaluate r).truthy else return .boolean false
    | .orWord =>
      if l.truthy then return .boolean true else return .boolean (← right.evaluate r).truthy
    | _ => Run.lift (Value.applyBinary operator l (← right.evaluate r))
  | .variable name => Run.ask name (r.lookup name)
  | .call callee arguments => do
    let values ← evaluateAll r arguments
    Run.ask callee (r.call callee values)
  | .champion declared => do
    Run.declare declared
    return .nil

/-- The values of arguments, in order. -/
def evaluateAll (r : Resolver σ) : List Expr → Run σ (List Value)
  | [] => return []
  | e :: es => do
    let v ← e.evaluate r
    return v :: (← evaluateAll r es)

end

/-- Go round while a test holds, `rounds` times at most. -/
def repeatWhile (test : Run σ Value) (body : Run σ Unit) : (rounds : Nat) → Run σ Unit
  | 0 => throw .unfinished
  | rounds + 1 => do
    if (← test).truthy then
      body
      repeatWhile test body rounds
    else return ()

mutual

/-- Execute a statement whose loops may go round `rounds` times each. -/
def Stmt.execute (r : Resolver σ) (rounds : Nat) : Stmt → Run σ Unit
  | .expression value => do
    let _ ← value.evaluate r
    return ()
  | .block statements => executeAll r rounds statements
  | .conditional condition thenBody elseBody => do
    if (← condition.evaluate r).truthy then executeAll r rounds thenBody
    else executeElse r rounds elseBody
  | .loop condition body => repeatWhile (condition.evaluate r) (executeAll r rounds body) rounds
  | .combo actions => executeAll r rounds actions
  | .champion declared => Run.declare declared

/-- Execute statements in order. The first failure ends them. -/
def executeAll (r : Resolver σ) (rounds : Nat) : List Stmt → Run σ Unit
  | [] => return ()
  | s :: ss => do
    s.execute r rounds
    executeAll r rounds ss

def executeElse (r : Resolver σ) (rounds : Nat) : Option (List Stmt) → Run σ Unit
  | none => return ()
  | some body => executeAll r rounds body

end

/-- Execute a top-level statement. The value of an expression is shown unless it is nil. -/
def Stmt.runTop (r : Resolver σ) (rounds : Nat) (echo : Bool) : Stmt → Run σ Unit
  | .expression value => do
    let v ← value.evaluate r
    if echo && v != .nil then Run.notice (.result v) else return ()
  | s => s.execute r rounds

/-- Run a program. An error of the script ends only the top-level statement it happened in: it is
reported, and the run goes on. The errors are given back in order. -/
def Program.run (r : Resolver σ) (rounds : Nat) (echo : Bool) : Program → Run σ (List RuntimeError)
  | [] => return []
  | s :: ss => fun m =>
    match s.runTop r rounds echo m with
    | .ok _ m => Program.run r rounds echo ss m
    | .error (.script e) m =>
      match Program.run r rounds echo ss (m.emit (.failure e)) with
      | .ok errors m => .ok (e :: errors) m
      | .error f m => .error f m
    | .error f m => .error f m

/-- Run handlers one after the other, announcing each. -/
def runHandlers (r : Resolver σ) (rounds : Nat) (event champion : String) :
    List Handler → Run σ Unit
  | [] => return ()
  | h :: hs => do
    Run.notice (.running event champion)
    executeAll r rounds h.body
    runHandlers r rounds event champion hs

/-- Fire an event: run the handlers that the champion has for it at this moment, and give their
number. Nothing happens for a champion that is not known. -/
def trigger (r : Resolver σ) (rounds : Nat) (champion event : String) : Run σ Nat := do
  match (← get).champions.get? champion with
  | none =>
    Run.notice (.unknownChampion champion)
    return 0
  | some c =>
    let handlers := c.handlersFor event
    runHandlers r rounds event champion handlers
    return handlers.length

end RiftScript
