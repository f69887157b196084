/-
Host functions: what an embedding program lets scripts call.

A host function keeps a datum from one call to the next, and may read and change the game.
-/
import RiftScript.Game.State
import RiftScript.Value

namespace RiftScript

/-- How a host function ends. -/
inductive HostReply where
  | value (d : Datum)
  /-- It raised an error of the script. -/
  | scriptError (message : String)
  /-- It failed in some other way. -/
  | failure (message : String)
  /-- It asked to exit, was interrupted, or failed in a way that cannot be put into words. -/
  | abort

/-- A host function's reply, what it keeps for the next call, and the game it leaves. -/
structure HostStep where
  reply : HostReply
  memory : Datum
  state : GameState

structure HostFunction where
  memory : Datum
  step : (memory : Datum) → (arguments : List Value) → GameState → HostStep

namespace HostFunction

/-- A function that keeps nothing and leaves the game alone. -/
def stateless (reply : List Value → HostReply) : HostFunction where
  memory := .null
  step := fun memory arguments state => ⟨reply arguments, memory, state⟩

/-- Always the same datum. -/
def const (d : Datum) : HostFunction :=
  stateless fun _ => .value d

/-- A whole number kept between calls. -/
def counting (n : Int) (step : Int → Datum × Int) : HostFunction where
  memory := .int n
  step := fun memory _ state =>
    let (reply, next) := step (memory.int?.getD 0)
    ⟨.value reply, .int next, state⟩

/-- True for the first `n` calls. -/
def countdown (n : Int) : HostFunction :=
  counting n fun k => (.bool (decide (0 ≤ k - 1)), k - 1)

/-- The numbers from `n` on. -/
def counter (n : Int) : HostFunction :=
  counting n fun k => (.int k, k + 1)

/-- Always fails. -/
def failing (message : String) : HostFunction :=
  stateless fun _ => .failure message

/-- Always raises an error of the script. -/
def raising (message : String) : HostFunction :=
  stateless fun _ => .scriptError message

/-- The number of arguments. -/
def argumentCount : HostFunction :=
  stateless fun arguments => .value (.int arguments.length)

/-- The arguments as a list. -/
def argumentList : HostFunction :=
  stateless fun arguments => .value (.list (arguments.map Value.toDatum))

/-- The last argument, or nil. -/
def lastArgument : HostFunction :=
  stateless fun arguments => .value ((arguments.getLast?.map Value.toDatum).getD .null)

/-- A datum as a float among the numbers. Booleans count as 0 and 1. -/
def operand (d : Datum) : Except DatumFault Float :=
  match d with
  | .float x => .ok x
  | .bool _ | .int _ => d.toFloat
  | _ => .error .wrongType

/-- One datum less another. Two whole numbers leave a whole number. -/
def minus (a b : Datum) : Except DatumFault Datum :=
  match a.int?, b.int? with
  | some m, some n => .ok (.int (m - n))
  | _, _ => do return .float ((← operand a) - (← operand b))

/-- Takes the first argument, or 1, off the champion's health and gives what is left. -/
def damage : HostFunction where
  memory := .null
  step := fun memory arguments state =>
    let loss := (arguments.head?.map Value.toDatum).getD (.float 1.0)
    match minus state.health loss with
    | .ok left => ⟨.value left, memory, { state with health := left }⟩
    | .error .tooLarge => ⟨.failure "int too large to convert to float", memory, state⟩
    | .error _ =>
      let types := s!"'{state.health.typeName}' and '{loss.typeName}'"
      ⟨.failure s!"unsupported operand type(s) for -=: {types}", memory, state⟩

end HostFunction
end RiftScript
