/-
What operators do to values.
-/
import RiftScript.Eval.Failure

namespace RiftScript
namespace Value

/-- A unary operator applied to its operand. -/
def applyUnary (operator : Token) (operand : Value) : Except Failure Value :=
  match operator.kind with
  | .notWord | .bang => .ok (boolean (!operand.truthy))
  | .minus =>
    match operand with
    | number x => .ok (number (-x))
    | _ => .error (.atToken operator .operandNotNumber)
  | _ => .error (.atToken operator (.unsupportedUnary operator.lexeme))

/-- Numbers add up; texts are joined, also with a number on one side. -/
def plus (operator : Token) : Value → Value → Except Failure Value
  | number x, number y => .ok (number (x + y))
  | text s, text t => .ok (text (s ++ t))
  | number x, text t => .ok (text ((number x).display ++ t))
  | text s, number y => .ok (text (s ++ (number y).display))
  | _, _ => .error (.atToken operator .operandsNotAddable)

/-- Apply an operation on floats to two numbers. -/
def numeric (operator : Token) (f : Float → Float → Except Failure Value) :
    Value → Value → Except Failure Value
  | number x, number y => f x y
  | _, _ => .error (.atToken operator .operandsNotNumbers)

/-- Division. Both zeros are refused as divisors. -/
def divide (operator : Token) (x y : Float) : Except Failure Value :=
  if y == 0.0 then .error (.atToken operator .divisionByZero) else .ok (number (x / y))

/-- A binary operator, the two logical ones apart, applied to its operands. -/
def applyBinary (operator : Token) (left right : Value) : Except Failure Value :=
  match operator.kind with
  | .plus => plus operator left right
  | .equalEqual => .ok (boolean (left.same right))
  | .bangEqual => .ok (boolean (!left.same right))
  | .minus => numeric operator (fun x y => .ok (number (x - y))) left right
  | .star => numeric operator (fun x y => .ok (number (x * y))) left right
  | .slash => numeric operator (divide operator) left right
  | .greater => numeric operator (fun x y => .ok (boolean (decide (x > y)))) left right
  | .greaterEqual => numeric operator (fun x y => .ok (boolean (decide (x ≥ y)))) left right
  | .less => numeric operator (fun x y => .ok (boolean (decide (x < y)))) left right
  | .lessEqual => numeric operator (fun x y => .ok (boolean (decide (x ≤ y)))) left right
  | _ => .error (.atToken operator (.unsupportedBinary operator.lexeme))

end Value
end RiftScript
