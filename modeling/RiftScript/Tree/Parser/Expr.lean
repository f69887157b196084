/-
Expressions.

    or          :=  and ("or" and)*
    and         :=  equality ("and" equality)*
    equality    :=  comparison (("==" | "!=") comparison)*
    comparison  :=  term ((">" | ">=" | "<" | "<=") term)*
    term        :=  factor (("+" | "-") factor)*
    factor      :=  unary (("*" | "/") unary)*
    unary       :=  ("not" | "!" | "-") unary  |  call
    call        :=  primary ("(" arguments ")")?
    primary     :=  number | string | "true" | "false" | "nil" | name | "(" or ")"

Operators of one level group to the left. Only a name can be called.
-/
import RiftScript.Tree.Basic
import RiftScript.Tree.Parser.Basic

namespace RiftScript

/-- Levels of precedence, from the loosest to the tightest. -/
inductive Level where
  | disjunction | conjunction | equality | comparison | term | factor | unary
deriving Repr, DecidableEq

namespace Level

/-- The level of the operands. -/
def tighter : Level → Level
  | disjunction => conjunction
  | conjunction => equality
  | equality => comparison
  | comparison => term
  | term => factor
  | factor => unary
  | unary => unary

/-- The binary operators of a level. -/
def operators : Level → List TokenKind
  | disjunction => [.orWord]
  | conjunction => [.andWord]
  | equality => [.equalEqual, .bangEqual]
  | comparison => [.greater, .greaterEqual, .less, .lessEqual]
  | term => [.plus, .minus]
  | factor => [.star, .slash]
  | unary => []

def hasOperator (l : Level) (kind : TokenKind) : Bool :=
  l.operators.contains kind

end Level

namespace Parser

/-- The operators that stand before their operand. -/
def isUnaryOperator (kind : TokenKind) : Bool :=
  kind == .notWord || kind == .bang || kind == .minus

/-- A call needs a name in front of its arguments; otherwise the opening parenthesis, the first
token of `paren`, is blamed. -/
def callOf (callee : Expr) (paren : List Token) (arguments : List Expr) : Parser Expr :=
  match callee with
  | .variable name => pure (.call name arguments)
  | _ => blame .notCallable paren

mutual

/-- An expression of a level, at most `depth` steps deep. -/
def expressionAt : (depth : Nat) → Level → Parser Expr
  | 0, _ => fail .tooDeep
  | depth + 1, .unary => do
    match ← accept isUnaryOperator with
    | some operator => return .unary operator (← expressionAt depth .unary)
    | none => call depth
  | depth + 1, level => do
    let left ← expressionAt depth level.tighter
    operations depth level left

/-- The operators of a level that follow an operand, with their right operands. -/
def operations : (depth : Nat) → Level → Expr → Parser Expr
  | 0, _, _ => fail .tooDeep
  | depth + 1, level, left => do
    match ← accept level.hasOperator with
    | some operator =>
      let right ← expressionAt depth level.tighter
      operations depth level (.binary left operator right)
    | none => return left

/-- A primary expression, with its arguments if it is called. -/
def call : (depth : Nat) → Parser Expr
  | 0 => fail .tooDeep
  | depth + 1 => do
    let callee ← primary depth
    let paren ← ahead
    match ← accept (· == .leftParen) with
    | some _ => callOf callee paren (← arguments depth)
    | none => return callee

def primary : (depth : Nat) → Parser Expr
  | 0 => fail .tooDeep
  | depth + 1 => fun ts =>
    match ts with
    | [] => .error (.expected .expression) [] []
    | t :: rest =>
      match t.kind with
      | .trueWord => .ok (.literal (.boolean true) t.line) rest
      | .falseWord => .ok (.literal (.boolean false) t.line) rest
      | .nilWord => .ok (.literal .nil t.line) rest
      | .number | .string => .ok (.literal t.literal t.line) rest
      | .identifier | .action _ | .query _ | .place _ => .ok (.variable t) rest
      | .leftParen => group depth rest
      | _ => .error (.expected .expression) (t :: rest) (t :: rest)

/-- An expression up to its closing parenthesis. -/
def group : (depth : Nat) → Parser Expr
  | 0 => fail .tooDeep
  | depth + 1 => do
    let inner ← expressionAt depth .disjunction
    let _ ← expect .rightParen .groupClosing
    return .grouping inner

/-- Arguments after the opening parenthesis, up to the closing one. -/
def arguments : (depth : Nat) → Parser (List Expr)
  | 0 => fail .tooDeep
  | depth + 1 => do
    match ← accept (· == .rightParen) with
    | some _ => return []
    | none =>
      let first ← expressionAt depth .disjunction
      return first :: (← moreArguments depth)

/-- Arguments after the first one, up to the closing parenthesis. -/
def moreArguments : (depth : Nat) → Parser (List Expr)
  | 0 => fail .tooDeep
  | depth + 1 => do
    match ← accept (· == .comma) with
    | some _ =>
      let next ← expressionAt depth .disjunction
      return next :: (← moreArguments depth)
    | none =>
      let _ ← expect .rightParen .argumentsClosing
      return []

end

/-- An expression. -/
def expression : Parser Expr :=
  fun ts => expressionAt (depth ts) .disjunction ts

end Parser
end RiftScript
