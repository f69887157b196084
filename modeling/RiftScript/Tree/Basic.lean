/-
Scripts as trees.

A champion declaration may stand as a statement, and also on its own where one expression is
asked for. A body is always a list of statements.
-/
import RiftScript.Token.Basic

namespace RiftScript

mutual

inductive Expr where
  | binary (left : Expr) (operator : Token) (right : Expr)
  | unary (operator : Token) (operand : Expr)
  | literal (value : Value) (line : Int)
  | variable (name : Token)
  | grouping (inner : Expr)
  | call (callee : Token) (arguments : List Expr)
  | champion (declared : Champion)

inductive Stmt where
  | expression (value : Expr)
  | block (statements : List Stmt)
  | conditional (condition : Expr) (thenBody : List Stmt) (elseBody : Option (List Stmt))
  | loop (condition : Expr) (body : List Stmt)
  | combo (actions : List Stmt)
  | champion (declared : Champion)

/-- What a champion does when an event happens. -/
structure Handler where
  event : Token
  params : List Token
  body : List Stmt

/-- A champion and its handlers, in the order of declaration. -/
structure Champion where
  name : Token
  handlers : List Handler

end

/-- A script: its top-level statements. -/
abbrev Program := List Stmt

namespace Handler

/-- The event name as written in the script. -/
def eventName (h : Handler) : String :=
  h.event.lexeme

end Handler

namespace Champion

def key (c : Champion) : String :=
  c.name.lexeme

/-- The handlers of one event, in the order of declaration. -/
def handlersFor (c : Champion) (event : String) : List Handler :=
  c.handlers.filter fun h => h.eventName == event

end Champion

instance : Inhabited Expr := ⟨.literal .nil 0⟩
instance : Inhabited Stmt := ⟨.block []⟩
instance : Inhabited Handler := ⟨⟨default, [], []⟩⟩
instance : Inhabited Champion := ⟨⟨default, []⟩⟩

end RiftScript
