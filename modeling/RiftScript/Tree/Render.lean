/-
Trees as text.

A tree is written with every operator in front of its operands and in parentheses, so that the
text shows how the script was understood. Groupings can be shown or left out.
-/
import RiftScript.Tree.Basic

namespace RiftScript

/-- A head and its parts in parentheses, separated by spaces. -/
def parenthesized (head : String) (parts : List String) : String :=
  "(" ++ " ".intercalate (head :: parts) ++ ")"

mutual

def Expr.render (groups : Bool) : Expr → String
  | .binary left operator right =>
    parenthesized operator.lexeme [left.render groups, right.render groups]
  | .unary operator operand => parenthesized operator.lexeme [operand.render groups]
  | .literal value _ => value.literal
  | .variable name => name.lexeme
  | .grouping inner =>
    if groups then parenthesized "group" [inner.render groups] else inner.render groups
  | .call callee arguments =>
    parenthesized "call" (callee.lexeme :: renderArguments groups arguments)
  | .champion declared => declared.render groups

def renderArguments (groups : Bool) : List Expr → List String
  | [] => []
  | e :: es => e.render groups :: renderArguments groups es

def Stmt.render (groups : Bool) : Stmt → String
  | .expression value => value.render groups
  | .block statements => parenthesized "block" (renderBody groups statements)
  | .conditional condition thenBody elseBody =>
    parenthesized "if" (condition.render groups
      :: parenthesized "then" (renderBody groups thenBody) :: renderElse groups elseBody)
  | .loop condition body =>
    parenthesized "while" (condition.render groups :: renderBody groups body)
  | .combo actions => parenthesized "combo" (renderBody groups actions)
  | .champion declared => declared.render groups

def renderBody (groups : Bool) : List Stmt → List String
  | [] => []
  | s :: ss => s.render groups :: renderBody groups ss

def renderElse (groups : Bool) : Option (List Stmt) → List String
  | none => []
  | some body => [parenthesized "else" (renderBody groups body)]

def Handler.render (groups : Bool) : Handler → String
  | ⟨event, params, body⟩ =>
    parenthesized event.lexeme
      (("(" ++ " ".intercalate (params.map Token.lexeme) ++ ")") :: renderBody groups body)

def Champion.render (groups : Bool) : Champion → String
  | ⟨name, handlers⟩ =>
    parenthesized "champion" (name.lexeme :: renderHandlers groups handlers)

def renderHandlers (groups : Bool) : List Handler → List String
  | [] => []
  | h :: hs => h.render groups :: renderHandlers groups hs

end

/-- A program as text: one line for each statement. -/
def Program.render (groups : Bool) (program : Program) : String :=
  "\n".intercalate (renderBody groups program)

end RiftScript
