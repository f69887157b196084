/-
What can be wrong with the structure of a script.
-/
import RiftScript.Report

namespace RiftScript

/-- What the grammar asks for at a place. -/
inductive Expected where
  | endOfExpression
  | comboOpening | comboClosing
  | blockClosing
  | championWord | championName | championOpening | championClosing
  | eventName | parameter | parametersClosing
  | handlerOpening | handlerClosing
  | ifOpening | whileOpening | conditionClosing | branchOpening
  | thenClosing | elseOpening | elseClosing | whileClosing
  | argumentsClosing | groupClosing
  | expression
deriving Repr, DecidableEq

namespace Expected

def message : Expected → String
  | endOfExpression => "Expect end of expression."
  | comboOpening => r"Expect '{' after 'combo'."
  | comboClosing => r"Expect '}' after combo body."
  | blockClosing => r"Expect '}' after block."
  | championWord => "Expect 'champion' keyword."
  | championName => "Expect champion name."
  | championOpening => r"Expect '{' after champion name."
  | championClosing => r"Expect '}' after champion body."
  | eventName => "Expect event name."
  | parameter => "Expect parameter."
  | parametersClosing => "Expect ')' after parameters."
  | handlerOpening => r"Expect '{' before event body."
  | handlerClosing => r"Expect '}' after event body."
  | ifOpening => "Expect '(' after 'if'."
  | whileOpening => "Expect '(' after 'while'."
  | conditionClosing => "Expect ')' after condition."
  | branchOpening => r"Expect '{' after condition."
  | thenClosing => r"Expect '}' after then branch."
  | elseOpening => r"Expect '{' after 'else'."
  | elseClosing => r"Expect '}' after else branch."
  | whileClosing => r"Expect '}' after while body."
  | argumentsClosing => "Expect ')' after arguments."
  | groupClosing => "Expect ')' after expression."
  | expression => "Expect expression."

end Expected

inductive SyntaxFault where
  | expected (what : Expected)
  /-- Only a name can be called. -/
  | notCallable
  /-- Parsing was given up after so many errors. -/
  | tooManyErrors (limit : Int)
  /-- The tree is deeper than the parser was told to go. -/
  | tooDeep
deriving Repr, DecidableEq

namespace SyntaxFault

def message : SyntaxFault → String
  | expected what => what.message
  | notCallable => "Can only call actions, queries or named functions."
  | tooManyErrors limit => s!"Too many errors ({limit}+), stopping."
  | tooDeep => "Nesting is too deep."

end SyntaxFault

/-- A syntax error and the token it is blamed on, with the index of that token in the script. -/
structure SyntaxError where
  fault : SyntaxFault
  token : Token
  index : Nat
deriving Repr, DecidableEq

namespace SyntaxError

def message (e : SyntaxError) : String :=
  e.fault.message

def report (e : SyntaxError) : String :=
  Report.parsing (some e.token) e.message

end SyntaxError
end RiftScript
