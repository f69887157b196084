/-
Statements.

    statement   :=  champion | if | while | combo | block | expression ";"?
    if          :=  "if" "(" expression ")" body ("else" body)?
    while       :=  "while" "(" expression ")" body
    combo       :=  "combo" body
    block       :=  body
    body        :=  "{" statement* "}"
    champion    :=  "champion" identifier "{" handler* "}"
    handler     :=  event ("(" parameters ")")? body
    parameter   :=  identifier | number | string | action | query | place
-/
import RiftScript.Tree.Parser.Expr

namespace RiftScript
namespace Parser

/-- What may stand as a parameter of a handler. -/
def isParameter (kind : TokenKind) : Bool :=
  kind == .number || kind == .string || kind.isName

/-- Parameters after the first one, up to the closing parenthesis. -/
def moreParameters : (depth : Nat) → Parser (List Token)
  | 0 => fail .tooDeep
  | depth + 1 => do
    match ← accept (· == .comma) with
    | some _ =>
      let next ← expectThat isParameter .parameter
      return next :: (← moreParameters depth)
    | none =>
      let _ ← expect .rightParen .parametersClosing
      return []

/-- The parameters of a handler, if it lists any. -/
def parameters (depth : Nat) : Parser (List Token) := do
  match ← accept (· == .leftParen) with
  | none => return []
  | some _ =>
    match ← accept (· == .rightParen) with
    | some _ => return []
    | none =>
      let first ← expectThat isParameter .parameter
      return first :: (← moreParameters depth)

/-- The condition of a branch or a loop, up to the brace that opens the body. -/
def condition (opening : Expected) : Parser Expr := do
  let _ ← expect .leftParen opening
  let test ← expression
  let _ ← expect .rightParen .conditionClosing
  let _ ← expect .leftBrace .branchOpening
  return test

def expressionStatement : Parser Stmt := do
  let value ← expression
  let _ ← accept (· == .semicolon)
  return .expression value

mutual

/-- A statement, at most `depth` steps deep. -/
def statementAt : (depth : Nat) → Parser Stmt
  | 0 => fail .tooDeep
  | depth + 1 => do
    match ← peek with
    | some .champion => return .champion (← championAt depth)
    | some .ifWord =>
      let _ ← accept (· == .ifWord)
      let test ← condition .ifOpening
      let thenBody ← bodyAt depth .thenClosing
      return .conditional test thenBody (← elseAt depth)
    | some .whileWord =>
      let _ ← accept (· == .whileWord)
      let test ← condition .whileOpening
      return .loop test (← bodyAt depth .whileClosing)
    | some .combo =>
      let _ ← accept (· == .combo)
      let _ ← expect .leftBrace .comboOpening
      return .combo (← bodyAt depth .comboClosing)
    | some .leftBrace =>
      let _ ← accept (· == .leftBrace)
      return .block (← bodyAt depth .blockClosing)
    | _ => expressionStatement

/-- The statements of a body whose opening brace has been read, up to the closing one. -/
def bodyAt : (depth : Nat) → (closing : Expected) → Parser (List Stmt)
  | 0, _ => fail .tooDeep
  | depth + 1, closing => do
    match ← peek with
    | none => fail (.expected closing)
    | some .rightBrace =>
      let _ ← accept (· == .rightBrace)
      return []
    | some _ =>
      let first ← statementAt depth
      return first :: (← bodyAt depth closing)

/-- The other branch of a conditional, if there is one. -/
def elseAt : (depth : Nat) → Parser (Option (List Stmt))
  | 0 => fail .tooDeep
  | depth + 1 => do
    match ← accept (· == .elseWord) with
    | none => return none
    | some _ =>
      let _ ← expect .leftBrace .elseOpening
      return some (← bodyAt depth .elseClosing)

def championAt : (depth : Nat) → Parser Champion
  | 0 => fail .tooDeep
  | depth + 1 => do
    let _ ← expect .champion .championWord
    let name ← expect .identifier .championName
    let _ ← expect .leftBrace .championOpening
    return ⟨name, ← handlersAt depth⟩

/-- The handlers of a champion whose opening brace has been read, up to the closing one. -/
def handlersAt : (depth : Nat) → Parser (List Handler)
  | 0 => fail .tooDeep
  | depth + 1 => do
    match ← peek with
    | none => fail (.expected .championClosing)
    | some .rightBrace =>
      let _ ← accept (· == .rightBrace)
      return []
    | some _ =>
      let event ← expectThat TokenKind.isEvent .eventName
      let params ← parameters depth
      let _ ← expect .leftBrace .handlerOpening
      let body ← bodyAt depth .handlerClosing
      return ⟨event, params, body⟩ :: (← handlersAt depth)

end

/-- A statement. -/
def statement : Parser Stmt :=
  fun ts => statementAt (depth ts) ts

/-- A champion declaration. -/
def champion : Parser Champion :=
  fun ts => championAt (depth ts) ts

/-- Statements up to the end of the script, at most `count` of them. -/
def statements : (count : Nat) → Parser (List Stmt)
  | 0 => fun ts => if ts.isEmpty then .ok [] [] else .error .tooDeep ts ts
  | count + 1 => fun ts =>
    if ts.isEmpty then .ok [] []
    else (do return (← statement) :: (← statements count) : Parser (List Stmt)) ts

/-- A whole script: statements up to its end. -/
def program : Parser Program :=
  fun ts => statements ts.length ts

/-- One expression or champion declaration, then an optional semicolon and the end. -/
def single : Parser Expr := do
  let value ← do
    match ← peek with
    | some .champion => pure (.champion (← champion))
    | _ => expression
  let _ ← accept (· == .semicolon)
  match ← peek with
  | none => return value
  | some _ => fail (.expected .endOfExpression)

end Parser
end RiftScript
