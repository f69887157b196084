/-
Reading tokens by index.

The parsers of the library take the list of tokens that are still ahead. Here the same grammar is
read from a list that stays as it is, with the index of the next token as the only state. An index
can be wrong where a list cannot: it may run past the end, or point in front of the first token when
one looks back. So a run says how it ended, where, and what was done at which index on the way.
-/
import RiftScript.Proofs.Parsing.Prefixes

namespace RiftScript

namespace Cursor

/-- What is done at an index: the token there is looked at, or the one before it, the index has just
moved there, or a statement or an expression that starts at `start` has been read up to there. -/
inductive Act where
  | current | previous | moved
  | parsed (start : Nat)

structure Event where
  pos : Nat
  act : Act

/-- Why a run ends without a value: a fault of the script, an index outside the list, or no fuel for
another step. -/
inductive Failure where
  | refused (fault : SyntaxFault) (token : Token)
  | outOfRange
  | exhausted

/-- How a run ended, at which index, and what happened on the way. -/
structure Run (α : Type) where
  outcome : Except Failure α
  pos : Nat
  trace : List Event

/-- A run and then another from where it ended. -/
def Run.andThen {α β : Type} (r : Run α) (next : α → Nat → Run β) : Run β :=
  match r.outcome with
  | .ok a => ⟨(next a r.pos).outcome, (next a r.pos).pos, r.trace ++ (next a r.pos).trace⟩
  | .error failure => ⟨.error failure, r.pos, r.trace⟩

end Cursor

/-- A reader of `α` from a list of tokens and an index into it. -/
def Cursor (α : Type) : Type :=
  List Token → Nat → Cursor.Run α

namespace Cursor

variable {α β : Type}

def pure (a : α) : Cursor α :=
  fun _ pos => ⟨.ok a, pos, []⟩

def bind (m : Cursor α) (f : α → Cursor β) : Cursor β :=
  fun tokens pos => (m tokens pos).andThen fun a => f a tokens

instance : Monad Cursor where
  pure := pure
  bind := bind

def failWith (failure : Failure) : Cursor α :=
  fun _ pos => ⟨.error failure, pos, []⟩

/-- Refuse the script and blame a token. -/
def fail (fault : SyntaxFault) (token : Token) : Cursor α :=
  failWith (.refused fault token)

def position : Cursor Nat :=
  fun _ pos => ⟨.ok pos, pos, []⟩

/-- Note what is done at the index. -/
def note (act : Act) : Cursor Unit :=
  fun _ pos => ⟨.ok (), pos, [⟨pos, act⟩]⟩

/-- The token that was looked up, if the index was one of the list. -/
def found : Option Token → Cursor Token
  | some t => pure t
  | none => failWith .outOfRange

/-! ## Tokens -/

def current : Cursor Token :=
  fun tokens pos => (do note .current; found tokens[pos]? : Cursor Token) tokens pos

/-- The token before the index. In front of the first token the list is entered from its end. -/
def previous : Cursor Token :=
  fun tokens pos =>
    (do note .previous; found (if pos = 0 then tokens.getLast? else tokens[pos - 1]?) :
      Cursor Token) tokens pos

def forward : Cursor Unit :=
  fun _ pos => ⟨.ok (), pos + 1, [⟨pos + 1, .moved⟩]⟩

def isAtEnd : Cursor Bool := do
  return (← current).kind == .eof

/-- Go on by one token, but not past an end token, and give the token that was passed. -/
def advance : Cursor Token := do
  if ← isAtEnd then previous
  else
    forward
    previous

def check (kind : TokenKind) : Cursor Bool := do
  if ← isAtEnd then return false
  else return (← current).kind == kind

/-- Pass the next token if it is of one of these kinds. -/
def passAny : List TokenKind → Cursor Bool
  | [] => return false
  | kind :: kinds => do
    if ← check kind then
      let _ ← advance
      return true
    else passAny kinds

def expect (kind : TokenKind) (what : Expected) : Cursor Token := do
  if ← check kind then advance
  else fail (.expected what) (← current)

/-- Note the tokens that a statement or an expression takes. -/
def spanned (m : Cursor α) : Cursor α := do
  let start ← position
  let a ← m
  note (.parsed start)
  return a

/-! ## Expressions -/

/-- A call needs a name in front of its arguments. -/
def callOf (callee : Expr) (paren : Token) (arguments : List Expr) : Cursor Expr :=
  match callee with
  | .variable name => return .call name arguments
  | _ => fail .notCallable paren

mutual

def expressionAt : (fuel : Nat) → Level → Cursor Expr
  | 0, _ => failWith .exhausted
  | fuel + 1, .unary => spanned do
    if ← passAny [.notWord, .bang, .minus] then
      let operator ← previous
      return .unary operator (← expressionAt fuel .unary)
    else call fuel
  | fuel + 1, level => spanned do
    let left ← expressionAt fuel level.tighter
    operations fuel level left

def operations : (fuel : Nat) → Level → Expr → Cursor Expr
  | 0, _, _ => failWith .exhausted
  | fuel + 1, level, left => do
    if ← passAny level.operators then
      let operator ← previous
      let right ← expressionAt fuel level.tighter
      operations fuel level (.binary left operator right)
    else return left

def call : (fuel : Nat) → Cursor Expr
  | 0 => failWith .exhausted
  | fuel + 1 => spanned do
    let callee ← primary fuel
    if ← passAny [.leftParen] then
      let paren ← previous
      callOf callee paren (← arguments fuel)
    else return callee

def primary : (fuel : Nat) → Cursor Expr
  | 0 => failWith .exhausted
  | fuel + 1 => spanned do
    let t ← current
    if ← passAny [.trueWord] then return .literal (.boolean true) t.line
    else if ← passAny [.falseWord] then return .literal (.boolean false) t.line
    else if ← passAny [.nilWord] then return .literal .nil t.line
    else if ← passAny [.number, .string] then return .literal t.literal t.line
    else if t.kind.isName then
      let _ ← advance
      return .variable t
    else if ← passAny [.leftParen] then group fuel
    else fail (.expected .expression) t

def group : (fuel : Nat) → Cursor Expr
  | 0 => failWith .exhausted
  | fuel + 1 => do
    let inner ← expressionAt fuel .disjunction
    let _ ← expect .rightParen .groupClosing
    return .grouping inner

def arguments : (fuel : Nat) → Cursor (List Expr)
  | 0 => failWith .exhausted
  | fuel + 1 => do
    if ← check .rightParen then
      let _ ← expect .rightParen .argumentsClosing
      return []
    else
      let first ← expressionAt fuel .disjunction
      return first :: (← moreArguments fuel)

def moreArguments : (fuel : Nat) → Cursor (List Expr)
  | 0 => failWith .exhausted
  | fuel + 1 => do
    if ← passAny [.comma] then
      let next ← expressionAt fuel .disjunction
      return next :: (← moreArguments fuel)
    else
      let _ ← expect .rightParen .argumentsClosing
      return []

end

/-- Ten steps for each token from the index on. -/
def fuelAt (tokens : List Token) (pos : Nat) : Nat :=
  10 * (tokens.length - pos)

def expression : Cursor Expr :=
  fun tokens pos => expressionAt (fuelAt tokens pos) .disjunction tokens pos

/-! ## Statements -/

def eventName : Cursor Token := do
  let t ← current
  if t.kind.isEvent then
    let _ ← advance
    return t
  else fail (.expected .eventName) t

def parameter : Cursor Token := do
  let t ← current
  if Parser.isParameter t.kind then advance
  else fail (.expected .parameter) t

def moreParameters : (fuel : Nat) → Cursor (List Token)
  | 0 => failWith .exhausted
  | fuel + 1 => do
    if ← passAny [.comma] then
      let next ← parameter
      return next :: (← moreParameters fuel)
    else
      let _ ← expect .rightParen .parametersClosing
      return []

def parameters (fuel : Nat) : Cursor (List Token) := do
  if ← passAny [.leftParen] then
    if ← check .rightParen then
      let _ ← expect .rightParen .parametersClosing
      return []
    else
      let first ← parameter
      return first :: (← moreParameters fuel)
  else return []

def condition (opening : Expected) : Cursor Expr := do
  let _ ← expect .leftParen opening
  let test ← expression
  let _ ← expect .rightParen .conditionClosing
  let _ ← expect .leftBrace .branchOpening
  return test

def expressionStatement : Cursor Stmt := do
  let value ← expression
  let _ ← passAny [.semicolon]
  return .expression value

/-- Whether a body ends here, by its brace or by the end of the script. -/
def bodyEnds : Cursor Bool := do
  if ← check .rightBrace then return true
  else isAtEnd

mutual

def statementAt : (fuel : Nat) → Cursor Stmt
  | 0 => failWith .exhausted
  | fuel + 1 => spanned do
    if ← check .champion then return .champion (← championAt fuel)
    else if ← passAny [.ifWord] then
      let test ← condition .ifOpening
      let thenBody ← bodyAt fuel .thenClosing
      return .conditional test thenBody (← elseAt fuel)
    else if ← passAny [.whileWord] then
      let test ← condition .whileOpening
      return .loop test (← bodyAt fuel .whileClosing)
    else if ← passAny [.combo] then
      let _ ← expect .leftBrace .comboOpening
      return .combo (← bodyAt fuel .comboClosing)
    else if ← passAny [.leftBrace] then return .block (← bodyAt fuel .blockClosing)
    else expressionStatement

def bodyAt : (fuel : Nat) → (closing : Expected) → Cursor (List Stmt)
  | 0, _ => failWith .exhausted
  | fuel + 1, closing => do
    if ← bodyEnds then
      let _ ← expect .rightBrace closing
      return []
    else
      let first ← statementAt fuel
      return first :: (← bodyAt fuel closing)

def elseAt : (fuel : Nat) → Cursor (Option (List Stmt))
  | 0 => failWith .exhausted
  | fuel + 1 => do
    if ← passAny [.elseWord] then
      let _ ← expect .leftBrace .elseOpening
      return some (← bodyAt fuel .elseClosing)
    else return none

def championAt : (fuel : Nat) → Cursor Champion
  | 0 => failWith .exhausted
  | fuel + 1 => spanned do
    let _ ← expect .champion .championWord
    let name ← expect .identifier .championName
    let _ ← expect .leftBrace .championOpening
    return ⟨name, ← handlersAt fuel⟩

def handlersAt : (fuel : Nat) → Cursor (List Handler)
  | 0 => failWith .exhausted
  | fuel + 1 => do
    if ← bodyEnds then
      let _ ← expect .rightBrace .championClosing
      return []
    else
      let event ← eventName
      let params ← parameters fuel
      let _ ← expect .leftBrace .handlerOpening
      let body ← bodyAt fuel .handlerClosing
      return ⟨event, params, body⟩ :: (← handlersAt fuel)

end

def statement : Cursor Stmt :=
  fun tokens pos => statementAt (fuelAt tokens pos) tokens pos

def champion : Cursor Champion :=
  fun tokens pos => championAt (fuelAt tokens pos) tokens pos

/-! ## Whole scripts -/

def statements : (count : Nat) → Cursor (List Stmt)
  | 0 => failWith .exhausted
  | count + 1 => do
    if ← isAtEnd then return []
    else
      let first ← statement
      return first :: (← statements count)

def program : Cursor Program :=
  fun tokens pos => statements tokens.length tokens pos

def ending (value : Expr) : Cursor Expr := do
  let _ ← passAny [.semicolon]
  if ← isAtEnd then return value
  else fail (.expected .endOfExpression) (← current)

def single : Cursor Expr := do
  if ← check .champion then ending (.champion (← champion))
  else ending (← expression)

/-! ## After a syntax error -/

/-- Turn a fault of the script into a value. -/
def attempt (m : Cursor α) : Cursor (Except (SyntaxFault × Token) α) :=
  fun tokens pos =>
    let r := m tokens pos
    match r.outcome with
    | .ok a => ⟨.ok (.ok a), r.pos, r.trace⟩
    | .error (.refused fault token) => ⟨.ok (.error (fault, token)), r.pos, r.trace⟩
    | .error failure => ⟨.error failure, r.pos, r.trace⟩

/-- The tokens from an index up to this one. -/
def passedSince (start : Nat) : Cursor (List Token) :=
  fun tokens pos => ⟨.ok ((tokens.take pos).drop start), pos, []⟩

/-- Whether a statement may start at the next token. -/
def atBoundary (line opened : Int) (t : Token) : Cursor Bool := do
  if opened ≤ 0 then
    if (← previous).kind == .semicolon then return true
    else if Recovery.opensStatement t.kind then return true
    else return decide (line < t.line) && t.kind != .rightBrace
  else return false

def skip (line : Int) : (fuel : Nat) → (opened : Int) → Cursor Unit
  | 0, _ => failWith .exhausted
  | fuel + 1, opened => do
    if ← isAtEnd then return ()
    else
      let t ← current
      if ← atBoundary line opened t then return ()
      else if t.kind = .leftBrace then
        let _ ← advance
        skip line fuel (opened + 1)
      else if t.kind = .rightBrace then
        let _ ← advance
        if opened - 1 = 0 then return ()
        else skip line fuel (opened - 1)
      else
        let _ ← advance
        skip line fuel opened

/-- Skip tokens to the next place where a statement may start. -/
def skipAhead (line opened : Int) : Cursor Unit :=
  fun tokens pos => skip line (tokens.length - pos) opened tokens pos

/-- Go on after the statement that starts at an index has failed. -/
def synchronize (start : Nat) : Cursor Unit := do
  let passed ← passedSince start
  let t ← current
  let pos ← position
  if pos = start then
    let first ← current
    let _ ← advance
    skipAhead t.line (Recovery.openBraces passed + Recovery.braceChange first.kind)
  else skipAhead t.line (Recovery.openBraces passed)

/-- Statements, and the faults with the tokens they are blamed on. -/
abbrev Collected : Type := List Stmt × List (SyntaxFault × Token)

/-- Whether so many errors have been found that the rest of the script is given up. -/
def givesUp (limit : Int) (found : Nat) : Cursor Bool := do
  if limit ≤ found then return !(← isAtEnd)
  else return false

def collect (limit : Int) : (count : Nat) → (found : Nat) → Cursor Collected
  | 0, _ => failWith .exhausted
  | count + 1, found => do
    if ← isAtEnd then return ([], [])
    else
      let start ← position
      match ← attempt statement with
      | .ok first =>
        let more ← collect limit count found
        return (first :: more.1, more.2)
      | .error error =>
        synchronize start
        if ← givesUp limit (found + 1) then
          return ([], [error, (.tooManyErrors limit, ← current)])
        else
          let more ← collect limit count (found + 1)
          return (more.1, error :: more.2)

def recovering (limit : Option Int) : Cursor Collected :=
  fun tokens pos => collect (limit.getD Recovery.defaultLimit) tokens.length 0 tokens pos

/-- A run from the first token. A list that does not end with an end token is given one. -/
def run (m : Cursor α) (ts : List Token) : Run α :=
  m (TokenStream.closed ts) 0

end Cursor
end RiftScript
