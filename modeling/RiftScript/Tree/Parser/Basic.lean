/-
Reading trees from tokens.

A parser takes the tokens that are still ahead and gives a value with the tokens left over, or a
fault with the tokens left over when it was noticed and those from the blamed token on. The list
ahead never holds an end token: it ends where the script does.
-/
import RiftScript.Tree.Parser.Fault

namespace RiftScript

inductive Parsed (α : Type) where
  | ok (value : α) (rest : List Token)
  | error (fault : SyntaxFault) (blamed : List Token) (rest : List Token)

/-- A reader of `α` from the tokens ahead. -/
def Parser (α : Type) : Type :=
  List Token → Parsed α

namespace Parser

variable {α β : Type}

def pure (a : α) : Parser α :=
  fun ts => .ok a ts

/-- One parser and then another on what it left. -/
def bind (p : Parser α) (f : α → Parser β) : Parser β :=
  fun ts =>
    match p ts with
    | .ok a rest => f a rest
    | .error fault blamed rest => .error fault blamed rest

instance : Monad Parser where
  pure := pure
  bind := bind

/-- The tokens ahead. -/
def ahead : Parser (List Token) :=
  fun ts => .ok ts ts

/-- Fail and blame the token that stands first in `blamed`. -/
def blame (fault : SyntaxFault) (blamed : List Token) : Parser α :=
  fun ts => .error fault blamed ts

/-- Fail and blame the next token. -/
def fail (fault : SyntaxFault) : Parser α :=
  fun ts => .error fault ts ts

/-- Take the next token if its kind passes a test. -/
def accept (test : TokenKind → Bool) : Parser (Option Token) :=
  fun ts =>
    match ts with
    | [] => .ok none []
    | t :: rest => if test t.kind then .ok (some t) rest else .ok none (t :: rest)

/-- Take the next token, whose kind has to pass a test. -/
def expectThat (test : TokenKind → Bool) (what : Expected) : Parser Token :=
  fun ts =>
    match ts with
    | [] => .error (.expected what) [] []
    | t :: rest =>
      if test t.kind then .ok t rest
      else .error (.expected what) (t :: rest) (t :: rest)

/-- Take the next token, which has to be of one kind. -/
def expect (kind : TokenKind) (what : Expected) : Parser Token :=
  expectThat (· == kind) what

/-- The kind of the next token. -/
def peek : Parser (Option TokenKind) :=
  fun ts => .ok (ts.head?.map Token.kind) ts

/-- Enough depth for any tree that a list of tokens can hold: reading one token takes at most ten
nested steps. -/
def depth (ts : List Token) : Nat :=
  10 * (ts.length + 1)

end Parser
end RiftScript
