/-
Scanning a script into tokens.

Scanning never stops at an error: the stretch that is no token is reported and what follows it
is scanned as if it were not there.
-/
import RiftScript.Number.Read
import RiftScript.Report
import RiftScript.Token.Piece

namespace RiftScript

/-- A place in a script. -/
structure Position where
  line : Nat
  column : Nat
  offset : Nat
deriving Repr, DecidableEq

namespace Position

def start : Position := ⟨1, 1, 0⟩

/-- The place after a character. -/
def after (p : Position) (c : Char) : Position :=
  if c = '\n' then ⟨p.line + 1, 1, p.offset + 1⟩ else ⟨p.line, p.column + 1, p.offset + 1⟩

/-- The place after some text. -/
def afterAll (p : Position) (cs : List Char) : Position :=
  cs.foldl after p

end Position

namespace ScanFault

def message : ScanFault → String
  | unexpected c => s!"Unexpected character {Text.quoted (String.singleton c)}."
  | openString => "Unterminated string."
  | openComment => "Unterminated block comment."

end ScanFault

/-- A stretch that is no token, with the place of its first character. -/
structure ScanError where
  fault : ScanFault
  line : Int
  column : Int
deriving Repr, DecidableEq

namespace ScanError

def message (e : ScanError) : String :=
  e.fault.message

def report (e : ScanError) : String :=
  Report.scanning e.line e.message

end ScanError

/-- What scanning finds: a token or an error. -/
inductive Finding where
  | token (t : Token)
  | error (e : ScanError)
deriving Repr, DecidableEq

namespace Finding

def token? : Finding → Option Token
  | token t => some t
  | error _ => none

def error? : Finding → Option ScanError
  | token _ => none
  | error e => some e

end Finding

namespace Token

/-- The float a number token stands for. -/
def numberValue (cs : List Char) : Float :=
  let digits := fun (ds : List Char) => ds.map fun c => c.toNat - '0'.toNat
  Number.ofDigits (digits (cs.takeWhile (· != '.'))) (digits ((cs.dropWhile (· != '.')).drop 1)) 0

/-- The value that a token's own text stands for. -/
def literalOf (kind : TokenKind) (cs : List Char) : Value :=
  match kind with
  | .string => .text (String.ofList (cs.tail.take (cs.length - 2)))
  | .number => .number (numberValue cs)
  | .trueWord => .boolean true
  | .falseWord => .boolean false
  | _ => .nil

/-- A token at a place. -/
def place (p : Position) (kind : TokenKind) (cs : List Char) : Token where
  kind := kind
  lexeme := String.ofList cs
  literal := literalOf kind cs
  line := p.line
  column := p.column
  offset := p.offset

end Token

namespace Piece

/-- What a piece at a place amounts to. Blanks and comments amount to nothing. -/
def finding? (p : Position) : Piece → Option Finding
  | token kind cs => some (.token (Token.place p kind cs))
  | fault why _ => some (.error ⟨why, p.line, p.column⟩)
  | _ => none

end Piece

/-- The findings in a list of pieces that starts at a place, closed by the end token. -/
def findings (p : Position) : List Piece → List Finding
  | [] => [.token (Token.place p .eof [])]
  | piece :: rest =>
    (piece.finding? p).toList ++ findings (p.afterAll piece.chars) rest

/-- Everything found in a script, in order. -/
def scanAll (source : String) : List Finding :=
  findings .start (Piece.all source.toList)

/-- The tokens of a script. The last one is the end token. -/
def scan (source : String) : List Token :=
  (scanAll source).filterMap Finding.token?

/-- The errors that scanning a script reports. -/
def scanErrors (source : String) : List ScanError :=
  (scanAll source).filterMap Finding.error?

end RiftScript
