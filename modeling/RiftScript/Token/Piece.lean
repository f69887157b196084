/-
Pieces of a script.

A script is cut into pieces: blanks, comments, tokens, and stretches that are none of these. A
piece is chosen by the first character of what is left and reaches as far as it can. Every
character belongs to exactly one piece, so the texts of the pieces spell the script.
-/
import RiftScript.Text.Letter
import RiftScript.Token.Keyword

namespace RiftScript

/-- Why a stretch of a script is no token. -/
inductive ScanFault where
  | unexpected (c : Char)
  | openString
  | openComment
deriving Repr, DecidableEq

inductive Piece where
  | blank (c : Char)
  | comment (chars : List Char)
  | token (kind : TokenKind) (chars : List Char)
  | fault (why : ScanFault) (chars : List Char)
deriving Repr, DecidableEq

namespace Piece

/-- The characters of a piece. -/
def chars : Piece → List Char
  | blank c => [c]
  | comment cs => cs
  | token _ cs => cs
  | fault _ cs => cs

/-- Blanks between tokens. Other space characters are not expected in a script. -/
def isGap (c : Char) : Bool :=
  c == ' ' || c == '\t' || c == '\r' || c == '\n'

/-- What follows the opening of a block comment, up to and including its closing mark. -/
def commentBody : List Char → Option (List Char)
  | [] => none
  | c :: cs =>
    if c = '*' ∧ cs.head? = some '/' then some ['*', '/']
    else (commentBody cs).map (c :: ·)

/-- Digits, with a fraction if the point is followed by a digit. -/
def numberChars (cs : List Char) : List Char :=
  let whole := cs.takeWhile Text.isAsciiDigit
  match cs.dropWhile Text.isAsciiDigit with
  | '.' :: rest =>
    let fraction := rest.takeWhile Text.isAsciiDigit
    if fraction.isEmpty then whole else whole ++ '.' :: fraction
  | _ => whole

/-- The operators that an equals sign may extend: the kind alone and the kind with the sign. -/
def extensible : Char → Option (TokenKind × TokenKind)
  | '!' => some (.bang, .bangEqual)
  | '=' => some (.equal, .equalEqual)
  | '<' => some (.less, .lessEqual)
  | '>' => some (.greater, .greaterEqual)
  | _ => none

/-- The kinds that are one character long. -/
def punctuation : Char → Option TokenKind
  | '(' => some .leftParen
  | ')' => some .rightParen
  | '{' => some .leftBrace
  | '}' => some .rightBrace
  | ',' => some .comma
  | '.' => some .dot
  | ';' => some .semicolon
  | '%' => some .percent
  | '+' => some .plus
  | '-' => some .minus
  | '*' => some .star
  | '/' => some .slash
  | _ => none

/-- A character that opens neither a literal, a name nor a comment. -/
def operator (c : Char) (cs : List Char) : Piece :=
  match extensible c with
  | some (alone, withEqual) =>
    if cs.head? = some '=' then token withEqual [c, '='] else token alone [c]
  | none =>
    match punctuation c with
    | some kind => token kind [c]
    | none => fault (.unexpected c) [c]

/-- The piece that starts with `c` when `cs` follows it. -/
def cut (c : Char) (cs : List Char) : Piece :=
  if isGap c then blank c
  else if c = '/' ∧ cs.head? = some '/' then comment (c :: cs.takeWhile (· != '\n'))
  else if c = '/' ∧ cs.head? = some '*' then
    match commentBody cs.tail with
    | some body => comment ('/' :: '*' :: body)
    | none => fault .openComment (c :: cs)
  else if c = '"' then
    if cs.contains '"' then token .string (c :: cs.takeWhile (· != '"') ++ ['"'])
    else fault .openString (c :: cs)
  else if Text.isAsciiDigit c then token .number (numberChars (c :: cs))
  else if Text.opensName c then
    let word := c :: cs.takeWhile Text.extendsName
    token (TokenKind.ofWord (String.ofList word)) word
  else operator c cs

/-- The pieces of what is left after `skip` characters that belong to the piece before. -/
def split : (skip : Nat) → List Char → List Piece
  | _, [] => []
  | skip + 1, _ :: cs => split skip cs
  | 0, c :: cs =>
    let piece := cut c cs
    piece :: split (piece.chars.length - 1) cs

/-- The pieces of a script, in order. -/
def all (cs : List Char) : List Piece :=
  split 0 cs

end Piece
end RiftScript
