/-
Tokens and the places they stand at.
-/
import RiftScript.Token.Keyword
import RiftScript.Value

namespace RiftScript

/-- A token of a script. Lines and columns count from 1 and offsets from 0 in what scanning
produces; a token made by hand may stand anywhere. -/
structure Token where
  kind : TokenKind
  lexeme : String
  literal : Value := .nil
  line : Int := 1
  column : Int := 1
  offset : Nat := 0
deriving Repr, DecidableEq

instance : Inhabited Token := ⟨⟨.eof, "", .nil, 1, 1, 0⟩⟩

namespace Token

/-- The offset just past the last character. -/
def endOffset (t : Token) : Nat :=
  t.offset + t.lexeme.length

/-- One entry of a token listing. -/
def listing (t : Token) : String :=
  let literal := if t.literal = .nil then "" else t.literal.listed ++ ", "
  s!"Token({t.kind.label}, {Text.quoted t.lexeme}, {literal}L{t.line}:{t.column})"

end Token

/-- How an error says where it happened. -/
def whereabouts : Option Token → String
  | none => "at end"
  | some t => if t.kind = .eof then "at end" else s!"at '{t.lexeme}'"

end RiftScript
