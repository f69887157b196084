/-
The reserved words and the kinds they have.
-/
import RiftScript.Token.Kind

namespace RiftScript
namespace TokenKind

/-- Every reserved word with its kind. -/
def keywords : List (String × TokenKind) :=
  [("champion", champion), ("ability", ability), ("item", item), ("buff", buff)]
  ++ GameEvent.all.map (fun e => (e.word, event e))
  ++ Action.all.map (fun a => (a.word, action a))
  ++ Query.all.map (fun q => (q.word, query q))
  ++ [("if", ifWord), ("else", elseWord), ("while", whileWord), ("for", forWord),
    ("do", doWord), ("end", endWord), ("combo", combo), ("then", thenWord), ("and", andWord),
    ("or", orWord), ("not", notWord), ("true", trueWord), ("false", falseWord), ("nil", nilWord)]
  ++ Place.all.map (fun p => (p.word, place p))

/-- The kind of a word: its own if it is reserved, else an identifier. -/
def ofWord (word : String) : TokenKind :=
  (keywords.lookup word).getD identifier

end TokenKind
end RiftScript
