/-
Parsing on after a syntax error.

After an error the parser skips to the next place where a statement may start: after a semicolon,
before a word that opens a statement, after the brace that closes what the failed statement had
opened, or at the first token of a later line. While a brace opened by the failed statement is
still open, no such place counts.
-/
import RiftScript.Tree.Parser.Stream

namespace RiftScript
namespace Recovery

/-- What a token does to the number of open braces. -/
def braceChange (kind : TokenKind) : Int :=
  match kind with
  | .leftBrace => 1
  | .rightBrace => -1
  | _ => 0

/-- Braces left open by a list of tokens; negative when more are closed than opened. -/
def openBraces (ts : List Token) : Int :=
  ts.foldr (fun t opened => braceChange t.kind + opened) 0

/-- Words that only a statement can start with. -/
def opensStatement (kind : TokenKind) : Bool :=
  kind == .ifWord || kind == .whileWord || kind == .combo || kind == .champion

/-- Whether a statement may start at `t`, when no brace is open, `before` is the kind of the token
in front of it and the error was found on line `line`. -/
def isBoundary (line : Int) (before : TokenKind) (t : Token) : Bool :=
  before == .semicolon || opensStatement t.kind || (decide (line < t.line) && t.kind != .rightBrace)

/-- The tokens from the next place where a statement may start. -/
def skip (line : Int) : (opened : Int) → (before : TokenKind) → List Token → List Token
  | _, _, [] => []
  | opened, before, t :: ts =>
    if opened ≤ 0 ∧ isBoundary line before t then t :: ts
    else if t.kind = .rightBrace ∧ opened = 1 then ts
    else skip line (opened + braceChange t.kind) t.kind ts

/-- Where to go on after the statement at the front of `start` failed with `rest` still ahead. At
least one token is passed. -/
def resume (start rest : List Token) : List Token :=
  match rest with
  | [] => []
  | t :: ts =>
    let passed := start.take (start.length - rest.length)
    match passed.getLast? with
    | some before => skip t.line (openBraces passed) before.kind rest
    | none => skip t.line (braceChange t.kind) t.kind ts

/-- The errors after which parsing is given up when no other limit is set. -/
def defaultLimit : Int := 100

/-- What parsing with recovery gives: the statements that could be read and every syntax error. -/
structure Outcome where
  statements : List Stmt
  errors : List SyntaxError

/-- Read statements and collect errors, `found` of which have been seen before, from at most
`count` places. -/
def collect (s : TokenStream) (limit : Int) :
    (count : Nat) → (found : Nat) → List Token → Outcome
  | 0, _, _ => ⟨[], []⟩
  | _, _, [] => ⟨[], []⟩
  | count + 1, found, ts =>
    match Parser.statement ts with
    | .ok statement rest =>
      let more := collect s limit count found rest
      ⟨statement :: more.statements, more.errors⟩
    | .error fault blamed rest =>
      let error := s.errorAt fault blamed
      let next := resume ts rest
      if limit ≤ found + 1 ∧ next ≠ [] then
        ⟨[], [error, s.errorAt (.tooManyErrors limit) next]⟩
      else
        let more := collect s limit count (found + 1) next
        ⟨more.statements, error :: more.errors⟩

end Recovery

/-- The statements of a script that can be read, and all its syntax errors up to a limit. -/
def parseRecovering (ts : List Token) (limit : Option Int) : Recovery.Outcome :=
  let s := TokenStream.ofTokens ts
  Recovery.collect s (limit.getD Recovery.defaultLimit) s.tokens.length 0 s.tokens

end RiftScript
