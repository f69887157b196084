/-
Token streams and what parsing them gives.

Parsing looks at tokens up to the first end token. A list without one is closed by an end token
on the line of its last token.
-/
import RiftScript.Tree.Parser.Stmt

namespace RiftScript

/-- The tokens of a script and the end token that follows them. -/
structure TokenStream where
  tokens : List Token
  stop : Token
deriving Repr, DecidableEq

namespace TokenStream

/-- The end token of a list that has none. -/
def missingStop (ts : List Token) : Token where
  kind := .eof
  lexeme := ""
  line := (ts.getLast?.map Token.line).getD 1

def ofTokens (ts : List Token) : TokenStream :=
  let tokens := ts.takeWhile (·.kind != .eof)
  { tokens, stop := ((ts.drop tokens.length).head?).getD (missingStop ts) }

/-- The syntax error for a fault blamed on the first of the tokens `blamed`, or on the end token
if there is none. -/
def errorAt (s : TokenStream) (fault : SyntaxFault) (blamed : List Token) : SyntaxError where
  fault := fault
  token := blamed.head?.getD s.stop
  index := s.tokens.length - blamed.length

/-- Run a parser on a whole stream. -/
def parse {α : Type} (s : TokenStream) (p : Parser α) : Except SyntaxError α :=
  match p s.tokens with
  | .ok value _ => .ok value
  | .error fault blamed _ => .error (s.errorAt fault blamed)

end TokenStream

/-- The statements of a script, or its first syntax error. -/
def parseProgram (ts : List Token) : Except SyntaxError Program :=
  (TokenStream.ofTokens ts).parse Parser.program

/-- The expression or champion declaration that is all of a script, or its first syntax error. -/
def parseExpression (ts : List Token) : Except SyntaxError Expr :=
  (TokenStream.ofTokens ts).parse Parser.single

end RiftScript
