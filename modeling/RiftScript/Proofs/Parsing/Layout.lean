/-
Reading does not depend on where tokens stand.

If all tokens of a script are moved, the same statements are read, moved like their tokens, or the
same fault is found at the token that the blamed one became. So two scripts whose tokens say the
same are read alike, whatever their lines and columns.
-/
import RiftScript.Proofs.Parsing.Correspondence
import RiftScript.Proofs.Parsing.Programs

namespace RiftScript

/-! ## Moved tokens -/

/-- The second list is the first one, moved. -/
def Correspondence.moved (f : Relocation) : Correspondence f where
  inputs ts us := us = ts.map f.token
  lost _ := False
  nil h := h
  cons h := ⟨_, h, .inl rfl⟩
  lost_of_le h _ := h

def Parsed.relocate {α : Type} (f : Relocation) (g : α → α) : Parsed α → Parsed α
  | .ok a rest => .ok (g a) (rest.map f.token)
  | .error fault blamed rest => .error fault (blamed.map f.token) (rest.map f.token)

namespace Parser

variable {α β : Type} {f : Relocation}

theorem isGrammatical_of_statement {ts blamed rest : List Token} {fault : SyntaxFault}
    (h : statement ts = .error fault blamed rest) : fault.IsGrammatical := by
  have htakes : TakesStatement ts (statement ts) := takesStatement_statement
  rw [h] at htakes
  exact htakes.1

theorem statement_relocate (f : Relocation) (ts : List Token) :
    statement (ts.map f.token) = (statement ts).relocate f (Stmt.relocate f) := by
  have hrelates := corresponds_statement.relates (c := .moved f) ts _ rfl
  generalize hfirst : statement ts = first, hsecond : statement (ts.map f.token) = second
    at hrelates
  cases hrelates with
  | ok s hrest => rw [hrest, Parsed.relocate]
  | error fault hblamed hrest => rw [hblamed, hrest, Parsed.relocate]
  | lost h => exact h.elim
  | tooDeep => exact (isGrammatical_of_statement hfirst).elim
  | tooDeep' => exact (isGrammatical_of_statement hsecond).elim

theorem bind_relocate {p : Parser α} {k k' : α → Parser β} {g : α → α} {g' : β → β}
    {ts : List Token} (hp : p (ts.map f.token) = (p ts).relocate f g)
    (hk : ∀ a rest, k' (g a) (rest.map f.token) = (k a rest).relocate f g') :
    (p >>= k') (ts.map f.token) = ((p >>= k) ts).relocate f g' := by
  cases h : p ts with
  | ok a rest =>
    rw [h] at hp
    rw [bind_of_ok h, bind_of_ok hp, hk]
  | error fault blamed rest =>
    rw [h] at hp
    rw [bind_eq_error.mpr (.inl h), bind_eq_error.mpr (.inl hp), Parsed.relocate]

theorem statements_relocate (f : Relocation) (n : Nat) (ts : List Token) :
    statements n (ts.map f.token) = (statements n ts).relocate f (relocateBody f) := by
  induction n generalizing ts with
  | zero => cases ts <;> rfl
  | succ n ih =>
    cases ts with
    | nil => rfl
    | cons t ts =>
      refine bind_relocate (statement_relocate f (t :: ts)) fun s rest => ?_
      exact bind_relocate (ih rest) fun ss rest => rfl

theorem program_relocate (f : Relocation) (ts : List Token) :
    program (ts.map f.token) = (program ts).relocate f (relocateBody f) := by
  rw [program, List.length_map, statements_relocate, program]

end Parser

/-! ## Whole scripts -/

/-- What a token says, without the place where it stands. -/
def Token.content (t : Token) : TokenKind × String × Value :=
  (t.kind, t.lexeme, t.literal)

theorem map_nowhere_of_content {ts us : List Token}
    (h : ts.map Token.content = us.map Token.content) :
    ts.map Relocation.nowhere.token = us.map Relocation.nowhere.token := by
  have hcontent : Relocation.nowhere.token =
      (fun said => ⟨said.1, said.2.1, said.2.2, 0, 0, 0⟩) ∘ Token.content := rfl
  rw [hcontent, ← List.map_map, h, List.map_map]

theorem TokenStream.tokens_map (f : Relocation) (ts : List Token) :
    (ofTokens (ts.map f.token)).tokens = (ofTokens ts).tokens.map f.token := by
  have hkind : ((·.kind != .eof) ∘ f.token) = fun t : Token => t.kind != .eof :=
    funext fun t => by rw [Function.comp_apply, f.kind_token]
  show (ts.map f.token).takeWhile _ = (ts.takeWhile _).map f.token
  rw [List.takeWhile_map, hkind]

/-- The programs differ at most in where their tokens stand. -/
def Program.SameUpToPlaces (p q : Program) : Prop :=
  relocateBody .nowhere p = relocateBody .nowhere q

/-- Two scripts were read alike: as programs that are the same up to places, or with the same error
at the same token. -/
inductive SameReading : Except SyntaxError Program → Except SyntaxError Program → Prop where
  | ok {p q : Program} (h : p.SameUpToPlaces q) : SameReading (.ok p) (.ok q)
  | error {e e' : SyntaxError} (hmessage : e.message = e'.message) (hindex : e.index = e'.index) :
      SameReading (.error e) (.error e')

theorem parseProgram_sameReading {ts us : List Token}
    (h : ts.map Token.content = us.map Token.content) :
    SameReading (parseProgram ts) (parseProgram us) := by
  have htokens : (TokenStream.ofTokens ts).tokens.map Relocation.nowhere.token =
      (TokenStream.ofTokens us).tokens.map Relocation.nowhere.token := by
    rw [← TokenStream.tokens_map, map_nowhere_of_content h, TokenStream.tokens_map]
  have hlength := congrArg List.length htokens
  have hprogram := Parser.program_relocate .nowhere (TokenStream.ofTokens ts).tokens
  rw [htokens, Parser.program_relocate] at hprogram
  rw [List.length_map, List.length_map] at hlength
  rw [parseProgram, parseProgram, TokenStream.parse, TokenStream.parse]
  generalize Parser.program (TokenStream.ofTokens ts).tokens = first,
    Parser.program (TokenStream.ofTokens us).tokens = second at hprogram
  cases first with
  | ok p rest =>
    cases second with
    | ok q rest' =>
      injection hprogram with hsame _
      exact .ok hsame.symm
    | error fault blamed rest' => cases hprogram
  | error fault blamed rest =>
    cases second with
    | ok q rest' => cases hprogram
    | error fault' blamed' rest' =>
      injection hprogram with hfault hblamed _
      have hblamed := congrArg List.length hblamed
      rw [List.length_map, List.length_map] at hblamed
      refine .error (congrArg SyntaxFault.message hfault.symm) ?_
      simp only [TokenStream.errorAt, hlength, hblamed]

end RiftScript
