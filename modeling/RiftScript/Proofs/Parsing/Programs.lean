/-
Parsing scripts.

A script that can be parsed is spelled by its tokens, all of them and in order, and its tree
respects the precedence of operators. A well-formed tree is what parsing gives for any tokens that
spell it, as long as no expression statement without a semicolon can be taken to go on with what
follows it. Both hold of every list of tokens, so parsing neither drops nor invents a token.
-/
import RiftScript.Proofs.Parsing.Statements
import RiftScript.Script

namespace RiftScript
namespace Parser

theorem spelled_of_statement {after : Expr → Option Token → Prop} (hafter : AllowsApart after)
    {ts rest : List Token} {s : Stmt} (h : statement ts = .ok s rest) :
    ∃ ys, ts = ys ++ rest ∧ s.Yields after ys rest.head? ∧ s.wellFormed = true :=
  spelled_of_statementAt hafter h

/-- The tokens that spell a well-formed statement are read back as it. -/
theorem statement_of_yields {s : Stmt} {ts rest : List Token}
    (h : s.Yields Expr.Apart ts rest.head?) (hwf : s.wellFormed = true)
    (helse : ∀ t ∈ rest.head?, t.kind ≠ .elseWord) : statement (ts ++ rest) = .ok s rest := by
  refine statementAt_of_yields h hwf rfl helse ?_
  rw [depth]
  omega

/-- A statement that starts as an expression does is an expression statement. -/
theorem statement_of_opens {ts rest : List Token}
    (h : ∃ t us, ts = t :: us ∧ t.kind.opensExpression = true) :
    statement (ts ++ rest) = expressionStatement (ts ++ rest) := by
  have hdepth : depth (ts ++ rest) = 10 * (ts ++ rest).length + 9 + 1 := by
    rw [depth]
    omega
  rw [statement, hdepth]
  exact statementAt_of_opens h

theorem statements_cons {n : Nat} {t : Token} {ts : List Token} :
    statements (n + 1) (t :: ts) =
      (do return (← statement) :: (← statements n) : Parser (List Stmt)) (t :: ts) := rfl

theorem spelled_of_statements {after : Expr → Option Token → Prop} (hafter : AllowsApart after)
    {n : Nat} {ts rest : List Token} {ss : List Stmt} (h : statements n ts = .ok ss rest) :
    StatementsYield after ss ts none ∧ bodyWellFormed ss = true := by
  induction n generalizing ts ss with
  | zero =>
    cases ts with
    | nil =>
      cases h
      exact ⟨.nil, rfl⟩
    | cons t ts => cases h
  | succ n ih =>
    cases ts with
    | nil =>
      cases h
      exact ⟨.nil, rfl⟩
    | cons t ts =>
      simp only [statements_cons, bind_eq_ok, pure_eq_ok] at h
      obtain ⟨s, mid, hs, ss, _, hss, rfl, rfl⟩ := h
      obtain ⟨ys, hys, hyield, hwf⟩ := spelled_of_statement hafter hs
      obtain ⟨hyields, hwfs⟩ := ih hss
      rw [hys, bodyWellFormed, hwf, hwfs]
      refine ⟨.cons ?_ hyields, rfl⟩
      rwa [Option.or_none]

theorem statements_of_yields {n : Nat} {ts : List Token} {ss : List Stmt}
    (h : StatementsYield Expr.Apart ss ts none) (hwf : bodyWellFormed ss = true)
    (hn : ts.length ≤ n) : statements n ts = .ok ss [] := by
  induction ss generalizing n ts with
  | nil =>
    cases h
    cases n <;> rfl
  | cons s ss ih =>
    cases h with
    | @cons _ _ ts us _ hs hss =>
      rw [bodyWellFormed, Bool.and_eq_true] at hwf
      rw [Option.or_none] at hs
      obtain ⟨t, vs, rfl, _⟩ := hs.opens hwf.1
      simp only [List.cons_append, List.length_cons, List.length_append] at hn
      obtain ⟨n, rfl⟩ : ∃ n', n = n' + 1 := ⟨n - 1, by omega⟩
      have hfirst : statement (t :: vs ++ us) = .ok s us :=
        statement_of_yields hs hwf.1 fun u hu => (hss.opens hwf.2 u hu).2
      rw [List.cons_append] at hfirst ⊢
      rw [statements_cons, bind_of_ok hfirst, bind_of_ok (ih hss hwf.2 (by omega))]
      rfl

end Parser

/-! ## Whole scripts -/

/-- Nothing is looked at behind the first end token. -/
theorem TokenStream.stop_eq (ts : List Token) :
    (ofTokens ts).stop = (ts.dropWhile (·.kind != .eof)).head?.getD (missingStop ts) := by
  have hdrop : ts.drop (ofTokens ts).tokens.length = ts.dropWhile (·.kind != .eof) := by
    calc ts.drop (ofTokens ts).tokens.length
        = ((ofTokens ts).tokens ++ ts.dropWhile (·.kind != .eof)).drop
            (ofTokens ts).tokens.length := by
          exact congrArg (List.drop _) List.takeWhile_append_dropWhile.symm
      _ = ts.dropWhile (·.kind != .eof) := List.drop_left
  rw [← hdrop]
  rfl

theorem TokenStream.ofTokens_append_cons {ts us : List Token} {stop : Token}
    (hts : ∀ t ∈ ts, t.kind ≠ .eof) (hstop : stop.kind = .eof) :
    ofTokens (ts ++ stop :: us) = ⟨ts, stop⟩ := by
  have htake : (ts ++ stop :: us).takeWhile (·.kind != .eof) = ts := by
    rw [List.takeWhile_append_of_pos fun t ht => bne_iff_ne.mpr (hts t ht)]
    simp [hstop]
  simp [ofTokens, htake]

theorem TokenStream.ofTokens_append {ts : List Token} {stop : Token}
    (hts : ∀ t ∈ ts, t.kind ≠ .eof) (hstop : stop.kind = .eof) :
    ofTokens (ts ++ [stop]) = ⟨ts, stop⟩ :=
  ofTokens_append_cons hts hstop

/-- The tokens of `champion Annie { onAttack { -ping(Annie) (river) } }`. -/
def annieTokens : List Token :=
  [⟨.champion, "champion", .nil, 1, 1, 0⟩, ⟨.identifier, "Annie", .nil, 1, 10, 9⟩,
    ⟨.leftBrace, r"{", .nil, 1, 16, 15⟩, ⟨.event .attack, "onAttack", .nil, 1, 18, 17⟩,
    ⟨.leftBrace, r"{", .nil, 1, 27, 26⟩, ⟨.minus, "-", .nil, 1, 29, 28⟩,
    ⟨.action .ping, "ping", .nil, 1, 30, 29⟩, ⟨.leftParen, "(", .nil, 1, 34, 33⟩,
    ⟨.identifier, "Annie", .nil, 1, 35, 34⟩, ⟨.rightParen, ")", .nil, 1, 40, 39⟩,
    ⟨.leftParen, "(", .nil, 1, 42, 41⟩, ⟨.place .river, "river", .nil, 1, 43, 42⟩,
    ⟨.rightParen, ")", .nil, 1, 48, 47⟩, ⟨.rightBrace, r"}", .nil, 1, 50, 49⟩,
    ⟨.rightBrace, r"}", .nil, 1, 52, 51⟩]

/-- The script that those tokens spell. The call that ends the first expression of the handler
keeps it apart from the second, with no semicolon between them. -/
def annie : Program :=
  [.champion ⟨⟨.identifier, "Annie", .nil, 1, 10, 9⟩,
    [⟨⟨.event .attack, "onAttack", .nil, 1, 18, 17⟩, [],
      [.expression (.unary ⟨.minus, "-", .nil, 1, 29, 28⟩
        (.call ⟨.action .ping, "ping", .nil, 1, 30, 29⟩
          [.variable ⟨.identifier, "Annie", .nil, 1, 35, 34⟩])),
      .expression (.grouping (.variable ⟨.place .river, "river", .nil, 1, 43, 42⟩))]⟩]⟩]

/-- A script that can be parsed is spelled by its tokens and respects the grammar. -/
theorem parseProgram_yields {ts : List Token} {stop : Token} {p : Program}
    (hts : ∀ t ∈ ts, t.kind ≠ .eof) (hstop : stop.kind = .eof)
    (h : parseProgram (ts ++ [stop]) = .ok p) : p.Yields ts ∧ p.wellFormed = true := by
  rw [parseProgram, TokenStream.ofTokens_append hts hstop, TokenStream.parse] at h
  split at h
  · next value rest hparse =>
    cases h
    exact Parser.spelled_of_statements (fun _ _ _ => trivial) hparse
  · cases h

theorem parseProgram_yields_without_semicolon :
    parseProgram (annieTokens ++ [default]) = .ok annie ∧
      annie.Yields annieTokens ∧ annie.wellFormed = true := by
  have hparse : parseProgram (annieTokens ++ [default]) = .ok annie := rfl
  exact ⟨hparse, parseProgram_yields (by decide) (by rfl) hparse⟩

/-- The tokens that spell a well-formed script, with every expression statement apart from what
follows it, are parsed as that script, and nothing is reported. -/
theorem parseProgram_of_yieldsApart {ts : List Token} {stop : Token} {p : Program} (file : String)
    (hwf : p.wellFormed = true) (h : p.YieldsApart ts) (hts : ∀ t ∈ ts, t.kind ≠ .eof)
    (hstop : stop.kind = .eof) :
    parseProgram (ts ++ [stop]) = .ok p ∧
      (Script.parseWith parseProgram file (ts ++ [stop])).result = some p ∧
      (Script.parseWith parseProgram file (ts ++ [stop])).diagnostics = [] ∧
      (Script.parseWith parseProgram file (ts ++ [stop])).lines = [] := by
  have hparse : Parser.program ts = .ok p [] :=
    Parser.statements_of_yields h hwf (Nat.le_refl _)
  have hok : parseProgram (ts ++ [stop]) = .ok p := by
    rw [parseProgram, TokenStream.ofTokens_append hts hstop, TokenStream.parse, hparse]
  have hread : Script.parseWith parseProgram file (ts ++ [stop]) = ⟨some p, []⟩ := by
    rw [Script.parseWith, hok]
  rw [hread]
  exact ⟨hok, rfl, rfl, rfl⟩

theorem parseProgram_of_yieldsApart_without_semicolon :
    annie.wellFormed = true ∧ annie.YieldsApart annieTokens ∧
      parseProgram (annieTokens ++ [default]) = .ok annie ∧
      (Script.parseWith parseProgram "annie" (annieTokens ++ [default])).result = some annie ∧
      (Script.parseWith parseProgram "annie" (annieTokens ++ [default])).diagnostics = [] ∧
      (Script.parseWith parseProgram "annie" (annieTokens ++ [default])).lines = [] := by
  have hread : Parser.statements 15 annieTokens = .ok annie [] := rfl
  have hyield : annie.YieldsApart annieTokens :=
    (Parser.spelled_of_statements (fun _ _ h => h) hread).1
  exact ⟨rfl, hyield, parseProgram_of_yieldsApart "annie" rfl hyield (by decide) rfl⟩

end RiftScript
