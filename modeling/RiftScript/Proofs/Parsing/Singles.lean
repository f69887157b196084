/-
One expression, and a script of one statement.

A list of tokens can be read as statements, and as the one expression or champion that it holds. The
two readers tell champions from other things in different places, and only the second takes a
semicolon behind a champion. Both give what the grammar gives: the tokens spell the tree, so what
one reader finds is known from what the other finds.
-/
import RiftScript.Proofs.Parsing.Correspondence
import RiftScript.Proofs.Parsing.Programs

namespace RiftScript

/-- Nothing follows the only statement of a script. -/
theorem statementsYield_singleton {after : Expr → Option Token → Prop} {s : Stmt}
    {ts : List Token} : StatementsYield after [s] ts none ↔ s.Yields after ts none := by
  constructor
  · intro h
    cases h with
    | cons hs hss =>
      cases hss
      rw [List.append_nil]
      exact hs
  · intro h
    have hcons : StatementsYield after [s] (ts ++ []) none := .cons h .nil
    rwa [List.append_nil] at hcons

namespace Parser

theorem exists_program_eq_singleton {ts : List Token} {s : Stmt} :
    (∃ rest, program ts = .ok [s] rest) ↔
      s.Yields Expr.Apart ts none ∧ s.wellFormed = true := by
  have hwf : bodyWellFormed [s] = s.wellFormed := by
    rw [bodyWellFormed, bodyWellFormed, Bool.and_true]
  rw [← statementsYield_singleton, ← hwf]
  constructor
  · intro ⟨rest, h⟩
    exact spelled_of_statements (fun _ _ hapart => hapart) h
  · intro ⟨hyields, hwf⟩
    exact ⟨[], statements_of_yields hyields hwf (Nat.le_refl _)⟩

/-! ## One expression or champion -/

/-- The tokens that may follow the one expression or champion of a script. -/
def IsEnding (ts : List Token) : Prop :=
  ts = [] ∨ ∃ semicolon, ts = [semicolon] ∧ semicolon.kind = .semicolon

theorem ending_eq_ok {value e : Expr} {ts rest : List Token} :
    ending value ts = .ok e rest ↔ value = e ∧ rest = [] ∧ IsEnding ts := by
  simp only [ending, bind_eq_ok, IsEnding]
  constructor
  · rintro ⟨o, mid, hacc, next, last, hpeek, h⟩
    cases hpeek
    cases mid with
    | cons t mid => cases h
    | nil =>
      cases h
      cases o with
      | some semicolon =>
        obtain ⟨rfl, hk⟩ := accept_eq_some.mp hacc
        exact ⟨rfl, rfl, .inr ⟨semicolon, rfl, beq_iff_eq.mp hk⟩⟩
      | none => exact ⟨rfl, rfl, .inl (accept_eq_none.mp hacc).1⟩
  · rintro ⟨rfl, rfl, rfl | ⟨semicolon, rfl, hk⟩⟩
    · exact ⟨none, [], rfl, none, [], rfl, rfl⟩
    · exact ⟨some semicolon, [], accept_cons hk, none, [], rfl, rfl⟩

theorem single_champion {t : Token} {ts : List Token} (h : t.kind = .champion) :
    single (t :: ts) = (champion >>= fun c => ending (.champion c)) (t :: ts) := by
  rw [single, bind_of_ok (peek_cons h)]
  rfl

theorem single_expression {ts : List Token} (h : ∀ t ∈ ts.head?, t.kind ≠ .champion) :
    single ts = (expression >>= ending) ts := by
  have hpeek : peek ts = .ok (ts.head?.map Token.kind) ts := rfl
  rw [single, bind_of_ok hpeek]
  refine congrFun ?_ ts
  split
  · next hk =>
    obtain ⟨t, ht, hk⟩ := Option.map_eq_some_iff.mp hk
    exact absurd hk (h t ht)
  · rfl

/-- Champions are read to the same end on their own and as a statement, where something follows. -/
theorem champion_of_yields {c : Champion} {ts rest : List Token} {next : Option Token}
    (h : (Stmt.champion c).Yields Expr.Apart ts next) (hwf : c.wellFormed = true) :
    champion (ts ++ rest) = .ok c rest := by
  cases h with
  | @champion word name opening closing handlers ts _ hw hn ho hh hc =>
    have hhandlers : handlersAt (10 * (ts ++ closing :: rest).length + 39) (ts ++ closing :: rest) =
        .ok handlers rest := handlersAt_of_yields hh hwf hc (by omega)
    have hdepth : depth (word :: name :: opening :: ts ++ [closing] ++ rest) =
        10 * (ts ++ closing :: rest).length + 39 + 1 := by
      simp only [depth, List.length_append, List.length_cons, List.length_nil]
      omega
    rw [champion, hdepth, List.append_assoc]
    show championAt _ (word :: name :: opening :: (ts ++ closing :: rest)) = _
    rw [championAt, bind_of_ok (expect_cons hw), bind_of_ok (expect_cons hn),
      bind_of_ok (expect_cons ho), bind_of_ok hhandlers]
    rfl

theorem kind_ne_champion_of_expression {ts last : List Token} {e : Expr}
    (h : expression ts = .ok e last) : ∀ t ∈ ts.head?, t.kind ≠ .champion := by
  obtain ⟨ys, rfl, hs⟩ := spelled_of_expression h
  obtain ⟨t, us, rfl, ht⟩ := hs.yields.opens hs.wellFormed
  intro u hu hk
  obtain rfl : t = u := by simpa using hu
  rw [hk] at ht
  cases ht

theorem kind_of_champion {ts last : List Token} {c : Champion} (h : champion ts = .ok c last) :
    ∃ t us, ts = t :: us ∧ t.kind = .champion := by
  have hapart : AllowsApart Expr.Apart := fun _ _ h => h
  obtain ⟨ys, rfl, _, hyields⟩ := spelled_of_championAt hapart h
  cases hyields none with
  | champion hw => exact ⟨_, _, rfl, hw⟩

/-- What is read as one expression or champion is what an expression or a champion is read as, with
nothing but an ending left. -/
theorem exists_single_eq {ts : List Token} {e : Expr} :
    (∃ rest, single ts = .ok e rest) ↔
      (∃ last, expression ts = .ok e last ∧ IsEnding last) ∨
        ∃ c last, e = .champion c ∧ champion ts = .ok c last ∧ IsEnding last := by
  constructor
  · intro ⟨rest, h⟩
    by_cases hchampion : ∀ t ∈ ts.head?, t.kind ≠ .champion
    · rw [single_expression hchampion] at h
      obtain ⟨value, last, hvalue, hend⟩ := bind_eq_ok.mp h
      obtain ⟨rfl, _, hlast⟩ := ending_eq_ok.mp hend
      exact .inl ⟨last, hvalue, hlast⟩
    · cases ts with
      | nil => exact absurd (fun t ht => by cases ht) hchampion
      | cons t ts =>
        have hk : t.kind = .champion := by simpa using hchampion
        rw [single_champion hk] at h
        obtain ⟨c, last, hc, hend⟩ := bind_eq_ok.mp h
        obtain ⟨rfl, _, hlast⟩ := ending_eq_ok.mp hend
        exact .inr ⟨c, last, rfl, hc, hlast⟩
  · rintro (⟨last, hvalue, hlast⟩ | ⟨c, last, rfl, hc, hlast⟩)
    · rw [single_expression (kind_ne_champion_of_expression hvalue), bind_of_ok hvalue]
      exact ⟨[], ending_eq_ok.mpr ⟨rfl, rfl, hlast⟩⟩
    · obtain ⟨t, us, rfl, hk⟩ := kind_of_champion hc
      rw [single_champion hk, bind_of_ok hc]
      exact ⟨[], ending_eq_ok.mpr ⟨rfl, rfl, hlast⟩⟩

/-- An expression and an ending are an expression statement at the end of a script. -/
theorem expression_ending_iff {ts : List Token} {e : Expr} :
    (∃ last, expression ts = .ok e last ∧ IsEnding last) ↔
      (Stmt.expression e).Yields Expr.Apart ts none ∧ (Stmt.expression e).wellFormed = true := by
  constructor
  · intro ⟨last, hvalue, hlast⟩
    obtain ⟨ys, rfl, hs⟩ := spelled_of_expression hvalue
    refine ⟨?_, hs.wellFormed⟩
    rcases hlast with rfl | ⟨semicolon, rfl, hk⟩
    · rw [List.append_nil]
      exact .bare hs.yields fun t ht => by cases ht
    · exact .terminated hs.yields hk
  · intro ⟨hyields, hwf⟩
    cases hyields with
    | @terminated _ semicolon ys _ hv hk =>
      refine ⟨[semicolon], ?_, .inr ⟨semicolon, rfl, hk⟩⟩
      exact expression_of_yields hv hwf (endsBefore_of_kind (by rw [hk]; rfl) (by rw [hk]; decide))
    | bare hv =>
      refine ⟨[], ?_, .inl rfl⟩
      rw [← List.append_nil ts]
      exact expression_of_yields hv hwf fun t ht => by cases ht

/-- A champion is the same whether it stands alone or a semicolon follows. -/
theorem champion_ending_iff {ts : List Token} {c : Champion} :
    (∃ last, champion ts = .ok c last ∧ IsEnding last) ↔
      ∃ ys last, ts = ys ++ last ∧ IsEnding last ∧
        (Stmt.champion c).Yields Expr.Apart ys none ∧ (Stmt.champion c).wellFormed = true := by
  constructor
  · intro ⟨last, hc, hlast⟩
    obtain ⟨ys, hts, hwf, hyields⟩ := spelled_of_championAt (fun _ _ h => h) hc
    exact ⟨ys, last, hts, hlast, hyields none, hwf⟩
  · rintro ⟨ys, last, rfl, hlast, hyields, hwf⟩
    exact ⟨last, champion_of_yields hyields hwf, hlast⟩

end Parser

/-! ## Whole scripts -/

theorem TokenStream.parse_eq_ok {α : Type} {s : TokenStream} {p : Parser α} {a : α} :
    s.parse p = .ok a ↔ ∃ rest, p s.tokens = .ok a rest := by
  rw [parse]
  cases p s.tokens with
  | ok b rest => simp
  | error fault blamed rest => simp

theorem TokenStream.tokens_append_toList {ts : List Token} {closing : Option Token}
    (hts : ∀ t ∈ ts, t.kind ≠ .eof) (hclosing : ∀ t ∈ closing, t.kind = .eof) :
    (ofTokens (ts ++ closing.toList)).tokens = ts := by
  cases closing with
  | none =>
    have htake : (ofTokens (ts ++ [])).tokens = ts ++ [] :=
      List.takeWhile_append_of_pos fun t ht => bne_iff_ne.mpr (hts t ht)
    exact htake.trans (List.append_nil ts)
  | some stop => exact congrArg TokenStream.tokens (ofTokens_append hts (hclosing stop rfl))

section

variable {ts : List Token} {closing : Option Token} (hts : ∀ t ∈ ts, t.kind ≠ .eof)
  (hclosing : ∀ t ∈ closing, t.kind = .eof)

include hts hclosing

theorem parseProgram_eq_singleton {s : Stmt} :
    parseProgram (ts ++ closing.toList) = .ok [s] ↔
      s.Yields Expr.Apart ts none ∧ s.wellFormed = true := by
  rw [parseProgram, TokenStream.parse_eq_ok, TokenStream.tokens_append_toList hts hclosing,
    Parser.exists_program_eq_singleton]

theorem parseExpression_eq_ok {e : Expr} :
    parseExpression (ts ++ closing.toList) = .ok e ↔
      (∃ last, Parser.expression ts = .ok e last ∧ Parser.IsEnding last) ∨
        ∃ c last, e = .champion c ∧ Parser.champion ts = .ok c last ∧ Parser.IsEnding last := by
  rw [parseExpression, TokenStream.parse_eq_ok, TokenStream.tokens_append_toList hts hclosing,
    Parser.exists_single_eq]

theorem parseExpression_eq_expression {e : Expr} :
    (parseExpression (ts ++ closing.toList) = .ok e ∧ ∀ c, e ≠ .champion c) ↔
      (Stmt.expression e).Yields Expr.Apart ts none ∧ (Stmt.expression e).wellFormed = true := by
  rw [parseExpression_eq_ok hts hclosing, ← Parser.expression_ending_iff]
  constructor
  · rintro ⟨hvalue | ⟨c, _, rfl, _⟩, hne⟩
    · exact hvalue
    · exact absurd rfl (hne c)
  · intro hvalue
    refine ⟨.inl hvalue, ?_⟩
    rintro c rfl
    cases (Parser.expression_ending_iff.mp hvalue).2

theorem parseExpression_eq_champion {c : Champion} :
    parseExpression (ts ++ closing.toList) = .ok (.champion c) ↔
      ∃ ys last, ts = ys ++ last ∧ Parser.IsEnding last ∧
        (Stmt.champion c).Yields Expr.Apart ys none ∧ (Stmt.champion c).wellFormed = true := by
  rw [parseExpression_eq_ok hts hclosing, ← Parser.champion_ending_iff]
  constructor
  · rintro (hvalue | ⟨c', last, hc', h⟩)
    · cases (Parser.expression_ending_iff.mp hvalue).2
    · cases hc'
      exact ⟨last, h⟩
  · rintro ⟨last, h⟩
    exact .inr ⟨c, last, rfl, h⟩

end

/-- Reading one expression and reading statements agree on every list of tokens, whether an end
token closes it or not. An expression is found exactly if the statements are the expression alone. A
champion is found exactly if the statements are the champion alone, as they stand or without the
semicolon that ends the list. -/
theorem parseExpression_iff_parseProgram {ts : List Token} {closing : Option Token}
    (hts : ∀ t ∈ ts, t.kind ≠ .eof) (hclosing : ∀ t ∈ closing, t.kind = .eof) :
    (∀ e, (parseExpression (ts ++ closing.toList) = .ok e ∧ ∀ c, e ≠ .champion c) ↔
      parseProgram (ts ++ closing.toList) = .ok [.expression e]) ∧
    ∀ c, parseExpression (ts ++ closing.toList) = .ok (.champion c) ↔
      parseProgram (ts ++ closing.toList) = .ok [.champion c] ∨
        ∃ front semicolon, ts = front ++ [semicolon] ∧ semicolon.kind = .semicolon ∧
          parseProgram (front ++ closing.toList) = .ok [.champion c] := by
  refine ⟨fun e => ?_, fun c => ?_⟩
  · rw [parseExpression_eq_expression hts hclosing, parseProgram_eq_singleton hts hclosing]
  · have hfront : ∀ {front : List Token} {semicolon : Token}, ts = front ++ [semicolon] →
        ∀ t ∈ front, t.kind ≠ .eof := by
      rintro front semicolon rfl t ht
      exact hts t (List.mem_append_left _ ht)
    rw [parseExpression_eq_champion hts hclosing, parseProgram_eq_singleton hts hclosing]
    constructor
    · rintro ⟨ys, last, rfl, rfl | ⟨semicolon, rfl, hk⟩, hyields⟩
      · rw [List.append_nil]
        exact .inl hyields
      · exact .inr ⟨ys, semicolon, rfl, hk,
          (parseProgram_eq_singleton (hfront rfl) hclosing).mpr hyields⟩
    · rintro (hyields | ⟨front, semicolon, rfl, hk, hprogram⟩)
      · exact ⟨ts, [], (List.append_nil ts).symm, .inl rfl, hyields⟩
      · exact ⟨front, [semicolon], rfl, .inr ⟨semicolon, rfl, hk⟩,
          (parseProgram_eq_singleton (hfront rfl) hclosing).mp hprogram⟩

/-- No statement starts with the semicolon behind the champion, so as statements the tokens cannot
be read. The champion is found all the same, as those in front of the semicolon spell it. -/
theorem parseExpression_iff_parseProgram_champion_semicolon :
    let semicolon : Token := ⟨.semicolon, ";", .nil, 1, 53, 52⟩
    let ts := annieTokens ++ [semicolon]
    let c : Champion := ⟨⟨.identifier, "Annie", .nil, 1, 10, 9⟩,
      [⟨⟨.event .attack, "onAttack", .nil, 1, 18, 17⟩, [],
        [.expression (.unary ⟨.minus, "-", .nil, 1, 29, 28⟩
          (.call ⟨.action .ping, "ping", .nil, 1, 30, 29⟩
            [.variable ⟨.identifier, "Annie", .nil, 1, 35, 34⟩])),
        .expression (.grouping (.variable ⟨.place .river, "river", .nil, 1, 43, 42⟩))]⟩]⟩
    (∀ t ∈ ts, t.kind ≠ .eof) ∧ (parseProgram (ts ++ [default])).isOk = false ∧
      parseProgram (annieTokens ++ [default]) = .ok [.champion c] ∧
      parseExpression (ts ++ [default]) = .ok (.champion c) := by
  intro semicolon ts c
  have hts : ∀ t ∈ ts, t.kind ≠ .eof := by decide
  have hprogram : parseProgram (annieTokens ++ [default]) = .ok [.champion c] := rfl
  have hclosing : ∀ t ∈ some (default : Token), t.kind = .eof := by
    intro t ht
    cases ht
    rfl
  have hagree := (parseExpression_iff_parseProgram hts hclosing).2 c
  exact ⟨hts, rfl, hprogram, hagree.mpr (.inr ⟨annieTokens, semicolon, rfl, rfl, hprogram⟩)⟩

end RiftScript
