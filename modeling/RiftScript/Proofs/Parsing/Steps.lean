/-
What the single steps of a parser do.

Each step succeeds in one way only, so what it returned tells which tokens it took.
-/
import RiftScript.Tree.Parser.Stmt

namespace RiftScript
namespace Parser

variable {α β : Type}

theorem pure_eq_ok {a b : α} {ts rest : List Token} :
    (Pure.pure a : Parser α) ts = .ok b rest ↔ a = b ∧ ts = rest := by
  show Parsed.ok a ts = .ok b rest ↔ _
  rw [Parsed.ok.injEq]

theorem bind_eq_ok {p : Parser α} {f : α → Parser β} {b : β} {ts rest : List Token} :
    (p >>= f) ts = .ok b rest ↔ ∃ a mid, p ts = .ok a mid ∧ f a mid = .ok b rest := by
  show bind p f ts = .ok b rest ↔ _
  unfold bind
  cases hp : p ts with
  | ok a mid =>
    constructor
    · intro h
      exact ⟨a, mid, rfl, h⟩
    · rintro ⟨a', mid', h, hf⟩
      injection h with ha hm
      subst ha hm
      exact hf
  | error fault blamed mid =>
    constructor
    · intro h
      cases h
    · rintro ⟨a, mid', h, _⟩
      cases h

/-- A successful step hands its value and what it left to the next one. -/
theorem bind_of_ok {p : Parser α} {f : α → Parser β} {a : α} {ts mid : List Token}
    (h : p ts = .ok a mid) : (p >>= f) ts = f a mid := by
  show bind p f ts = _
  unfold bind
  rw [h]

theorem bind_eq_error {p : Parser α} {f : α → Parser β} {fault : SyntaxFault}
    {ts blamed rest : List Token} :
    (p >>= f) ts = .error fault blamed rest ↔ p ts = .error fault blamed rest ∨
      ∃ a mid, p ts = .ok a mid ∧ f a mid = .error fault blamed rest := by
  show bind p f ts = .error fault blamed rest ↔ _
  unfold bind
  cases hp : p ts with
  | ok a mid =>
    constructor
    · intro h
      exact .inr ⟨a, mid, rfl, h⟩
    · rintro (h | ⟨a', mid', h, hf⟩)
      · cases h
      · injection h with ha hm
        subst ha hm
        exact hf
  | error fault' blamed' mid =>
    constructor
    · intro h
      cases h
      exact .inl rfl
    · rintro (h | ⟨a, mid', h, _⟩)
      · cases h
        rfl
      · cases h

theorem accept_eq_some {test : TokenKind → Bool} {t : Token} {ts rest : List Token} :
    accept test ts = .ok (some t) rest ↔ ts = t :: rest ∧ test t.kind = true := by
  cases ts with
  | nil => simp [accept]
  | cons u us =>
    by_cases hu : test u.kind = true
    · simp only [accept, hu, if_true, Parsed.ok.injEq, Option.some.injEq, List.cons.injEq]
      constructor
      · rintro ⟨rfl, rfl⟩
        exact ⟨⟨rfl, rfl⟩, hu⟩
      · rintro ⟨⟨rfl, rfl⟩, _⟩
        exact ⟨rfl, rfl⟩
    · simp only [accept, hu, if_false, Parsed.ok.injEq, reduceCtorEq, false_and, false_iff,
        List.cons.injEq, Bool.false_eq_true]
      rintro ⟨⟨rfl, rfl⟩, ht⟩
      exact hu ht

theorem accept_eq_none {test : TokenKind → Bool} {ts rest : List Token} :
    accept test ts = .ok none rest ↔ ts = rest ∧ ∀ t ∈ ts.head?, test t.kind = false := by
  cases ts with
  | nil => simp [accept]
  | cons u us =>
    by_cases hu : test u.kind = true <;> simp [accept, hu]

theorem expectThat_eq_ok {test : TokenKind → Bool} {what : Expected} {t : Token}
    {ts rest : List Token} :
    expectThat test what ts = .ok t rest ↔ ts = t :: rest ∧ test t.kind = true := by
  cases ts with
  | nil => simp [expectThat]
  | cons u us =>
    by_cases hu : test u.kind = true
    · simp only [expectThat, hu, if_true, Parsed.ok.injEq, List.cons.injEq]
      constructor
      · rintro ⟨rfl, rfl⟩
        exact ⟨⟨rfl, rfl⟩, hu⟩
      · rintro ⟨⟨rfl, rfl⟩, _⟩
        exact ⟨rfl, rfl⟩
    · simp only [expectThat, hu, if_false, reduceCtorEq, false_iff, List.cons.injEq,
        Bool.false_eq_true]
      rintro ⟨⟨rfl, rfl⟩, ht⟩
      exact hu ht

theorem expect_eq_ok {kind : TokenKind} {what : Expected} {t : Token} {ts rest : List Token} :
    expect kind what ts = .ok t rest ↔ ts = t :: rest ∧ t.kind = kind := by
  rw [expect, expectThat_eq_ok, beq_iff_eq]

theorem ahead_eq_ok {us ts rest : List Token} :
    ahead ts = .ok us rest ↔ ts = us ∧ ts = rest := by
  rw [ahead, Parsed.ok.injEq]

theorem peek_cons {t : Token} {ts : List Token} {k : TokenKind} (h : t.kind = k) :
    peek (t :: ts) = .ok (some k) (t :: ts) := by
  rw [peek, List.head?_cons, Option.map_some, h]

theorem accept_cons {t : Token} {ts : List Token} {k : TokenKind} (h : t.kind = k) :
    accept (· == k) (t :: ts) = .ok (some t) ts :=
  accept_eq_some.mpr ⟨rfl, beq_iff_eq.mpr h⟩

theorem accept_of_ne {ts : List Token} {k : TokenKind} (h : ∀ t ∈ ts.head?, t.kind ≠ k) :
    accept (· == k) ts = .ok none ts :=
  accept_eq_none.mpr ⟨rfl, fun t ht => beq_eq_false_iff_ne.mpr (h t ht)⟩

theorem expect_cons {t : Token} {ts : List Token} {k : TokenKind} {what : Expected}
    (h : t.kind = k) : expect k what (t :: ts) = .ok t ts :=
  expect_eq_ok.mpr ⟨rfl, h⟩

theorem fail_ne_ok {fault : SyntaxFault} {a : α} {ts rest : List Token} :
    (fail fault : Parser α) ts ≠ .ok a rest := by
  intro h
  cases h

end Parser
end RiftScript
