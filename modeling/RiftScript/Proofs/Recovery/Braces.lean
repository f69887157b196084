/-
Braces in the tokens that recovery passes over.

After a failed statement the parser counts the braces it passes, and stops only where it has passed
no more opening braces than closing ones. So an opening brace is passed together with the brace that
closes it, as long as no more braces were closed than opened in front of it. A closing brace that
closes nothing spoils the count: it makes up for an opening brace after it, and the parser goes on
inside the braces that were opened last.
-/
import RiftScript.Proofs.Recovery.Progress

namespace RiftScript
namespace Recovery

open RiftScript.Parser (statement)

/-! ## Matching braces -/

/-- Tokens in which every brace has its counterpart. -/
structure Balanced (ts : List Token) : Prop where
  /-- No closing brace comes before the brace that it closes. -/
  opened : ∀ us, us <+: ts → 0 ≤ openBraces us
  closed : openBraces ts = 0

/-- The tokens behind an opening brace hold the brace that closes it. -/
def Closes (after : List Token) : Prop :=
  ∃ inside closing rest, after = inside ++ closing :: rest ∧ closing.kind = .rightBrace ∧
    Balanced inside

/-- Only a closing brace lowers the count of open braces. -/
theorem eq_rightBrace_of_neg {k : TokenKind} (h : braceChange k < 0) : k = .rightBrace := by
  unfold braceChange at h
  split at h
  · cases h
  · rfl
  · cases h

/-- A count that starts at `n` and falls below zero does so at a closing brace. -/
theorem exists_closing {ts : List Token} {n : Nat} (h : n + openBraces ts < 0) :
    ∃ inside closing rest, ts = inside ++ closing :: rest ∧ closing.kind = .rightBrace ∧
      (∀ us, us <+: inside → 0 ≤ n + openBraces us) ∧ n + openBraces inside = 0 := by
  -- The first token either takes the count below zero, or leaves a count to go on with.
  induction ts generalizing n with
  | nil =>
    have hnil : openBraces [] = 0 := rfl
    omega
  | cons t ts ih =>
    rw [openBraces_cons] at h
    by_cases hlast : n + braceChange t.kind < 0
    · have hclosing : t.kind = .rightBrace := eq_rightBrace_of_neg (by omega)
      rw [hclosing, braceChange] at hlast
      have hnil : openBraces [] = 0 := rfl
      refine ⟨[], t, ts, rfl, hclosing, fun us hus => ?_, by omega⟩
      rw [List.prefix_nil.mp hus]
      omega
    · obtain ⟨k, hk⟩ := Int.eq_ofNat_of_zero_le (Int.not_lt.mp hlast)
      obtain ⟨inside, closing, rest, rfl, hclosing, hfront, htotal⟩ := ih (n := k) (by omega)
      refine ⟨t :: inside, closing, rest, rfl, hclosing, fun us hus => ?_, ?_⟩
      · rcases List.prefix_cons_iff.mp hus with rfl | ⟨vs, rfl, hvs⟩
        · have hnil : openBraces [] = 0 := rfl
          omega
        · have hle := hfront vs hvs
          rw [openBraces_cons]
          omega
      · rw [openBraces_cons]
        omega

theorem closes_of_openBraces_neg {after : List Token} (h : openBraces after < 0) :
    Closes after := by
  obtain ⟨inside, closing, rest, hafter, hclosing, hfront, htotal⟩ :=
    @exists_closing after 0 (by omega)
  refine ⟨inside, closing, rest, hafter, hclosing, fun us hus => ?_, by omega⟩
  have hle := hfront us hus
  omega

/-! ## What skipping passes -/

theorem openBraces_singleton (t : Token) : openBraces [t] = braceChange t.kind :=
  Int.add_zero _

/-- Where skipping stops before the end, the braces that were open are closed. -/
theorem skip_openBraces_le {line opened : Int} {before : TokenKind} {ts : List Token}
    (h : skip line opened before ts ≠ []) :
    ∃ passed, ts = passed ++ skip line opened before ts ∧ opened + openBraces passed ≤ 0 := by
  induction ts generalizing opened before with
  | nil => exact absurd rfl h
  | cons t ts ih =>
    rw [skip] at h ⊢
    split
    · next hstop => exact ⟨[], rfl, by rw [openBraces, List.foldr_nil]; omega⟩
    · next hstop =>
      rw [if_neg hstop] at h
      split
      · next hlast =>
        refine ⟨[t], rfl, ?_⟩
        rw [openBraces_singleton, hlast.1, hlast.2]
        decide
      · next hlast =>
        rw [if_neg hlast] at h
        obtain ⟨passed, hts, hle⟩ := ih h
        refine ⟨t :: passed, ?_, ?_⟩
        · rw [List.cons_append, ← hts]
        · rw [openBraces_cons]
          omega

/-- Where parsing goes on, the tokens passed have opened no more braces than they have closed. -/
theorem resume_openBraces_le {ts blamed rest : List Token} {fault : SyntaxFault}
    (h : statement ts = .error fault blamed rest) (hnext : resume ts rest ≠ []) :
    ∃ passed, ts = passed ++ resume ts rest ∧ openBraces passed ≤ 0 := by
  obtain ⟨_, before, between, rfl, _, _⟩ := taken_of_error h
  generalize before ++ between = taken at hnext ⊢
  cases rest with
  | nil => exact absurd rfl hnext
  | cons t us =>
    cases hlast : taken.getLast? with
    | none =>
      obtain rfl := List.getLast?_eq_none_iff.mp hlast
      rw [List.nil_append, resume_of_nothing] at hnext ⊢
      obtain ⟨passed, hus, hle⟩ := skip_openBraces_le hnext
      refine ⟨t :: passed, ?_, ?_⟩
      · rw [List.cons_append, ← hus]
      · rw [openBraces_cons]
        exact hle
    | some last =>
      rw [resume_of_taken hlast] at hnext ⊢
      obtain ⟨passed, hus, hle⟩ := skip_openBraces_le hnext
      refine ⟨taken ++ passed, ?_, ?_⟩
      · rw [List.append_assoc, ← hus]
      · rw [openBraces_append]
        exact hle

end Recovery

/-- Where parsing goes on after a failed statement, an opening brace that was passed has been closed
again, unless more braces were closed than opened in front of it. -/
theorem resume_closes {ts blamed rest : List Token} {fault : SyntaxFault}
    (h : Parser.statement ts = .error fault blamed rest) (hnext : Recovery.resume ts rest ≠ []) :
    ∃ passed, ts = passed ++ Recovery.resume ts rest ∧
      ∀ before brace after, passed = before ++ brace :: after → brace.kind = .leftBrace →
        0 ≤ Recovery.openBraces before → Recovery.Closes after := by
  obtain ⟨passed, hts, hle⟩ := Recovery.resume_openBraces_le h hnext
  refine ⟨passed, hts, ?_⟩
  rintro before brace after rfl hbrace hbefore
  rw [Recovery.openBraces_append, Recovery.openBraces_cons, hbrace, Recovery.braceChange] at hle
  exact Recovery.closes_of_openBraces_neg (by omega)

/-- A handler with a call that is never closed, and a statement after it. -/
def unclosedCall : List Token :=
  (scan "champion Annie { onAttack { cast( } }\nping()").dropLast

theorem resume_closes_unclosedCall :
    ∃ fault blamed rest, Parser.statement unclosedCall = .error fault blamed rest ∧
      (Recovery.resume unclosedCall rest).map Token.lexeme = ["ping", "(", ")"] ∧
      ∃ passed, unclosedCall = passed ++ Recovery.resume unclosedCall rest ∧
        ∀ before brace after, passed = before ++ brace :: after → brace.kind = .leftBrace →
          0 ≤ Recovery.openBraces before → Recovery.Closes after := by
  have hfails : Parsed.casesOn (motive := fun _ => List String) (Parser.statement unclosedCall)
      (fun _ _ => []) (fun _ _ rest => (Recovery.resume unclosedCall rest).map Token.lexeme) =
        ["ping", "(", ")"] := by
    decide +kernel
  cases h : Parser.statement unclosedCall with
  | ok s rest =>
    rw [h] at hfails
    cases hfails
  | error fault blamed rest =>
    rw [h] at hfails
    dsimp only at hfails
    refine ⟨fault, blamed, rest, rfl, hfails, resume_closes h fun hnil => ?_⟩
    rw [hnil] at hfails
    cases hfails

/-- A closing brace that closes nothing, and then an opening brace that is not closed. -/
def strayBrace : List Token :=
  [⟨.rightParen, ")", .nil, 1, 1, 0⟩, ⟨.rightBrace, r"}", .nil, 1, 3, 2⟩,
    ⟨.leftBrace, r"{", .nil, 1, 5, 4⟩, ⟨.identifier, "x", .nil, 2, 1, 6⟩,
    ⟨.semicolon, ";", .nil, 2, 2, 7⟩]

/-- The parser goes on at the name on the second line, which is inside the opening brace. -/
theorem resume_inside_strayBrace :
    Parser.statement strayBrace = .error (.expected .expression) strayBrace strayBrace ∧
      strayBrace = strayBrace.take 3 ++ Recovery.resume strayBrace strayBrace ∧
      Recovery.resume strayBrace strayBrace ≠ [] ∧
      ¬ ∀ before brace after, strayBrace.take 3 = before ++ brace :: after →
        brace.kind = .leftBrace → Recovery.Closes after := by
  refine ⟨rfl, by decide +kernel, by decide +kernel, fun hclosed => ?_⟩
  obtain ⟨inside, closing, rest, hafter, _⟩ :=
    hclosed (strayBrace.take 2) ⟨.leftBrace, r"{", .nil, 1, 5, 4⟩ [] rfl rfl
  exact List.append_ne_nil_of_right_ne_nil inside (List.cons_ne_nil closing rest) hafter.symm

end RiftScript
