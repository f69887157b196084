/-
Parsing with recovery against parsing up to the first error.

Both read statement after statement, and they part at the first statement that cannot be read. So
a script without syntax errors gives the same statements either way, whatever the limit on errors,
and otherwise the one error of the first is the first error of the second. That both come to the
end of the script before they have used up their count rests on a statement taking a token.
-/
import RiftScript.Proofs.Parsing.Failures
import RiftScript.Proofs.Parsing.Programs

namespace RiftScript
namespace Recovery

open RiftScript.Parser (statement statements)

variable {s : TokenStream} {limit : Int} {n found : Nat} {ts blamed rest : List Token}
  {fault : SyntaxFault}

/-! ## One statement -/

theorem collect_of_ok {t : Token} {first : Stmt} (h : statement (t :: ts) = .ok first rest) :
    collect s limit (n + 1) found (t :: ts) =
      ⟨first :: (collect s limit n found rest).statements,
        (collect s limit n found rest).errors⟩ := by
  simp only [collect, h]

/-- The error of a statement that cannot be read comes first, whatever the limit. -/
theorem collect_of_error {t : Token} (h : statement (t :: ts) = .error fault blamed rest) :
    (collect s limit (n + 1) found (t :: ts)).errors.head? = some (s.errorAt fault blamed) := by
  simp only [collect, h]
  split <;> rfl

/-! ## Statements in a row -/

theorem collect_of_statements {ss : List Stmt} (h : statements n ts = .ok ss rest) :
    collect s limit n found ts = ⟨ss, []⟩ := by
  induction n generalizing ts ss with
  | zero =>
    cases ts with
    | nil =>
      cases h
      rfl
    | cons t ts => cases h
  | succ n ih =>
    cases ts with
    | nil =>
      cases h
      rfl
    | cons t ts =>
      simp only [Parser.statements_cons, Parser.bind_eq_ok, Parser.pure_eq_ok] at h
      obtain ⟨first, mid, hfirst, others, _, hothers, rfl, rfl⟩ := h
      rw [collect_of_ok hfirst, ih hothers]

theorem collect_of_statements_error (hn : ts.length ≤ n)
    (h : statements n ts = .error fault blamed rest) :
    (collect s limit n found ts).errors.head? = some (s.errorAt fault blamed) := by
  induction n generalizing ts with
  | zero =>
    -- With the count used up nothing is ahead, so this is not where the error came from.
    obtain rfl : ts = [] := List.length_eq_zero_iff.mp (Nat.le_zero.mp hn)
    cases h
  | succ n ih =>
    cases ts with
    | nil => cases h
    | cons t ts =>
      rw [Parser.statements_cons] at h
      rcases Parser.bind_eq_error.mp h with hfirst | ⟨first, mid, hfirst, h⟩
      · exact collect_of_error hfirst
      · rcases Parser.bind_eq_error.mp h with hothers | ⟨_, _, _, h⟩
        · have hlt := Parser.length_lt_of_statement hfirst
          rw [collect_of_ok hfirst]
          exact ih (by omega) hothers
        · cases h

theorem parseRecovering_of_ok {ts : List Token} {p : Program} (limit : Option Int)
    (h : parseProgram ts = .ok p) : parseRecovering ts limit = ⟨p, []⟩ := by
  rw [parseProgram, TokenStream.parse] at h
  split at h
  · next hparse =>
    cases h
    exact collect_of_statements hparse
  · cases h

theorem parseRecovering_of_error {ts : List Token} {e : SyntaxError} (limit : Option Int)
    (h : parseProgram ts = .error e) : ∃ more, (parseRecovering ts limit).errors = e :: more := by
  rw [parseProgram, TokenStream.parse] at h
  split at h
  · cases h
  · next hparse =>
    cases h
    exact List.head?_eq_some_iff.mp (collect_of_statements_error (Nat.le_refl _) hparse)

end Recovery

/-! ## Whole scripts -/

/-- Where the plain reading gives a script, the full one gives it too and has nothing to say. Where
it gives none, it has one thing to say, and the full reading says the same first. -/
def Reading.RefinedBy (plain : Reading (Option Program)) (full : Reading Recovery.Outcome) : Prop :=
  match plain.result with
  | some p => full.result.statements = p ∧ full.diagnostics = [] ∧ full.lines = []
  | none => ∃ d l, plain.diagnostics = [d] ∧ plain.lines = [l] ∧
      full.diagnostics.head? = some d ∧ full.lines.head? = some l

theorem parseWith_refinedBy (limit : Option Int) (file : String) (ts : List Token) :
    (Script.parseWith parseProgram file ts).RefinedBy (Script.parseThrough limit file ts) := by
  unfold Script.parseWith
  cases h : parseProgram ts with
  | ok p =>
    have hfull : Script.parseThrough limit file ts = ⟨⟨p, []⟩, []⟩ := by
      rw [Script.parseThrough, Recovery.parseRecovering_of_ok limit h]
      rfl
    rw [hfull]
    exact ⟨rfl, rfl, rfl⟩
  | error e =>
    obtain ⟨more, hmore⟩ := Recovery.parseRecovering_of_error limit h
    have hfull : (Script.parseThrough limit file ts).notices =
        .syntaxError file e :: more.map (.syntaxError file) := by
      rw [Script.parseThrough, hmore]
      rfl
    refine ⟨.ofSyntaxError e, e.report, rfl, rfl, ?_, ?_⟩
    · rw [Reading.diagnostics, hfull]
      rfl
    · rw [Reading.lines, hfull]
      rfl

theorem success_check_iff (limit : Option Int) (source : String) :
    (check source limit).success = true ↔
      scanErrors source = [] ∧ ∃ p, parseProgram (scan source) = .ok p := by
  have hiff : (check source limit).success = true ↔
      scanErrors source = [] ∧ (parseRecovering (scan source) limit).errors = [] := by
    simp [Checked.success, check]
  rw [hiff]
  refine and_congr_right fun _ => ?_
  cases h : parseProgram (scan source) with
  | ok p =>
    rw [Recovery.parseRecovering_of_ok limit h]
    exact ⟨fun _ => ⟨p, rfl⟩, fun _ => rfl⟩
  | error e =>
    obtain ⟨more, hmore⟩ := Recovery.parseRecovering_of_error limit h
    rw [hmore]
    constructor
    · intro hnil
      cases hnil
    · rintro ⟨p, hp⟩
      cases hp

/-- A notice of something that is wrong with a script. -/
def Notice.isReport : Notice → Bool
  | scanError _ _ | syntaxError _ _ => true
  | _ => false

namespace Script

theorem isReport_scanNotices (file source : String) :
    ∀ n ∈ scanNotices file source, n.isReport = true := by
  intro n hn
  obtain ⟨e, -, rfl⟩ := List.mem_map.mp hn
  rfl

/-- All that reading has to say is what is wrong. -/
theorem isReport_readRecovering (limit : Option Int) (file source : String) :
    ∀ n ∈ (readRecovering limit file source).notices, n.isReport = true := by
  intro n hn
  rcases List.mem_append.mp hn with hn | hn
  · exact isReport_scanNotices file source n hn
  · obtain ⟨e, -, rfl⟩ := List.mem_map.mp hn
    rfl

theorem isReport_readProgram (file source : String) :
    ∀ n ∈ (readProgram file source).notices, n.isReport = true := by
  intro n hn
  rcases List.mem_append.mp hn with hn | hn
  · exact isReport_scanNotices file source n hn
  · rw [parseWith] at hn
    cases hparse : parseProgram (scan source) with
    | ok p =>
      rw [hparse] at hn
      cases hn
    | error e =>
      rw [hparse] at hn
      obtain rfl := List.mem_singleton.mp hn
      rfl

/-- Reading has nothing to say about a script that a check finds nothing wrong with. -/
theorem isEmpty_notices_readRecovering (limit : Option Int) (file source : String) :
    (readRecovering limit file source).notices.isEmpty = (check source limit).success := by
  rw [readRecovering, Reading.following, parseThrough, scanNotices, Checked.success, check]
  cases scanErrors source with
  | nil => cases (parseRecovering (scan source) limit).errors <;> rfl
  | cons e es => rfl

/-- Where a script can be read up to its end, it is scanning alone that can find something wrong. -/
theorem isEmpty_notices_readProgram {source : String} {p : Program}
    (h : parseProgram (scan source) = .ok p) (limit : Option Int) (file : String) :
    (readProgram file source).notices.isEmpty = (check source limit).success := by
  rw [readProgram, readWith, Reading.following, parseWith, h, scanNotices, Checked.success, check,
    Recovery.parseRecovering_of_ok limit h]
  cases scanErrors source <;> rfl

end Script

/-- Parsing with recovery refines parsing up to the first error, whatever the limit on errors. It
finds nothing wrong with a script exactly when scanning finds nothing wrong and parsing gives a
tree, and the tree is then the same. -/
theorem recovery_refines (limit : Option Int) (file : String) :
    (∀ ts : List Token,
      (Script.parseWith parseProgram file ts).RefinedBy (Script.parseThrough limit file ts)) ∧
    ∀ source : String,
      ((check source limit).success = true ↔
        scanErrors source = [] ∧ (Script.readProgram file source).result ≠ none) ∧
      ((check source limit).success = true →
        (Script.readProgram file source).result = some (check source limit).statements) := by
  refine ⟨parseWith_refinedBy limit file, fun source => ?_⟩
  have hresult : (Script.readProgram file source).result =
      (Script.parseWith parseProgram file (scan source)).result := by
    rw [Script.readProgram, Script.readWith, Reading.following]
  rw [success_check_iff, hresult, Script.parseWith]
  cases h : parseProgram (scan source) with
  | ok p =>
    have hstatements : (check source limit).statements = p := by
      rw [check, Recovery.parseRecovering_of_ok limit h]
    rw [hstatements]
    simp
  | error e => simp

end RiftScript
