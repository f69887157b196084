/-
Trees of scripts.

Not every tree can be read from a script: its tokens have to be spelled as scanning allows, each at
a place where the grammar has one of its kind, and its literals are values that a script can write.
`IsScripted` collects these conditions, and every tree that is read from a script meets them. What
is written out of such a tree can be told apart from what is written out of another one, since its
names hold no spaces or parentheses and its texts no quotes.
-/
import RiftScript.Proofs.Scanning.Lexemes

namespace RiftScript

/-- A value that a literal of a script can stand for. A text ends at its first quote. -/
def Value.IsWritten : Value → Prop
  | .text s => '"' ∉ s.toList
  | .foreign _ => False
  | .nil | .boolean _ | .number _ => True

mutual

def Expr.IsScripted : Expr → Prop
  | .binary left operator right =>
    operator.IsScanned ∧ operator.kind.precedence?.isSome = true ∧ left.IsScripted ∧
      right.IsScripted
  | .unary operator operand => operator.IsScanned ∧ operator.kind.isSign ∧ operand.IsScripted
  | .literal value _ => value.IsWritten
  | .variable name => name.IsScanned ∧ name.kind.isName = true
  | .grouping inner => inner.IsScripted
  | .call callee arguments =>
    callee.IsScanned ∧ callee.kind.isName = true ∧ AllScripted arguments
  | .champion _ => False

def AllScripted : List Expr → Prop
  | [] => True
  | e :: es => e.IsScripted ∧ AllScripted es

end

/-- A parameter is a name, a number or a text. -/
def Token.IsParameter (t : Token) : Prop :=
  t.kind = .number ∨ t.kind = .string ∨ t.kind.isName = true

mutual

def Stmt.IsScripted : Stmt → Prop
  | .expression value => value.IsScripted
  | .block statements => BodyScripted statements
  | .conditional condition thenBody elseBody =>
    condition.IsScripted ∧ BodyScripted thenBody ∧ ElseScripted elseBody
  | .loop condition body => condition.IsScripted ∧ BodyScripted body
  | .combo actions => BodyScripted actions
  | .champion declared => declared.IsScripted

def BodyScripted : List Stmt → Prop
  | [] => True
  | s :: ss => s.IsScripted ∧ BodyScripted ss

def ElseScripted : Option (List Stmt) → Prop
  | none => True
  | some body => BodyScripted body

def Handler.IsScripted : Handler → Prop
  | ⟨event, params, body⟩ =>
    (event.IsScanned ∧ event.kind.isEvent = true) ∧
      (∀ p ∈ params, p.IsScanned ∧ p.IsParameter) ∧ BodyScripted body

def HandlersScripted : List Handler → Prop
  | [] => True
  | h :: hs => h.IsScripted ∧ HandlersScripted hs

def Champion.IsScripted : Champion → Prop
  | ⟨name, handlers⟩ => (name.IsScanned ∧ name.kind = .identifier) ∧ HandlersScripted handlers

end

/-! ## From tokens to trees -/

theorem Token.IsScanned.isWritten {t : Token} (h : t.IsScanned)
    (hk : t.kind = .number ∨ t.kind = .string) : t.literal.IsWritten := by
  have hlexeme := h.lexeme
  rw [h.literal]
  rcases hk with hk | hk
  · rw [hk]
    trivial
  · rw [hk] at hlexeme ⊢
    obtain ⟨cs, hquote, hchars⟩ := hlexeme.exists_text
    have hbody : ('"' :: cs ++ ['"']).tail.take (('"' :: cs ++ ['"']).length - 2) = cs := by simp
    rw [hchars]
    show '"' ∉ (String.ofList _).toList
    rw [hbody, String.toList_ofList]
    exact hquote

mutual

theorem Expr.Yields.isScripted {e : Expr} {ts : List Token} :
    e.Yields ts → e.wellFormed = true → (∀ t ∈ ts, t.IsScanned) → e.IsScripted
  | .yes _, _, _ => trivial
  | .no _, _, _ => trivial
  | .nil _, _, _ => trivial
  | .constant ht, _, hts => (hts _ (List.mem_singleton_self _)).isWritten ht
  | .reference, hwf, hts => ⟨hts _ (List.mem_singleton_self _), hwf⟩
  | .grouping _ hi _, hwf, hts => hi.isScripted hwf fun t ht => hts t (by simp [ht])
  | .unary ho hr, hwf, hts => by
    simp only [Expr.wellFormed, Bool.and_eq_true] at hwf
    have hoperand := hr.isScripted hwf.2 fun t ht => hts t (List.mem_cons_of_mem _ ht)
    exact ⟨hts _ List.mem_cons_self, ho, hoperand⟩
  | @Expr.Yields.binary _ _ operator _ _ hl hr, hwf, hts => by
    simp only [Expr.wellFormed, Bool.and_eq_true] at hwf
    have hsome : operator.kind.precedence?.isSome = true := by
      cases h : operator.kind.precedence? with
      | some n => rfl
      | none => simp [h] at hwf
    have hleft := hl.isScripted hwf.1.2 fun t ht => hts t (by simp [ht])
    have hright := hr.isScripted hwf.2 fun t ht => hts t (by simp [ht])
    exact ⟨hts _ (by simp), hsome, hleft, hright⟩
  | .call _ ha _, hwf, hts => by
    simp only [Expr.wellFormed, Bool.and_eq_true] at hwf
    have harguments := ha.isScripted hwf.2 fun t ht => hts t (by simp [ht])
    exact ⟨hts _ List.mem_cons_self, hwf.1, harguments⟩

theorem ArgumentsYield.isScripted {es : List Expr} {ts : List Token} :
    ArgumentsYield es ts → argumentsWellFormed es = true → (∀ t ∈ ts, t.IsScanned) →
      AllScripted es
  | .none, _, _ => trivial
  | .last he, hwf, hts => by
    simp only [argumentsWellFormed, Bool.and_eq_true] at hwf
    exact ⟨he.isScripted hwf.1 hts, trivial⟩
  | .more he _ hf, hwf, hts => by
    rw [argumentsWellFormed, Bool.and_eq_true] at hwf
    have hfirst := he.isScripted hwf.1 fun t ht => hts t (by simp [ht])
    exact ⟨hfirst, hf.isScripted hwf.2 fun t ht => hts t (by simp [ht])⟩

end

theorem ParametersYield.subset {ps ts : List Token} (h : ParametersYield ps ts) : ps ⊆ ts := by
  induction h with
  | last => exact List.Subset.refl _
  | more hc hq ih => exact List.cons_subset_cons _ (List.subset_cons_of_subset _ ih)

theorem SignatureYields.subset {ps ts : List Token} (h : SignatureYields ps ts) : ps ⊆ ts := by
  cases h with
  | absent => exact List.Subset.refl _
  | empty => exact List.nil_subset _
  | listed ho hp hc =>
    exact List.subset_cons_of_subset _ (List.subset_append_of_subset_left _ hp.subset)

mutual

theorem Stmt.Yields.isScripted {after : Expr → Option Token → Prop} {s : Stmt} {ts : List Token}
    {next : Option Token} : s.Yields after ts next → s.wellFormed = true →
      (∀ t ∈ ts, t.IsScanned) → s.IsScripted
  | .terminated hv _, hwf, hts => hv.isScripted hwf fun t ht => hts t (by simp [ht])
  | .bare hv _, hwf, hts => hv.isScripted hwf hts
  | .block hb, hwf, hts => hb.isScripted hwf hts
  | .conditional _ _ ht _ hb, hwf, hts => by
    simp only [Stmt.wellFormed, Bool.and_eq_true] at hwf
    have hcondition := ht.isScripted hwf.1.1 fun t ht => hts t (by simp [ht])
    have hbody := hb.isScripted hwf.1.2 fun t ht => hts t (by simp [ht])
    exact ⟨hcondition, hbody, trivial⟩
  | .alternative _ _ ht _ hb _ hd, hwf, hts => by
    simp only [Stmt.wellFormed, elseWellFormed, Bool.and_eq_true] at hwf
    have hcondition := ht.isScripted hwf.1.1 fun t ht => hts t (by simp [ht])
    have hbody := hb.isScripted hwf.1.2 fun t ht => hts t (by simp [ht])
    have hother := hd.isScripted hwf.2 fun t ht => hts t (by simp [ht])
    exact ⟨hcondition, hbody, hother⟩
  | .loop _ _ ht _ hb, hwf, hts => by
    simp only [Stmt.wellFormed, Bool.and_eq_true] at hwf
    have hcondition := ht.isScripted hwf.1 fun t ht => hts t (by simp [ht])
    exact ⟨hcondition, hb.isScripted hwf.2 fun t ht => hts t (by simp [ht])⟩
  | .combo _ hb, hwf, hts => hb.isScripted hwf fun t ht => hts t (by simp [ht])
  | .champion _ hn _ hh _, hwf, hts =>
    ⟨⟨hts _ (by simp), hn⟩, hh.isScripted hwf fun t ht => hts t (by simp [ht])⟩

theorem StatementsYield.isScripted {after : Expr → Option Token → Prop} {ss : List Stmt}
    {ts : List Token} {next : Option Token} : StatementsYield after ss ts next →
      bodyWellFormed ss = true → (∀ t ∈ ts, t.IsScanned) → BodyScripted ss
  | .nil, _, _ => trivial
  | .cons hs hss, hwf, hts => by
    rw [bodyWellFormed, Bool.and_eq_true] at hwf
    have hfirst := hs.isScripted hwf.1 fun t ht => hts t (by simp [ht])
    exact ⟨hfirst, hss.isScripted hwf.2 fun t ht => hts t (by simp [ht])⟩

theorem BodyYields.isScripted {after : Expr → Option Token → Prop} {ss : List Stmt}
    {ts : List Token} :
    BodyYields after ss ts → bodyWellFormed ss = true → (∀ t ∈ ts, t.IsScanned) → BodyScripted ss
  | .braced _ hs _, hwf, hts => hs.isScripted hwf fun t ht => hts t (by simp [ht])

theorem HandlersYield.isScripted {after : Expr → Option Token → Prop} {hs : List Handler}
    {ts : List Token} : HandlersYield after hs ts → handlersWellFormed hs = true →
      (∀ t ∈ ts, t.IsScanned) → HandlersScripted hs
  | .nil, _, _ => trivial
  | .cons hp hb hh, hwf, hts => by
    simp only [handlersWellFormed, Handler.wellFormed, Bool.and_eq_true, List.all_eq_true,
      Bool.or_eq_true, beq_iff_eq, or_assoc] at hwf
    obtain ⟨⟨⟨hevent, hparams⟩, hbody⟩, hrest⟩ := hwf
    have hparameters := fun p hp' =>
      And.intro (hts p (by simp [hp.subset hp'])) (hparams p hp')
    have hstatements := hb.isScripted hbody fun t ht => hts t (by simp [ht])
    have hhandlers := hh.isScripted hrest fun t ht => hts t (by simp [ht])
    exact ⟨⟨⟨hts _ (by simp), hevent⟩, hparameters, hstatements⟩, hhandlers⟩

end

/-- What is read from a script is a tree of a script. -/
theorem bodyScripted_of_readProgram {file source : String} {p : Program}
    (h : (Script.readProgram file source).result = some p) : BodyScripted p := by
  rw [Script.readProgram, Script.readWith, Reading.following, Script.parseWith] at h
  split at h
  · next hparse =>
    cases h
    rw [parseProgram, TokenStream.parse, Parser.program] at hparse
    split at hparse
    · next hstatements =>
      cases hparse
      obtain ⟨hyields, hwf⟩ := Parser.spelled_of_statements (fun _ _ _ => trivial) hstatements
      refine hyields.isScripted hwf fun t ht => ?_
      have hkept : t.kind ≠ .eof := by
        simpa using List.all_eq_true.mp List.all_takeWhile t ht
      exact Token.isScanned_of_mem_scan (List.takeWhile_subset _ ht) hkept
    · cases hparse
  · cases h

/-- What is told by one thing that is known of each member is told by all of them for the list. -/
theorem map_eq_of_map_eq {α β γ : Type} {f : α → β} {g : α → γ} {xs ys : List α}
    (hfg : ∀ x ∈ xs, ∀ y ∈ ys, f x = f y → g x = g y) (h : xs.map f = ys.map f) :
    xs.map g = ys.map g := by
  induction xs generalizing ys with
  | nil =>
    cases ys with
    | nil => rfl
    | cons y ys => cases h
  | cons x xs ih =>
    cases ys with
    | nil => cases h
    | cons y ys =>
      obtain ⟨hfirst, hmore⟩ := List.cons.inj h
      rw [List.map_cons, List.map_cons, hfg x List.mem_cons_self y List.mem_cons_self hfirst,
        ih (fun u hu v hv => hfg u (List.mem_cons_of_mem _ hu) v (List.mem_cons_of_mem _ hv)) hmore]

theorem Script.result_eq_some_getD {file source : String}
    (h : (readProgram file source).result.isSome) :
    (readProgram file source).result = some ((readProgram file source).result.getD []) := by
  obtain ⟨p, hp⟩ := Option.isSome_iff_exists.mp h
  rw [hp, Option.getD_some]

end RiftScript
