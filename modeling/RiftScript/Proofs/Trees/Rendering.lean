/-
What the rendering of a script keeps.

A tree is rendered as a form, so the question is what the form of a tree tells about the tree.
Operators and the words that forms start with are never spelled alike, and a name is neither a
constant nor a text. What cannot be told are a number and a variable, or two numbers, with the same
text. The outline of a tree leaves out just that, and the places of its tokens: scripts that are
rendered alike have the same outline.
-/
import RiftScript.Proofs.Trees.Forms
import RiftScript.Proofs.Trees.Scripted
import RiftScript.Tree.Render

namespace RiftScript

/-! ## Outlines -/

/-- A leaf that is known by its text alone. -/
def Expr.leaf (text : String) : Expr :=
  .variable ⟨.identifier, text, .nil, 0, 0, 0⟩

def Value.outline : Value → Expr
  | .number x => .leaf (Number.plain x)
  | v => .literal v 0

mutual

/-- The tree without places, and with its numbers and its variables as leaves. -/
def Expr.outline : Expr → Expr
  | .binary left operator right =>
    .binary left.outline (Relocation.nowhere.token operator) right.outline
  | .unary operator operand => .unary (Relocation.nowhere.token operator) operand.outline
  | .literal value _ => value.outline
  | .variable name => .leaf name.lexeme
  | .grouping inner => .grouping inner.outline
  | .call callee arguments => .call (Relocation.nowhere.token callee) (outlineAll arguments)
  | .champion declared => .champion declared.outline

def outlineAll : List Expr → List Expr
  | [] => []
  | e :: es => e.outline :: outlineAll es

def Stmt.outline : Stmt → Stmt
  | .expression value => .expression value.outline
  | .block statements => .block (outlineBody statements)
  | .conditional condition thenBody elseBody =>
    .conditional condition.outline (outlineBody thenBody) (outlineElse elseBody)
  | .loop condition body => .loop condition.outline (outlineBody body)
  | .combo actions => .combo (outlineBody actions)
  | .champion declared => .champion declared.outline

def outlineBody : List Stmt → List Stmt
  | [] => []
  | s :: ss => s.outline :: outlineBody ss

def outlineElse : Option (List Stmt) → Option (List Stmt)
  | none => none
  | some body => some (outlineBody body)

def Handler.outline : Handler → Handler
  | ⟨event, params, body⟩ =>
    ⟨Relocation.nowhere.token event, params.map Relocation.nowhere.token, outlineBody body⟩

def outlineHandlers : List Handler → List Handler
  | [] => []
  | h :: hs => h.outline :: outlineHandlers hs

def Champion.outline : Champion → Champion
  | ⟨name, handlers⟩ => ⟨Relocation.nowhere.token name, outlineHandlers handlers⟩

end

/-! ## Forms of trees -/

mutual

def Expr.form : Expr → Form
  | .binary left operator right => .list [.atom operator.lexeme, left.form, right.form]
  | .unary operator operand => .list [.atom operator.lexeme, operand.form]
  | .literal value _ => .atom value.literal
  | .variable name => .atom name.lexeme
  | .grouping inner => .list [.atom "group", inner.form]
  | .call callee arguments =>
    .list (.atom "call" :: .atom callee.lexeme :: formsOfAll arguments)
  | .champion declared => declared.form

def formsOfAll : List Expr → List Form
  | [] => []
  | e :: es => e.form :: formsOfAll es

def Stmt.form : Stmt → Form
  | .expression value => value.form
  | .block statements => .list (.atom "block" :: formsOfBody statements)
  | .conditional condition thenBody elseBody =>
    .list (.atom "if" :: condition.form :: .list (.atom "then" :: formsOfBody thenBody)
      :: formsOfElse elseBody)
  | .loop condition body => .list (.atom "while" :: condition.form :: formsOfBody body)
  | .combo actions => .list (.atom "combo" :: formsOfBody actions)
  | .champion declared => declared.form

def formsOfBody : List Stmt → List Form
  | [] => []
  | s :: ss => s.form :: formsOfBody ss

def formsOfElse : Option (List Stmt) → List Form
  | none => []
  | some body => [.list (.atom "else" :: formsOfBody body)]

def Handler.form : Handler → Form
  | ⟨event, params, body⟩ =>
    .list (.atom event.lexeme :: .list (params.map fun p => .atom p.lexeme) :: formsOfBody body)

def formsOfHandlers : List Handler → List Form
  | [] => []
  | h :: hs => h.form :: formsOfHandlers hs

def Champion.form : Champion → Form
  | ⟨name, handlers⟩ =>
    .list (.atom "champion" :: .atom name.lexeme :: formsOfHandlers handlers)

end

theorem Champion.form_eq (c : Champion) :
    c.form = .list (.atom "champion" :: .atom c.name.lexeme :: formsOfHandlers c.handlers) := by
  cases c
  rw [Champion.form]

theorem Form.texts_map_atom (ts : List Token) :
    texts (ts.map fun t => atom t.lexeme) = ts.map Token.lexeme := by
  induction ts with
  | nil => rfl
  | cons t ts ih => rw [List.map_cons, texts, ih, text, List.map_cons]

mutual

theorem Expr.text_form : (e : Expr) → e.form.text = e.render true
  | .binary left operator right => by
    simp [Expr.form, Form.text, Form.texts, Expr.render, parenthesized, left.text_form,
      right.text_form]
  | .unary operator operand => by
    simp [Expr.form, Form.text, Form.texts, Expr.render, parenthesized, operand.text_form]
  | .literal value line => rfl
  | .variable name => rfl
  | .grouping inner => by
    simp [Expr.form, Form.text, Form.texts, Expr.render, parenthesized, inner.text_form]
  | .call callee arguments => by
    simp [Expr.form, Form.text, Form.texts, Expr.render, parenthesized, texts_formsOfAll arguments]
  | .champion declared => declared.text_form

theorem texts_formsOfAll : (es : List Expr) →
    Form.texts (formsOfAll es) = renderArguments true es
  | [] => rfl
  | e :: es => by
    rw [formsOfAll, Form.texts, renderArguments, e.text_form, texts_formsOfAll es]

theorem Stmt.text_form : (s : Stmt) → s.form.text = s.render true
  | .expression value => value.text_form
  | .block statements => by
    simp [Stmt.form, Form.text, Form.texts, Stmt.render, parenthesized,
      texts_formsOfBody statements]
  | .conditional condition thenBody elseBody => by
    simp [Stmt.form, Form.text, Form.texts, Stmt.render, parenthesized, condition.text_form,
      texts_formsOfBody thenBody, texts_formsOfElse elseBody]
  | .loop condition body => by
    simp [Stmt.form, Form.text, Form.texts, Stmt.render, parenthesized, condition.text_form,
      texts_formsOfBody body]
  | .combo actions => by
    simp [Stmt.form, Form.text, Form.texts, Stmt.render, parenthesized, texts_formsOfBody actions]
  | .champion declared => declared.text_form

theorem texts_formsOfBody : (ss : List Stmt) → Form.texts (formsOfBody ss) = renderBody true ss
  | [] => rfl
  | s :: ss => by rw [formsOfBody, Form.texts, renderBody, s.text_form, texts_formsOfBody ss]

theorem texts_formsOfElse : (e : Option (List Stmt)) →
    Form.texts (formsOfElse e) = renderElse true e
  | none => rfl
  | some body => by
    simp [formsOfElse, Form.text, Form.texts, renderElse, parenthesized, texts_formsOfBody body]

theorem Handler.text_form : (h : Handler) → h.form.text = h.render true
  | ⟨event, params, body⟩ => by
    simp [Handler.form, Form.text, Form.texts, Handler.render, parenthesized,
      Form.texts_map_atom params, texts_formsOfBody body]

theorem texts_formsOfHandlers : (hs : List Handler) →
    Form.texts (formsOfHandlers hs) = renderHandlers true hs
  | [] => rfl
  | h :: hs => by
    rw [formsOfHandlers, Form.texts, renderHandlers, h.text_form, texts_formsOfHandlers hs]

theorem Champion.text_form : (c : Champion) → c.form.text = c.render true
  | ⟨name, handlers⟩ => by
    simp [Champion.form, Form.text, Form.texts, Champion.render, parenthesized,
      texts_formsOfHandlers handlers]

end

/-! ## Tokens in forms -/

/-- A text that could be a name or a reserved word. -/
def Text.isWord : List Char → Bool
  | [] => false
  | c :: cs => opensName c && cs.all extendsName

theorem Form.bare_of_isWord {cs : List Char} (h : Text.isWord cs = true) : Bare cs := by
  cases cs with
  | nil => cases h
  | cons c cs =>
    simp only [Text.isWord, Bool.and_eq_true, List.all_eq_true] at h
    have hmarks : ∀ d ∈ marks, Text.extendsName d = false := forall_mem_of_all (by decide)
    refine ⟨List.cons_ne_nil c cs, fun d hd hmem => ?_⟩
    have hextends : Text.extendsName d = true := by
      rcases List.mem_cons.mp hd with rfl | hd
      · exact Text.extendsName_of_opensName h.1
      · exact h.2 d hd
    rw [hmarks d hmem] at hextends
    cases hextends

theorem Form.clear_word {word : String} (h : Text.isWord word.toList = true) :
    (atom word).Clear :=
  .inl (bare_of_isWord h)

theorem Lexeme.of_isWord {word : String} (h : Text.isWord word.toList = true) :
    Lexeme (TokenKind.ofWord word) word.toList := by
  cases hword : word.toList with
  | nil =>
    rw [hword] at h
    cases h
  | cons c cs =>
    rw [hword] at h
    simp only [Text.isWord, Bool.and_eq_true, List.all_eq_true] at h
    exact .word h.1 h.2 (by rw [← hword, String.ofList_toList])

theorem Form.not_mem_marks_of_isAsciiDigit {c : Char} (h : Text.isAsciiDigit c = true) :
    c ∉ marks := by
  have hmarks : ∀ d ∈ marks, Text.isAsciiDigit d = false := forall_mem_of_all (by decide)
  intro hmem
  rw [hmarks c hmem] at h
  cases h

/-- The tokens that are no texts and no parentheses are words. -/
theorem Lexeme.bare {kind : TokenKind} {chars : List Char} (h : Lexeme kind chars)
    (htext : kind ≠ .string) (hopen : kind ≠ .leftParen) (hclose : kind ≠ .rightParen) :
    Form.Bare chars := by
  cases h with
  | text hquote => exact absurd rfl htext
  | whole hne hds => exact ⟨hne, fun d hd => Form.not_mem_marks_of_isAsciiDigit (hds d hd)⟩
  | decimal hne hds hne' hes =>
    refine ⟨by simp, fun d hd => ?_⟩
    rcases List.mem_append.mp hd with hd | hd
    · exact Form.not_mem_marks_of_isAsciiDigit (hds d hd)
    · rcases List.mem_cons.mp hd with rfl | hd
      · decide
      · exact Form.not_mem_marks_of_isAsciiDigit (hes d hd)
  | word hc hcs hkind =>
    refine Form.bare_of_isWord ?_
    rw [Text.isWord, hc, Bool.true_and, List.all_eq_true]
    exact hcs
  | @mark c _ h =>
    refine ⟨List.cons_ne_nil c [], ?_⟩
    unfold Piece.punctuation at h
    split at h <;> cases h
    · exact absurd rfl hopen
    · exact absurd rfl hclose
    all_goals exact forall_mem_of_all (by decide)
  | @alone c _ _ h =>
    refine ⟨List.cons_ne_nil c [], ?_⟩
    unfold Piece.extensible at h
    split at h <;> cases h
    all_goals exact forall_mem_of_all (by decide)
  | @extended c _ _ h =>
    refine ⟨List.cons_ne_nil c ['='], ?_⟩
    unfold Piece.extensible at h
    split at h <;> cases h
    all_goals exact forall_mem_of_all (by decide)

namespace Token.IsScanned

variable {t u : Token}

theorem clear (h : t.IsScanned) (hopen : t.kind ≠ .leftParen) (hclose : t.kind ≠ .rightParen) :
    (Form.atom t.lexeme).Clear := by
  by_cases htext : t.kind = .string
  · obtain ⟨cs, hquote, hchars⟩ := (htext ▸ h.lexeme).exists_text
    exact .inr ⟨cs, hquote, hchars⟩
  · exact .inl (h.lexeme.bare htext hopen hclose)

/-- A token of a class that has no parentheses in it. -/
theorem clear_of_kind (h : t.IsScanned) {p : TokenKind → Bool} (hkind : p t.kind = true)
    (hopen : p .leftParen = false) (hclose : p .rightParen = false) :
    (Form.atom t.lexeme).Clear :=
  h.clear (ne_of_apply_ne p (by simp [hkind, hopen])) (ne_of_apply_ne p (by simp [hkind, hclose]))

/-- A token of a class is not spelled like words that are of other kinds. -/
theorem not_mem_words (h : t.IsScanned) {p : TokenKind → Bool} (hkind : p t.kind = true)
    {words : List String}
    (hwords : ∀ word ∈ words, Text.isWord word.toList = true ∧ p (.ofWord word) = false) :
    t.lexeme ∉ words := by
  intro hmem
  obtain ⟨hword, hother⟩ := hwords t.lexeme hmem
  rw [h.lexeme.kind_unique (.of_isWord hword), hother] at hkind
  cases hkind

theorem nowhere_eq (ht : t.IsScanned) (hu : u.IsScanned) (h : t.lexeme = u.lexeme) :
    Relocation.nowhere.token t = Relocation.nowhere.token u := by
  have hcontent := ht.content_eq hu h
  simp only [content, Prod.mk.injEq] at hcontent
  simp [Relocation.nowhere, hcontent]

end Token.IsScanned

/-- What stands in front of operands. -/
def TokenKind.isOperator (k : TokenKind) : Bool :=
  k.precedence?.isSome || k == notWord || k == bang || k == minus

theorem TokenKind.isOperator_of_precedence? {k : TokenKind} (h : k.precedence?.isSome = true) :
    k.isOperator = true := by
  simp [isOperator, h]

theorem TokenKind.isOperator_of_isSign {k : TokenKind} (h : k.isSign) : k.isOperator = true := by
  rcases h with rfl | rfl | rfl <;> rfl

/-- The words that forms of other trees than operators start with. -/
def Form.heads : List String :=
  ["group", "call", "block", "if", "while", "combo", "champion"]

namespace Token.IsScanned

variable {t : Token}

theorem clear_operator (h : t.IsScanned) (hkind : t.kind.isOperator = true) :
    (Form.atom t.lexeme).Clear :=
  h.clear_of_kind hkind rfl rfl

theorem clear_name (h : t.IsScanned) (hkind : t.kind.isName = true) :
    (Form.atom t.lexeme).Clear :=
  h.clear_of_kind hkind rfl rfl

theorem clear_parameter (h : t.IsScanned) (hparameter : t.IsParameter) :
    (Form.atom t.lexeme).Clear := by
  rcases hparameter with hkind | hkind | hkind
  · exact h.clear (by rw [hkind]; decide) (by rw [hkind]; decide)
  · exact h.clear (by rw [hkind]; decide) (by rw [hkind]; decide)
  · exact h.clear_name hkind

theorem operator_not_mem_heads (h : t.IsScanned) (hkind : t.kind.isOperator = true) :
    t.lexeme ∉ Form.heads :=
  h.not_mem_words hkind (by decide +kernel)

theorem name_not_mem_constants (h : t.IsScanned) (hkind : t.kind.isName = true) :
    t.lexeme ∉ ["true", "false", "nil"] :=
  h.not_mem_words hkind (by decide +kernel)

end Token.IsScanned

theorem Number.bare_plain (x : Float) : Form.Bare (plain x).toList := by
  have hsigns : ∀ c ∈ Form.marks, c ∉ numeralSigns := forall_mem_of_all (by decide)
  exact ⟨plain_ne_nil x, fun c hc hmem => hsigns c hmem (mem_numeralSigns_of_mem_plain hc)⟩

theorem Number.plain_not_mem_constants (x : Float) : plain x ∉ ["true", "false", "nil"] := by
  have hsigns : ∀ {word : String}, plain x = word → ∀ c ∈ word.toList, c ∈ numeralSigns :=
    fun hword _ hc => mem_numeralSigns_of_mem_plain (hword ▸ hc)
  intro hmem
  simp only [List.mem_cons, List.not_mem_nil, or_false] at hmem
  rcases hmem with htrue | hfalse | hnil
  · exact absurd (hsigns htrue 'r' (by decide +kernel)) (by decide)
  · exact absurd (hsigns hfalse 'l' (by decide +kernel)) (by decide)
  · exact absurd (hsigns hnil 'l' (by decide +kernel)) (by decide)

theorem Value.toList_literal_text (s : String) :
    (text s).literal.toList = '"' :: s.toList ++ ['"'] := by
  simp [literal]

theorem Value.clear_literal {v : Value} (h : v.IsWritten) : (Form.atom v.literal).Clear := by
  cases v with
  | nil => exact Form.clear_word (by decide +kernel)
  | boolean b => cases b <;> exact Form.clear_word (by decide +kernel)
  | number x => exact .inl (Number.bare_plain x)
  | text s => exact .inr ⟨s.toList, h, toList_literal_text s⟩
  | foreign d => exact h.elim

/-! ## Forms of scripts are clear -/

theorem Form.allClear_map_atom {ts : List Token} (h : ∀ t ∈ ts, (atom t.lexeme).Clear) :
    AllClear (ts.map fun t => atom t.lexeme) := by
  induction ts with
  | nil => trivial
  | cons t ts ih =>
    exact ⟨h t List.mem_cons_self, ih fun u hu => h u (List.mem_cons_of_mem _ hu)⟩

mutual

theorem Expr.clear_form : (e : Expr) → e.IsScripted → e.form.Clear
  | .binary left operator right, h =>
    ⟨h.1.clear_operator (TokenKind.isOperator_of_precedence? h.2.1), left.clear_form h.2.2.1,
      right.clear_form h.2.2.2, trivial⟩
  | .unary operator operand, h =>
    ⟨h.1.clear_operator (TokenKind.isOperator_of_isSign h.2.1), operand.clear_form h.2.2, trivial⟩
  | .literal value line, h => Value.clear_literal h
  | .variable name, h => h.1.clear_name h.2
  | .grouping inner, h => ⟨Form.clear_word (by decide +kernel), inner.clear_form h, trivial⟩
  | .call callee arguments, h =>
    ⟨Form.clear_word (by decide +kernel), h.1.clear_name h.2.1, allClear_formsOfAll arguments h.2.2⟩
  | .champion _, h => h.elim

theorem allClear_formsOfAll : (es : List Expr) → AllScripted es → Form.AllClear (formsOfAll es)
  | [], _ => trivial
  | e :: es, h => ⟨e.clear_form h.1, allClear_formsOfAll es h.2⟩

end

mutual

theorem Stmt.clear_form : (s : Stmt) → s.IsScripted → s.form.Clear
  | .expression value, h => value.clear_form h
  | .block statements, h =>
    ⟨Form.clear_word (by decide +kernel), allClear_formsOfBody statements h⟩
  | .conditional condition thenBody elseBody, h =>
    ⟨Form.clear_word (by decide +kernel), condition.clear_form h.1,
      ⟨Form.clear_word (by decide +kernel), allClear_formsOfBody thenBody h.2.1⟩,
      allClear_formsOfElse elseBody h.2.2⟩
  | .loop condition body, h =>
    ⟨Form.clear_word (by decide +kernel), condition.clear_form h.1, allClear_formsOfBody body h.2⟩
  | .combo actions, h => ⟨Form.clear_word (by decide +kernel), allClear_formsOfBody actions h⟩
  | .champion declared, h => declared.clear_form h

theorem allClear_formsOfBody : (ss : List Stmt) → BodyScripted ss → Form.AllClear (formsOfBody ss)
  | [], _ => trivial
  | s :: ss, h => ⟨s.clear_form h.1, allClear_formsOfBody ss h.2⟩

theorem allClear_formsOfElse : (e : Option (List Stmt)) → ElseScripted e →
    Form.AllClear (formsOfElse e)
  | none, _ => trivial
  | some body, h => ⟨⟨Form.clear_word (by decide +kernel), allClear_formsOfBody body h⟩, trivial⟩

theorem Handler.clear_form : (h : Handler) → h.IsScripted → h.form.Clear
  | ⟨_, _, body⟩, h =>
    ⟨h.1.1.clear_of_kind h.1.2 rfl rfl,
      Form.allClear_map_atom fun p hp => (h.2.1 p hp).1.clear_parameter (h.2.1 p hp).2,
      allClear_formsOfBody body h.2.2⟩

theorem allClear_formsOfHandlers : (hs : List Handler) → HandlersScripted hs →
    Form.AllClear (formsOfHandlers hs)
  | [], _ => trivial
  | g :: gs, h => ⟨g.clear_form h.1, allClear_formsOfHandlers gs h.2⟩

theorem Champion.clear_form : (c : Champion) → c.IsScripted → c.form.Clear
  | ⟨name, handlers⟩, h =>
    ⟨Form.clear_word (by decide +kernel), h.1.1.clear_name (by rw [h.1.2]; decide),
      allClear_formsOfHandlers handlers h.2⟩

end

/-! ## Outlines from forms -/

/-- The outline that an atom is the form of. -/
def Form.outlineOfAtom (t : String) : Expr :=
  if t = "true" then .literal (.boolean true) 0
  else if t = "false" then .literal (.boolean false) 0
  else if t = "nil" then .literal .nil 0
  else if t.toList.head? = some '"' then .literal (.text (String.ofList t.toList.tail.dropLast)) 0
  else .leaf t

theorem Form.outlineOfAtom_of_bare {t : String} (hbare : Bare t.toList)
    (hconstant : t ∉ ["true", "false", "nil"]) : outlineOfAtom t = .leaf t := by
  have hquote : t.toList.head? ≠ some '"' := by
    obtain ⟨c, cs, ht, hc⟩ := hbare.opens
    rw [ht]
    intro hhead
    rw [Option.some.inj hhead] at hc
    exact absurd hc (by decide)
  simp only [List.mem_cons, List.not_mem_nil, or_false, not_or] at hconstant
  simp [outlineOfAtom, hconstant, hquote]

theorem Value.outline_eq {v : Value} (h : v.IsWritten) :
    v.outline = Form.outlineOfAtom v.literal := by
  cases v with
  | nil => rfl
  | boolean b => cases b <;> rfl
  | number x =>
    exact (Form.outlineOfAtom_of_bare (Number.bare_plain x) (Number.plain_not_mem_constants x)).symm
  | text s =>
    have hword : ∀ word : String, word.toList.head? ≠ some '"' → (text s).literal ≠ word := by
      rintro word hhead rfl
      exact hhead (by rw [toList_literal_text]; rfl)
    rw [Form.outlineOfAtom, if_neg (hword _ (by decide +kernel)),
      if_neg (hword _ (by decide +kernel)), if_neg (hword _ (by decide +kernel)),
      toList_literal_text]
    simp [outline]
  | foreign d => exact h.elim

theorem Expr.outline_of_form_atom {e : Expr} (he : e.IsScripted) {t : String}
    (h : e.form = .atom t) : e.outline = Form.outlineOfAtom t := by
  cases e with
  | literal value line =>
    cases h
    exact Value.outline_eq he
  | «variable» name =>
    cases h
    have hbare : Form.Bare name.lexeme.toList :=
      he.1.lexeme.bare (ne_of_apply_ne TokenKind.isName (by rw [he.2]; decide))
        (ne_of_apply_ne TokenKind.isName (by rw [he.2]; decide))
        (ne_of_apply_ne TokenKind.isName (by rw [he.2]; decide))
    exact (Form.outlineOfAtom_of_bare hbare (he.1.name_not_mem_constants he.2)).symm
  | champion _ => exact he.elim
  | _ => cases h

/-- The words of statements are not where an operator or the word of an expression stands. -/
theorem Expr.form_ne_list {e : Expr} (he : e.IsScripted) {word : String}
    (hword : word ∈ ["block", "if", "while", "combo", "champion"]) (items : List Form) :
    e.form ≠ .list (.atom word :: items) := by
  have hheads : word ∈ Form.heads := List.mem_append_right ["group", "call"] hword
  cases e with
  | binary left operator right =>
    intro h
    simp only [Expr.form, Form.list.injEq, List.cons.injEq, Form.atom.injEq] at h
    exact he.1.operator_not_mem_heads (TokenKind.isOperator_of_precedence? he.2.1) (h.1 ▸ hheads)
  | unary operator operand =>
    intro h
    simp only [Expr.form, Form.list.injEq, List.cons.injEq, Form.atom.injEq] at h
    exact he.1.operator_not_mem_heads (TokenKind.isOperator_of_isSign he.2.1) (h.1 ▸ hheads)
  | grouping inner =>
    intro h
    simp only [Expr.form, Form.list.injEq, List.cons.injEq, Form.atom.injEq] at h
    exact absurd (h.1 ▸ hword) (by decide)
  | call callee arguments =>
    intro h
    simp only [Expr.form, Form.list.injEq, List.cons.injEq, Form.atom.injEq] at h
    exact absurd (h.1 ▸ hword) (by decide)
  | champion _ => exact he.elim
  | _ => simp [Expr.form]

mutual

theorem Expr.outline_of_form : (e f : Expr) → e.IsScripted → f.IsScripted → e.form = f.form →
    e.outline = f.outline
  | .binary left operator right, f, he, hf, h => by
    have hoperator := he.1.operator_not_mem_heads (TokenKind.isOperator_of_precedence? he.2.1)
    cases f with
    | binary left' operator' right' =>
      simp only [Expr.form, Form.list.injEq, List.cons.injEq, Form.atom.injEq, and_true] at h
      rw [Expr.outline, Expr.outline, he.1.nowhere_eq hf.1 h.1,
        left.outline_of_form left' he.2.2.1 hf.2.2.1 h.2.1,
        right.outline_of_form right' he.2.2.2 hf.2.2.2 h.2.2]
    | call callee arguments =>
      simp only [Expr.form, Form.list.injEq, List.cons.injEq, Form.atom.injEq] at h
      exact absurd (h.1 ▸ by decide) hoperator
    | champion _ => exact hf.elim
    | _ => simp [Expr.form] at h
  | .unary operator operand, f, he, hf, h => by
    have hoperator := he.1.operator_not_mem_heads (TokenKind.isOperator_of_isSign he.2.1)
    cases f with
    | unary operator' operand' =>
      simp only [Expr.form, Form.list.injEq, List.cons.injEq, Form.atom.injEq, and_true] at h
      rw [Expr.outline, Expr.outline, he.1.nowhere_eq hf.1 h.1,
        operand.outline_of_form operand' he.2.2 hf.2.2 h.2]
    | grouping inner =>
      simp only [Expr.form, Form.list.injEq, List.cons.injEq, Form.atom.injEq] at h
      exact absurd (h.1 ▸ by decide) hoperator
    | call callee arguments =>
      simp only [Expr.form, Form.list.injEq, List.cons.injEq, Form.atom.injEq] at h
      exact absurd (h.1 ▸ by decide) hoperator
    | champion _ => exact hf.elim
    | _ => simp [Expr.form] at h
  | .literal value line, f, he, hf, h => by
    rw [Expr.form] at h
    rw [Expr.outline_of_form_atom hf h.symm]
    exact Value.outline_eq he
  | .variable name, f, he, hf, h => by
    rw [Expr.form] at h
    rw [Expr.outline_of_form_atom hf h.symm, Expr.outline_of_form_atom he rfl]
  | .grouping inner, f, he, hf, h => by
    cases f with
    | grouping inner' =>
      simp only [Expr.form, Form.list.injEq, List.cons.injEq, and_true, true_and] at h
      rw [Expr.outline, Expr.outline, inner.outline_of_form inner' he hf h]
    | unary operator operand =>
      have hoperator := hf.1.operator_not_mem_heads (TokenKind.isOperator_of_isSign hf.2.1)
      simp only [Expr.form, Form.list.injEq, List.cons.injEq, Form.atom.injEq] at h
      exact absurd (h.1 ▸ by decide) hoperator
    | champion _ => exact hf.elim
    | _ => simp [Expr.form] at h
  | .call callee arguments, f, he, hf, h => by
    cases f with
    | call callee' arguments' =>
      simp only [Expr.form, Form.list.injEq, List.cons.injEq, Form.atom.injEq, true_and] at h
      rw [Expr.outline, Expr.outline, he.1.nowhere_eq hf.1 h.1,
        outline_of_formsOfAll arguments arguments' he.2.2 hf.2.2 h.2]
    | binary left operator right =>
      have hoperator := hf.1.operator_not_mem_heads (TokenKind.isOperator_of_precedence? hf.2.1)
      simp only [Expr.form, Form.list.injEq, List.cons.injEq, Form.atom.injEq] at h
      exact absurd (h.1 ▸ by decide) hoperator
    | unary operator operand =>
      have hoperator := hf.1.operator_not_mem_heads (TokenKind.isOperator_of_isSign hf.2.1)
      simp only [Expr.form, Form.list.injEq, List.cons.injEq, Form.atom.injEq] at h
      exact absurd (h.1 ▸ by decide) hoperator
    | champion _ => exact hf.elim
    | _ => simp [Expr.form] at h
  | .champion _, _, he, _, _ => he.elim

theorem outline_of_formsOfAll : (es fs : List Expr) → AllScripted es → AllScripted fs →
    formsOfAll es = formsOfAll fs → outlineAll es = outlineAll fs
  | [], [], _, _, _ => rfl
  | [], _ :: _, _, _, h => by cases h
  | _ :: _, [], _, _, h => by cases h
  | e :: es, f :: fs, hes, hfs, h => by
    obtain ⟨hfirst, hmore⟩ := List.cons.inj h
    rw [outlineAll, outlineAll, e.outline_of_form f hes.1 hfs.1 hfirst,
      outline_of_formsOfAll es fs hes.2 hfs.2 hmore]

end

mutual

theorem Stmt.outline_of_form : (s t : Stmt) → s.IsScripted → t.IsScripted → s.form = t.form →
    s.outline = t.outline
  | .expression value, t, hs, ht, h => by
    cases t with
    | expression value' =>
      rw [Stmt.outline, Stmt.outline, value.outline_of_form value' hs ht h]
    | _ =>
      simp only [Stmt.form, Champion.form_eq] at h
      exact absurd h (Expr.form_ne_list hs (by decide) _)
  | .block statements, t, hs, ht, h => by
    cases t with
    | block statements' =>
      simp only [Stmt.form, Form.list.injEq, List.cons.injEq, true_and] at h
      rw [Stmt.outline, Stmt.outline, outline_of_formsOfBody statements statements' hs ht h]
    | expression value =>
      simp only [Stmt.form] at h
      exact absurd h.symm (Expr.form_ne_list ht (by decide) _)
    | _ => simp [Stmt.form, Champion.form_eq] at h
  | .conditional condition thenBody elseBody, t, hs, ht, h => by
    cases t with
    | conditional condition' thenBody' elseBody' =>
      simp only [Stmt.form, Form.list.injEq, List.cons.injEq, true_and] at h
      rw [Stmt.outline, Stmt.outline, condition.outline_of_form condition' hs.1 ht.1 h.1,
        outline_of_formsOfBody thenBody thenBody' hs.2.1 ht.2.1 h.2.1,
        outline_of_formsOfElse elseBody elseBody' hs.2.2 ht.2.2 h.2.2]
    | expression value =>
      simp only [Stmt.form] at h
      exact absurd h.symm (Expr.form_ne_list ht (by decide) _)
    | _ => simp [Stmt.form, Champion.form_eq] at h
  | .loop condition body, t, hs, ht, h => by
    cases t with
    | loop condition' body' =>
      simp only [Stmt.form, Form.list.injEq, List.cons.injEq, true_and] at h
      rw [Stmt.outline, Stmt.outline, condition.outline_of_form condition' hs.1 ht.1 h.1,
        outline_of_formsOfBody body body' hs.2 ht.2 h.2]
    | expression value =>
      simp only [Stmt.form] at h
      exact absurd h.symm (Expr.form_ne_list ht (by decide) _)
    | _ => simp [Stmt.form, Champion.form_eq] at h
  | .combo actions, t, hs, ht, h => by
    cases t with
    | combo actions' =>
      simp only [Stmt.form, Form.list.injEq, List.cons.injEq, true_and] at h
      rw [Stmt.outline, Stmt.outline, outline_of_formsOfBody actions actions' hs ht h]
    | expression value =>
      simp only [Stmt.form] at h
      exact absurd h.symm (Expr.form_ne_list ht (by decide) _)
    | _ => simp [Stmt.form, Champion.form_eq] at h
  | .champion declared, t, hs, ht, h => by
    cases t with
    | champion declared' =>
      rw [Stmt.outline, Stmt.outline, declared.outline_of_form declared' hs ht h]
    | expression value =>
      simp only [Stmt.form, Champion.form_eq] at h
      exact absurd h.symm (Expr.form_ne_list ht (by decide) _)
    | _ => simp [Stmt.form, Champion.form_eq] at h

theorem outline_of_formsOfBody : (ss ts : List Stmt) → BodyScripted ss → BodyScripted ts →
    formsOfBody ss = formsOfBody ts → outlineBody ss = outlineBody ts
  | [], [], _, _, _ => rfl
  | [], _ :: _, _, _, h => by cases h
  | _ :: _, [], _, _, h => by cases h
  | s :: ss, t :: ts, hss, hts, h => by
    obtain ⟨hfirst, hmore⟩ := List.cons.inj h
    rw [outlineBody, outlineBody, s.outline_of_form t hss.1 hts.1 hfirst,
      outline_of_formsOfBody ss ts hss.2 hts.2 hmore]

theorem outline_of_formsOfElse : (d e : Option (List Stmt)) → ElseScripted d → ElseScripted e →
    formsOfElse d = formsOfElse e → outlineElse d = outlineElse e
  | none, none, _, _, _ => rfl
  | none, some _, _, _, h => by cases h
  | some _, none, _, _, h => by cases h
  | some body, some body', hd, he, h => by
    simp only [formsOfElse, List.cons.injEq, Form.list.injEq, true_and, and_true] at h
    rw [outlineElse, outlineElse, outline_of_formsOfBody body body' hd he h]

theorem Handler.outline_of_form : (g h : Handler) → g.IsScripted → h.IsScripted →
    g.form = h.form → g.outline = h.outline
  | ⟨event, params, body⟩, ⟨event', params', body'⟩, hg, hh, h => by
    simp only [Handler.form, Form.list.injEq, List.cons.injEq, Form.atom.injEq] at h
    have hparams := map_eq_of_map_eq (fun p hp q hq hform => (hg.2.1 p hp).1.nowhere_eq
      (hh.2.1 q hq).1 (Form.atom.inj hform)) h.2.1
    rw [Handler.outline, Handler.outline, hg.1.1.nowhere_eq hh.1.1 h.1, hparams,
      outline_of_formsOfBody body body' hg.2.2 hh.2.2 h.2.2]

theorem outline_of_formsOfHandlers : (gs hs : List Handler) → HandlersScripted gs →
    HandlersScripted hs → formsOfHandlers gs = formsOfHandlers hs →
    outlineHandlers gs = outlineHandlers hs
  | [], [], _, _, _ => rfl
  | [], _ :: _, _, _, h => by cases h
  | _ :: _, [], _, _, h => by cases h
  | g :: gs, g' :: gs', hgs, hgs', h => by
    obtain ⟨hfirst, hmore⟩ := List.cons.inj h
    rw [outlineHandlers, outlineHandlers, g.outline_of_form g' hgs.1 hgs'.1 hfirst,
      outline_of_formsOfHandlers gs gs' hgs.2 hgs'.2 hmore]

theorem Champion.outline_of_form : (c d : Champion) → c.IsScripted → d.IsScripted →
    c.form = d.form → c.outline = d.outline
  | ⟨name, handlers⟩, ⟨name', handlers'⟩, hc, hd, h => by
    simp only [Champion.form, Form.list.injEq, List.cons.injEq, Form.atom.injEq, true_and] at h
    rw [Champion.outline, Champion.outline, hc.1.1.nowhere_eq hd.1.1 h.1,
      outline_of_formsOfHandlers handlers handlers' hc.2 hd.2 h.2]

end

/-! ## Whole scripts -/

theorem length_outlineBody (ss : List Stmt) : (outlineBody ss).length = ss.length := by
  induction ss with
  | nil => rfl
  | cons s ss ih => rw [outlineBody, List.length_cons, ih, List.length_cons]

/-- Scripts that are rendered alike have as many statements and the same outline. -/
theorem render_unambiguous {file file' source source' : String} {p q : Program}
    (hp : (Script.readProgram file source).result = some p)
    (hq : (Script.readProgram file' source').result = some q)
    (h : p.render true = q.render true) :
    p.length = q.length ∧ outlineBody p = outlineBody q := by
  have hscripted := bodyScripted_of_readProgram hp
  have hscripted' := bodyScripted_of_readProgram hq
  rw [Program.render, Program.render, ← texts_formsOfBody, ← texts_formsOfBody] at h
  have hforms := Form.lines_inj (allClear_formsOfBody p hscripted)
    (allClear_formsOfBody q hscripted') h
  have houtline := outline_of_formsOfBody p q hscripted hscripted' hforms
  refine ⟨?_, houtline⟩
  rw [← length_outlineBody p, houtline, length_outlineBody]

def spaciousSource : String :=
  r#"if (x) { say("a)"# ++ "\n" ++ r#"(b"); } else { }"# ++ "\n1"

/-- A text with a line break and parentheses in it, a branch without statements, and a number. -/
@[irreducible] def spacious : Program :=
  (Script.readProgram "" spaciousSource).result.getD []

def denseSource : String :=
  r#"if(x){say("a)"# ++ "\n" ++ r#"(b")}else{}1.0"#

/-- The same without blanks, and with another spelling of the number. -/
@[irreducible] def dense : Program :=
  (Script.readProgram "" denseSource).result.getD []

theorem render_unambiguous_respaced :
    spacious.render true = dense.render true ∧ spacious.length = dense.length ∧
      outlineBody spacious = outlineBody dense := by
  have hspacious : (Script.readProgram "" spaciousSource).result = some spacious := by
    rw [spacious]
    exact Script.result_eq_some_getD (by decide +kernel)
  have hdense : (Script.readProgram "" denseSource).result = some dense := by
    rw [dense]
    exact Script.result_eq_some_getD (by decide +kernel)
  have hsame : spacious.render true = dense.render true := by decide +kernel
  exact ⟨hsame, render_unambiguous hspacious hdense hsame⟩

end RiftScript
