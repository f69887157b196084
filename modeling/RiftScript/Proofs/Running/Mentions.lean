/-
What scripts mention.

All that a tree brings into a run are its literals and the names that it looks up or calls. The
statements about runs ask something of these mentions only, so what is known about the tokens of a
script carries over to its runs: the words of actions are spelled as they should be, and no literal
is foreign.
-/
import RiftScript.Proofs.Parsing.Programs
import RiftScript.Proofs.Scanning.Pieces
import RiftScript.Script

namespace RiftScript

/-- A name that is looked up or called, or a literal. -/
inductive Mention where
  | name (t : Token)
  | literal (v : Value)
deriving Repr, DecidableEq

/-! ## Mentions and champions of a tree -/

mutual

def Expr.mentions : Expr → List Mention
  | .literal value _ => [.literal value]
  | .grouping inner => inner.mentions
  | .unary _ operand => operand.mentions
  | .binary left _ right => left.mentions ++ right.mentions
  | .variable name => [.name name]
  | .call callee arguments => mentionsOfAll arguments ++ [.name callee]
  | .champion declared => declared.mentions

def mentionsOfAll : List Expr → List Mention
  | [] => []
  | e :: es => e.mentions ++ mentionsOfAll es

def Stmt.mentions : Stmt → List Mention
  | .expression value => value.mentions
  | .block statements => mentionsOfBody statements
  | .conditional condition thenBody elseBody =>
    condition.mentions ++ mentionsOfBody thenBody ++ mentionsOfElse elseBody
  | .loop condition body => condition.mentions ++ mentionsOfBody body
  | .combo actions => mentionsOfBody actions
  | .champion declared => declared.mentions

def mentionsOfBody : List Stmt → List Mention
  | [] => []
  | s :: ss => s.mentions ++ mentionsOfBody ss

def mentionsOfElse : Option (List Stmt) → List Mention
  | none => []
  | some body => mentionsOfBody body

def Handler.mentions : Handler → List Mention
  | ⟨_, _, body⟩ => mentionsOfBody body

def mentionsOfHandlers : List Handler → List Mention
  | [] => []
  | h :: hs => h.mentions ++ mentionsOfHandlers hs

/-- The mentions in the handlers of a champion. -/
def Champion.mentions : Champion → List Mention
  | ⟨_, handlers⟩ => mentionsOfHandlers handlers

end

mutual

/-- The champions that are declared somewhere in a statement, also in handlers. -/
def Stmt.champions : Stmt → List Champion
  | .expression _ => []
  | .block statements => championsOfBody statements
  | .conditional _ thenBody elseBody => championsOfBody thenBody ++ championsOfElse elseBody
  | .loop _ body => championsOfBody body
  | .combo actions => championsOfBody actions
  | .champion declared => declared.champions

def championsOfBody : List Stmt → List Champion
  | [] => []
  | s :: ss => s.champions ++ championsOfBody ss

def championsOfElse : Option (List Stmt) → List Champion
  | none => []
  | some body => championsOfBody body

def Handler.champions : Handler → List Champion
  | ⟨_, _, body⟩ => championsOfBody body

def championsOfHandlers : List Handler → List Champion
  | [] => []
  | h :: hs => h.champions ++ championsOfHandlers hs

/-- A champion and those that its handlers declare. -/
def Champion.champions : Champion → List Champion
  | ⟨name, handlers⟩ => ⟨name, handlers⟩ :: championsOfHandlers handlers

end

theorem Handler.mentions_eq (h : Handler) : h.mentions = mentionsOfBody h.body := by
  cases h
  rw [Handler.mentions]

theorem Champion.mentions_eq (c : Champion) : c.mentions = mentionsOfHandlers c.handlers := by
  cases c
  rw [Champion.mentions]

theorem mentionsOfHandlers_filter_subset (keep : Handler → Bool) (hs : List Handler) :
    mentionsOfHandlers (hs.filter keep) ⊆ mentionsOfHandlers hs := by
  induction hs with
  | nil => exact List.Subset.refl _
  | cons h hs ih =>
    rw [mentionsOfHandlers]
    by_cases hkeep : keep h = true
    · rw [List.filter_cons_of_pos hkeep, mentionsOfHandlers]
      exact List.append_subset.mpr
        ⟨List.subset_append_left .., List.Subset.trans ih (List.subset_append_right ..)⟩
    · rw [List.filter_cons_of_neg hkeep]
      exact List.Subset.trans ih (List.subset_append_right ..)

mutual

/-- What a declared champion mentions, the statement that declares it mentions. -/
theorem Stmt.mentions_of_mem_champions {c : Champion} :
    (s : Stmt) → c ∈ s.champions → c.mentions ⊆ s.mentions
  | .expression _, h => by simp [Stmt.champions] at h
  | .block statements, h => by
    rw [Stmt.mentions]
    exact mentions_of_mem_championsOfBody statements h
  | .conditional condition thenBody elseBody, h => by
    rw [Stmt.mentions]
    rcases List.mem_append.mp h with h | h
    · exact List.Subset.trans (mentions_of_mem_championsOfBody thenBody h) (by simp)
    · exact List.Subset.trans (mentions_of_mem_championsOfElse elseBody h) (by simp)
  | .loop condition body, h => by
    rw [Stmt.mentions]
    exact List.Subset.trans (mentions_of_mem_championsOfBody body h) (by simp)
  | .combo actions, h => by
    rw [Stmt.mentions]
    exact mentions_of_mem_championsOfBody actions h
  | .champion declared, h => by
    rw [Stmt.mentions]
    exact Champion.mentions_of_mem_champions declared h

theorem mentions_of_mem_championsOfBody {c : Champion} :
    (ss : List Stmt) → c ∈ championsOfBody ss → c.mentions ⊆ mentionsOfBody ss
  | [], h => by simp [championsOfBody] at h
  | s :: ss, h => by
    rw [mentionsOfBody]
    rcases List.mem_append.mp h with h | h
    · exact List.Subset.trans (Stmt.mentions_of_mem_champions s h) (by simp)
    · exact List.Subset.trans (mentions_of_mem_championsOfBody ss h) (by simp)

theorem mentions_of_mem_championsOfElse {c : Champion} :
    (e : Option (List Stmt)) → c ∈ championsOfElse e → c.mentions ⊆ mentionsOfElse e
  | none, h => by simp [championsOfElse] at h
  | some body, h => by
    rw [mentionsOfElse]
    exact mentions_of_mem_championsOfBody body h

theorem Handler.mentions_of_mem_champions {c : Champion} :
    (h : Handler) → c ∈ h.champions → c.mentions ⊆ h.mentions
  | ⟨_, _, body⟩, h => by
    rw [Handler.mentions]
    exact mentions_of_mem_championsOfBody body h

theorem mentions_of_mem_championsOfHandlers {c : Champion} :
    (hs : List Handler) → c ∈ championsOfHandlers hs → c.mentions ⊆ mentionsOfHandlers hs
  | [], h => by simp [championsOfHandlers] at h
  | g :: gs, h => by
    rw [mentionsOfHandlers]
    rcases List.mem_append.mp h with h | h
    · exact List.Subset.trans (Handler.mentions_of_mem_champions g h) (by simp)
    · exact List.Subset.trans (mentions_of_mem_championsOfHandlers gs h) (by simp)

theorem Champion.mentions_of_mem_champions {c : Champion} :
    (d : Champion) → c ∈ d.champions → c.mentions ⊆ d.mentions
  | ⟨name, handlers⟩, h => by
    rcases List.mem_cons.mp h with rfl | h
    · exact List.Subset.refl _
    · rw [Champion.mentions]
      exact mentions_of_mem_championsOfHandlers handlers h

end

/-! ## Mentions and tokens -/

/-- A name is one of the tokens, and a literal is that of one of them unless it is one of the values
that have a word of their own. -/
def Mention.IsFrom (ts : List Token) : Mention → Prop
  | name t => t ∈ ts
  | literal v => v.isForeign = false ∨ ∃ t ∈ ts, v = t.literal

theorem Mention.IsFrom.mono {ts us : List Token} (hsub : ∀ t ∈ ts, t ∈ us) :
    {x : Mention} → x.IsFrom ts → x.IsFrom us
  | name t, h => hsub t h
  | literal _, .inl h => .inl h
  | literal _, .inr ⟨t, ht, hv⟩ => .inr ⟨t, hsub t ht, hv⟩

mutual

theorem Expr.Yields.isFrom {e : Expr} {ts : List Token} :
    e.Yields ts → ∀ x ∈ e.mentions, x.IsFrom ts
  | .yes _ | .no _ | .nil _ => by
    intro x hx
    obtain rfl := List.mem_singleton.mp hx
    exact .inl rfl
  | .constant _ => by
    intro x hx
    obtain rfl := List.mem_singleton.mp hx
    exact .inr ⟨_, List.mem_singleton_self _, rfl⟩
  | .reference => by
    intro x hx
    obtain rfl := List.mem_singleton.mp hx
    exact List.mem_singleton_self _
  | .grouping _ hi _ => fun x hx => (hi.isFrom x hx).mono (by simp +contextual)
  | .unary _ hr => fun x hx => (hr.isFrom x hx).mono (by simp +contextual)
  | .binary hl hr => by
    intro x hx
    rcases List.mem_append.mp hx with hx | hx
    · exact (hl.isFrom x hx).mono (by simp +contextual)
    · exact (hr.isFrom x hx).mono (by simp +contextual)
  | .call _ ha _ => by
    intro x hx
    rcases List.mem_append.mp hx with hx | hx
    · exact (ha.isFrom x hx).mono (by simp +contextual)
    · obtain rfl := List.mem_singleton.mp hx
      exact List.mem_cons_self

theorem ArgumentsYield.isFrom {es : List Expr} {ts : List Token} :
    ArgumentsYield es ts → ∀ x ∈ mentionsOfAll es, x.IsFrom ts
  | .none => by simp [mentionsOfAll]
  | .last he => by
    intro x hx
    rw [mentionsOfAll, mentionsOfAll, List.append_nil] at hx
    exact he.isFrom x hx
  | .more he _ hf => by
    intro x hx
    rcases List.mem_append.mp hx with hx | hx
    · exact (he.isFrom x hx).mono (by simp +contextual)
    · exact (hf.isFrom x hx).mono (by simp +contextual)

end

mutual

theorem Stmt.Yields.isFrom {after : Expr → Option Token → Prop} {s : Stmt} {ts : List Token}
    {next : Option Token} : s.Yields after ts next → ∀ x ∈ s.mentions, x.IsFrom ts
  | .terminated hv _ => fun x hx => (hv.isFrom x hx).mono (by simp +contextual)
  | .bare hv _ => fun x hx => hv.isFrom x hx
  | .block hb => fun x hx => hb.isFrom x hx
  | .conditional _ _ ht _ hb => by
    intro x hx
    rw [Stmt.mentions, mentionsOfElse, List.append_nil] at hx
    rcases List.mem_append.mp hx with hx | hx
    · exact (ht.isFrom x hx).mono (by simp +contextual)
    · exact (hb.isFrom x hx).mono (by simp +contextual)
  | .alternative _ _ ht _ hb _ hd => by
    intro x hx
    rw [Stmt.mentions, mentionsOfElse, List.append_assoc, List.mem_append, List.mem_append] at hx
    rcases hx with hx | hx | hx
    · exact (ht.isFrom x hx).mono (by simp +contextual)
    · exact (hb.isFrom x hx).mono (by simp +contextual)
    · exact (hd.isFrom x hx).mono (by simp +contextual)
  | .loop _ _ ht _ hb => by
    intro x hx
    rcases List.mem_append.mp hx with hx | hx
    · exact (ht.isFrom x hx).mono (by simp +contextual)
    · exact (hb.isFrom x hx).mono (by simp +contextual)
  | .combo _ hb => fun x hx => (hb.isFrom x hx).mono (by simp +contextual)
  | .champion _ _ _ hh _ => fun x hx => (hh.isFrom x hx).mono (by simp +contextual)

theorem StatementsYield.isFrom {after : Expr → Option Token → Prop} {ss : List Stmt}
    {ts : List Token} {next : Option Token} :
    StatementsYield after ss ts next → ∀ x ∈ mentionsOfBody ss, x.IsFrom ts
  | .nil => by simp [mentionsOfBody]
  | .cons hs hss => by
    intro x hx
    rcases List.mem_append.mp hx with hx | hx
    · exact (hs.isFrom x hx).mono (by simp +contextual)
    · exact (hss.isFrom x hx).mono (by simp +contextual)

theorem BodyYields.isFrom {after : Expr → Option Token → Prop} {ss : List Stmt}
    {ts : List Token} : BodyYields after ss ts → ∀ x ∈ mentionsOfBody ss, x.IsFrom ts
  | .braced _ hs _ => fun x hx => (hs.isFrom x hx).mono (by simp +contextual)

theorem HandlersYield.isFrom {after : Expr → Option Token → Prop} {hs : List Handler}
    {ts : List Token} : HandlersYield after hs ts → ∀ x ∈ mentionsOfHandlers hs, x.IsFrom ts
  | .nil => by simp [mentionsOfHandlers]
  | .cons _ hb hh => by
    intro x hx
    rcases List.mem_append.mp hx with hx | hx
    · exact (hb.isFrom x hx).mono (by simp +contextual)
    · exact (hh.isFrom x hx).mono (by simp +contextual)

end

theorem isFrom_of_parseProgram {ts : List Token} {p : Program} (h : parseProgram ts = .ok p) :
    ∀ x ∈ mentionsOfBody p, x.IsFrom ts := by
  rw [parseProgram, TokenStream.parse, Parser.program] at h
  split at h
  · next hparse =>
    cases h
    have hyields : Program.Yields _ _ :=
      (Parser.spelled_of_statements (fun _ _ _ => trivial) hparse).1
    intro x hx
    exact (hyields.isFrom x hx).mono fun t ht => List.takeWhile_subset _ ht
  · cases h

/-! ## Tokens of a script -/

theorem TokenKind.word_of_ofWord {word : String} {a : Action} (h : ofWord word = action a) :
    word = a.word := by
  have hall : ∀ entry ∈ keywords, ∀ a ∈ Action.all, entry.2 = action a → entry.1 = a.word := by
    decide
  have ha : a ∈ Action.all := by cases a <;> decide
  rw [ofWord] at h
  cases hw : keywords.lookup word with
  | none =>
    rw [hw] at h
    cases h
  | some kind =>
    rw [hw] at h
    obtain ⟨before, after, heq, _⟩ := List.lookup_eq_some_iff.mp hw
    exact hall (word, kind) (by simp [heq]) a ha h

namespace Piece

theorem extensible_ne_action {c : Char} {alone withEqual : TokenKind} {a : Action}
    (h : extensible c = some (alone, withEqual)) : alone ≠ .action a ∧ withEqual ≠ .action a := by
  unfold extensible at h
  split at h <;> cases h <;> simp

theorem punctuation_ne_action {c : Char} {a : Action} : punctuation c ≠ some (.action a) := by
  intro h
  unfold punctuation at h
  split at h <;> cases h

theorem operator_ne_action {c : Char} {cs chars : List Char} {a : Action} :
    operator c cs ≠ token (.action a) chars := by
  intro h
  unfold operator at h
  split at h
  · next hext =>
    split at h <;> cases h
    · exact (extensible_ne_action hext).2 rfl
    · exact (extensible_ne_action hext).1 rfl
  · split at h
    · next hpunct =>
      cases h
      exact punctuation_ne_action hpunct
    · cases h

theorem word_of_cut {c : Char} {cs chars : List Char} {a : Action}
    (h : cut c cs = token (.action a) chars) : String.ofList chars = a.word := by
  unfold cut at h
  split at h
  · cases h
  split at h
  · cases h
  split at h
  · split at h <;> cases h
  split at h
  · split at h <;> cases h
  split at h
  · cases h
  split at h
  · injection h with hkind hchars
    rw [← hchars]
    exact TokenKind.word_of_ofWord hkind
  · exact absurd h operator_ne_action

theorem mem_split {piece : Piece} {n : Nat} {cs : List Char} (h : piece ∈ split n cs) :
    ∃ d ds, piece = cut d ds := by
  induction cs generalizing n with
  | nil => simp [split] at h
  | cons c cs ih =>
    cases n with
    | succ n => exact ih h
    | zero =>
      rcases List.mem_cons.mp h with h | h
      · exact ⟨c, cs, h⟩
      · exact ih h

end Piece

theorem mem_findings {t : Token} {p : Position} {pieces : List Piece}
    (h : .token t ∈ findings p pieces) :
    ∃ q kind chars, t = Token.place q kind chars ∧ (.token kind chars ∈ pieces ∨ kind = .eof) := by
  induction pieces generalizing p with
  | nil =>
    obtain ⟨rfl⟩ : t = Token.place p .eof [] := by simpa [findings] using h
    exact ⟨p, .eof, [], rfl, .inr rfl⟩
  | cons piece pieces ih =>
    rcases List.mem_append.mp h with h | h
    · cases piece with
      | token kind chars =>
        obtain rfl : t = Token.place p kind chars := by simpa [Piece.finding?] using h
        exact ⟨p, kind, chars, rfl, .inl List.mem_cons_self⟩
      | _ => simp [Piece.finding?] at h
    · obtain ⟨q, kind, chars, ht, hmem⟩ := ih h
      exact ⟨q, kind, chars, ht, hmem.imp_left (List.mem_cons_of_mem _)⟩

theorem mem_scanAll_of_mem_scan {source : String} {t : Token} (h : t ∈ scan source) :
    .token t ∈ scanAll source := by
  obtain ⟨finding, hmem, hfinding⟩ := List.mem_filterMap.mp h
  cases finding with
  | token u =>
    cases hfinding
    exact hmem
  | error e => cases hfinding

theorem Token.isForeign_literalOf (kind : TokenKind) (cs : List Char) :
    (literalOf kind cs).isForeign = false := by
  unfold literalOf
  split <;> rfl

/-- A mention as scripts make it: the word of an action is spelled as the action is called, and a
literal is a value of the language. -/
def Mention.IsScripted : Mention → Prop
  | name t => ∀ a, t.kind = .action a → t.lexeme = a.word
  | literal v => v.isForeign = false

theorem isScripted_of_mem_scan {source : String} {t : Token} (h : t ∈ scan source) :
    (Mention.name t).IsScripted ∧ (Mention.literal t.literal).IsScripted := by
  obtain ⟨q, kind, chars, rfl, hpiece⟩ := mem_findings (mem_scanAll_of_mem_scan h)
  refine ⟨fun a ha => ?_, Token.isForeign_literalOf kind chars⟩
  obtain rfl : kind = .action a := ha
  rcases hpiece with hpiece | hpiece
  · obtain ⟨d, ds, hcut⟩ := Piece.mem_split hpiece
    exact Piece.word_of_cut hcut.symm
  · cases hpiece

theorem isScripted_of_readProgram {file source : String} {p : Program}
    (h : (Script.readProgram file source).result = some p) :
    ∀ x ∈ mentionsOfBody p, x.IsScripted := by
  have hparse : parseProgram (scan source) = .ok p := by
    change (Script.parseWith parseProgram file (scan source)).result = some p at h
    unfold Script.parseWith at h
    split at h
    · next hparse =>
      cases h
      exact hparse
    · cases h
  intro x hx
  have hfrom := isFrom_of_parseProgram hparse x hx
  cases x with
  | name t => exact (isScripted_of_mem_scan hfrom).1
  | literal v =>
    rcases hfrom with hv | ⟨t, ht, rfl⟩
    · exact hv
    · exact (isScripted_of_mem_scan ht).2

end RiftScript
