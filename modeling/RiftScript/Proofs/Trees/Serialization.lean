/-
What the JSON text of a script keeps.

Tokens are written without their kind, their value and their offset. The first two can be told from
the text of the token, so all that is lost are the offsets: scripts with the same JSON text are the
same but for these. Numbers are an exception if two of them could have the same text.
-/
import RiftScript.Proofs.Trees.JsonText
import RiftScript.Proofs.Trees.Scripted
import RiftScript.Tree.Json

namespace RiftScript

/-- All tokens keep their line and their column and lose their offset. -/
def Relocation.offsetless : Relocation where
  token t := { t with offset := 0 }
  line n := n
  kind_token _ := rfl
  lexeme_token _ := rfl
  literal_token _ := rfl
  line_token _ := rfl

/-- The programs differ at most in the offsets of their tokens. -/
def Program.SameUpToOffsets (p q : Program) : Prop :=
  relocateBody .offsetless p = relocateBody .offsetless q

/-! ## Numbers -/

def Mention.number? : Mention → Option Float
  | literal (.number x) => some x
  | _ => none

/-- The numbers that a program has as literals. -/
def Program.numbers (p : Program) : List Float :=
  (mentionsOfBody p).filterMap Mention.number?

theorem Value.floats_toJson {v : Value} (h : v.IsWritten) :
    v.toJson.floats = [Mention.literal v].filterMap Mention.number? := by
  cases v with
  | foreign d => exact h.elim
  | _ => rfl

theorem Token.floats_toJson (t : Token) : t.toJson.floats = [] :=
  rfl

theorem floatsOfItems_map_toJson (ts : List Token) :
    Json.floatsOfItems (ts.map Token.toJson) = [] := by
  induction ts with
  | nil => rfl
  | cons t ts ih => exact ih

mutual

theorem Expr.floats_toJson : (e : Expr) → e.IsScripted →
    e.toJson.floats = e.mentions.filterMap Mention.number?
  | .binary left operator right, h => by
    simp [Expr.toJson, Json.floats, Json.floatsOfFields, Expr.mentions, Token.floats_toJson,
      left.floats_toJson h.2.2.1, right.floats_toJson h.2.2.2]
  | .unary operator operand, h => by
    simp [Expr.toJson, Json.floats, Json.floatsOfFields, Expr.mentions, Token.floats_toJson,
      operand.floats_toJson h.2.2]
  | .literal value line, h => by
    simp [Expr.toJson, Json.floats, Json.floatsOfFields, Expr.mentions, Value.floats_toJson h]
  | .variable name, _ => rfl
  | .grouping inner, h => by
    simp [Expr.toJson, Json.floats, Json.floatsOfFields, Expr.mentions, inner.floats_toJson h]
  | .call callee arguments, h => by
    simp [Expr.toJson, Json.floats, Json.floatsOfFields, Expr.mentions, Token.floats_toJson,
      floats_argumentsToJson arguments h.2.2, Mention.number?]
  | .champion _, h => h.elim

theorem floats_argumentsToJson : (es : List Expr) → AllScripted es →
    Json.floatsOfItems (argumentsToJson es) = (mentionsOfAll es).filterMap Mention.number?
  | [], _ => rfl
  | e :: es, h => by
    simp [argumentsToJson, Json.floatsOfItems, mentionsOfAll, e.floats_toJson h.1,
      floats_argumentsToJson es h.2]

end

mutual

theorem Stmt.floats_toJson : (s : Stmt) → s.IsScripted →
    s.toJson.floats = s.mentions.filterMap Mention.number?
  | .expression value, h => by
    simp [Stmt.toJson, Json.floats, Json.floatsOfFields, Stmt.mentions, value.floats_toJson h]
  | .block statements, h => by
    simp [Stmt.toJson, Json.floats, Json.floatsOfFields, Stmt.mentions,
      floats_bodyToJson statements h]
  | .conditional condition thenBody elseBody, h => by
    simp [Stmt.toJson, Json.floats, Json.floatsOfFields, Stmt.mentions,
      condition.floats_toJson h.1, floats_bodyToJson thenBody h.2.1,
      floats_elseToJson elseBody h.2.2]
  | .loop condition body, h => by
    simp [Stmt.toJson, Json.floats, Json.floatsOfFields, Stmt.mentions,
      condition.floats_toJson h.1, floats_bodyToJson body h.2]
  | .combo actions, h => by
    simp [Stmt.toJson, Json.floats, Json.floatsOfFields, Stmt.mentions,
      floats_bodyToJson actions h]
  | .champion declared, h => by
    rw [Stmt.toJson, Stmt.mentions]
    exact declared.floats_toJson h

theorem floats_bodyToJson : (ss : List Stmt) → BodyScripted ss →
    Json.floatsOfItems (bodyToJson ss) = (mentionsOfBody ss).filterMap Mention.number?
  | [], _ => rfl
  | s :: ss, h => by
    simp [bodyToJson, Json.floatsOfItems, mentionsOfBody, s.floats_toJson h.1,
      floats_bodyToJson ss h.2]

theorem floats_elseToJson : (e : Option (List Stmt)) → ElseScripted e →
    (elseToJson e).floats = (mentionsOfElse e).filterMap Mention.number?
  | none, _ => rfl
  | some body, h => by
    simp [elseToJson, Json.floats, mentionsOfElse, floats_bodyToJson body h]

theorem Handler.floats_toJson : (h : Handler) → h.IsScripted →
    h.toJson.floats = h.mentions.filterMap Mention.number?
  | ⟨event, params, body⟩, h => by
    simp [Handler.toJson, Json.floats, Json.floatsOfFields, Handler.mentions, Token.floats_toJson,
      floatsOfItems_map_toJson, floats_bodyToJson body h.2.2]

theorem floats_handlersToJson : (hs : List Handler) → HandlersScripted hs →
    Json.floatsOfItems (handlersToJson hs) = (mentionsOfHandlers hs).filterMap Mention.number?
  | [], _ => rfl
  | g :: gs, h => by
    simp [handlersToJson, Json.floatsOfItems, mentionsOfHandlers, g.floats_toJson h.1,
      floats_handlersToJson gs h.2]

theorem Champion.floats_toJson : (c : Champion) → c.IsScripted →
    c.toJson.floats = c.mentions.filterMap Mention.number?
  | ⟨name, handlers⟩, h => by
    simp [Champion.toJson, Json.floats, Json.floatsOfFields, Champion.mentions,
      Token.floats_toJson, floats_handlersToJson handlers h.2]

end

/-! ## Trees -/

theorem Value.toJson_inj {v w : Value} (hv : v.IsWritten) (hw : w.IsWritten)
    (h : v.toJson = w.toJson) : v = w := by
  cases v with
  | foreign d => exact hv.elim
  | nil =>
    cases w with
    | foreign d => exact hw.elim
    | nil => rfl
    | _ => cases h
  | boolean b =>
    cases w with
    | foreign d => exact hw.elim
    | boolean c => exact congrArg boolean (Json.bool.inj h)
    | _ => cases h
  | number x =>
    cases w with
    | foreign d => exact hw.elim
    | number y => exact congrArg number (Json.float.inj h)
    | _ => cases h
  | text s =>
    cases w with
    | foreign d => exact hw.elim
    | text t => exact congrArg text (Json.str.inj h)
    | _ => cases h

/-- A token is known from what is written of it, but for its offset. -/
theorem Token.offsetless_of_toJson {t u : Token} (ht : t.IsScanned) (hu : u.IsScanned)
    (h : t.toJson = u.toJson) :
    Relocation.offsetless.token t = Relocation.offsetless.token u := by
  simp only [toJson, Json.obj.injEq, List.cons.injEq, Prod.mk.injEq, Json.str.injEq,
    Json.int.injEq, true_and, and_true] at h
  obtain ⟨hlexeme, hline, hcolumn⟩ := h
  have hcontent := ht.content_eq hu hlexeme
  obtain ⟨kind, lexeme, literal, line, column, offset⟩ := t
  obtain ⟨kind', lexeme', literal', line', column', offset'⟩ := u
  obtain ⟨rfl, rfl, rfl⟩ : kind = kind' ∧ lexeme = lexeme' ∧ literal = literal' := by
    simpa [content] using hcontent
  obtain rfl : line = line' := hline
  obtain rfl : column = column' := hcolumn
  rfl

mutual

theorem Expr.offsetless_of_toJson : (e f : Expr) → e.IsScripted → f.IsScripted →
    e.toJson = f.toJson → e.relocate .offsetless = f.relocate .offsetless
  | .binary left operator right, f, he, hf, h => by
    cases f with
    | binary left' operator' right' =>
      simp only [Expr.toJson, Json.obj.injEq, List.cons.injEq, Prod.mk.injEq, true_and,
        and_true] at h
      rw [Expr.relocate, Expr.relocate, Token.offsetless_of_toJson he.1 hf.1 h.1,
        left.offsetless_of_toJson left' he.2.2.1 hf.2.2.1 h.2.1,
        right.offsetless_of_toJson right' he.2.2.2 hf.2.2.2 h.2.2]
    | champion _ => exact hf.elim
    | _ => simp [Expr.toJson] at h
  | .unary operator operand, f, he, hf, h => by
    cases f with
    | unary operator' operand' =>
      simp only [Expr.toJson, Json.obj.injEq, List.cons.injEq, Prod.mk.injEq, true_and,
        and_true] at h
      rw [Expr.relocate, Expr.relocate, Token.offsetless_of_toJson he.1 hf.1 h.1,
        operand.offsetless_of_toJson operand' he.2.2 hf.2.2 h.2]
    | champion _ => exact hf.elim
    | _ => simp [Expr.toJson] at h
  | .literal value line, f, he, hf, h => by
    cases f with
    | literal value' line' =>
      simp only [Expr.toJson, Json.obj.injEq, List.cons.injEq, Prod.mk.injEq, true_and,
        and_true, Json.int.injEq] at h
      rw [Value.toJson_inj he hf h.1, h.2]
    | champion _ => exact hf.elim
    | _ => simp [Expr.toJson] at h
  | .variable name, f, he, hf, h => by
    cases f with
    | «variable» name' =>
      simp only [Expr.toJson, Json.obj.injEq, List.cons.injEq, Prod.mk.injEq, true_and,
        and_true] at h
      rw [Expr.relocate, Expr.relocate, Token.offsetless_of_toJson he.1 hf.1 h]
    | champion _ => exact hf.elim
    | _ => simp [Expr.toJson] at h
  | .grouping inner, f, he, hf, h => by
    cases f with
    | grouping inner' =>
      simp only [Expr.toJson, Json.obj.injEq, List.cons.injEq, Prod.mk.injEq, true_and,
        and_true] at h
      rw [Expr.relocate, Expr.relocate, inner.offsetless_of_toJson inner' he hf h]
    | champion _ => exact hf.elim
    | _ => simp [Expr.toJson] at h
  | .call callee arguments, f, he, hf, h => by
    cases f with
    | call callee' arguments' =>
      simp only [Expr.toJson, Json.obj.injEq, List.cons.injEq, Prod.mk.injEq, true_and,
        and_true, Json.arr.injEq] at h
      rw [Expr.relocate, Expr.relocate, Token.offsetless_of_toJson he.1 hf.1 h.1,
        offsetless_of_argumentsToJson arguments arguments' he.2.2 hf.2.2 h.2]
    | champion _ => exact hf.elim
    | _ => simp [Expr.toJson] at h
  | .champion _, _, he, _, _ => he.elim

theorem offsetless_of_argumentsToJson : (es fs : List Expr) → AllScripted es → AllScripted fs →
    argumentsToJson es = argumentsToJson fs →
    relocateAll .offsetless es = relocateAll .offsetless fs
  | [], [], _, _, _ => rfl
  | [], _ :: _, _, _, h => by cases h
  | _ :: _, [], _, _, h => by cases h
  | e :: es, f :: fs, hes, hfs, h => by
    obtain ⟨hfirst, hmore⟩ := List.cons.inj h
    rw [relocateAll, relocateAll, e.offsetless_of_toJson f hes.1 hfs.1 hfirst,
      offsetless_of_argumentsToJson es fs hes.2 hfs.2 hmore]

end

theorem Champion.toJson_eq (c : Champion) :
    c.toJson = .obj [("_type", .str "champion"), ("name", c.name.toJson),
      ("handlers", .arr (handlersToJson c.handlers))] := by
  cases c
  rw [Champion.toJson]

mutual

theorem Stmt.offsetless_of_toJson : (s t : Stmt) → s.IsScripted → t.IsScripted →
    s.toJson = t.toJson → s.relocate .offsetless = t.relocate .offsetless
  | .expression value, t, hs, ht, h => by
    cases t with
    | expression value' =>
      simp only [Stmt.toJson, Json.obj.injEq, List.cons.injEq, Prod.mk.injEq, true_and,
        and_true] at h
      rw [Stmt.relocate, Stmt.relocate, value.offsetless_of_toJson value' hs ht h]
    | _ => simp [Stmt.toJson, Champion.toJson_eq] at h
  | .block statements, t, hs, ht, h => by
    cases t with
    | block statements' =>
      simp only [Stmt.toJson, Json.obj.injEq, List.cons.injEq, Prod.mk.injEq, true_and,
        and_true, Json.arr.injEq] at h
      rw [Stmt.relocate, Stmt.relocate, offsetless_of_bodyToJson statements statements' hs ht h]
    | _ => simp [Stmt.toJson, Champion.toJson_eq] at h
  | .conditional condition thenBody elseBody, t, hs, ht, h => by
    cases t with
    | conditional condition' thenBody' elseBody' =>
      simp only [Stmt.toJson, Json.obj.injEq, List.cons.injEq, Prod.mk.injEq, true_and,
        and_true, Json.arr.injEq] at h
      rw [Stmt.relocate, Stmt.relocate, condition.offsetless_of_toJson condition' hs.1 ht.1 h.1,
        offsetless_of_bodyToJson thenBody thenBody' hs.2.1 ht.2.1 h.2.1,
        offsetless_of_elseToJson elseBody elseBody' hs.2.2 ht.2.2 h.2.2]
    | _ => simp [Stmt.toJson, Champion.toJson_eq] at h
  | .loop condition body, t, hs, ht, h => by
    cases t with
    | loop condition' body' =>
      simp only [Stmt.toJson, Json.obj.injEq, List.cons.injEq, Prod.mk.injEq, true_and,
        and_true, Json.arr.injEq] at h
      rw [Stmt.relocate, Stmt.relocate, condition.offsetless_of_toJson condition' hs.1 ht.1 h.1,
        offsetless_of_bodyToJson body body' hs.2 ht.2 h.2]
    | _ => simp [Stmt.toJson, Champion.toJson_eq] at h
  | .combo actions, t, hs, ht, h => by
    cases t with
    | combo actions' =>
      simp only [Stmt.toJson, Json.obj.injEq, List.cons.injEq, Prod.mk.injEq, true_and,
        and_true, Json.arr.injEq] at h
      rw [Stmt.relocate, Stmt.relocate, offsetless_of_bodyToJson actions actions' hs ht h]
    | _ => simp [Stmt.toJson, Champion.toJson_eq] at h
  | .champion declared, t, hs, ht, h => by
    cases t with
    | champion declared' =>
      rw [Stmt.toJson, Stmt.toJson] at h
      rw [Stmt.relocate, Stmt.relocate, declared.offsetless_of_toJson declared' hs ht h]
    | _ => simp [Stmt.toJson, Champion.toJson_eq] at h

theorem offsetless_of_bodyToJson : (ss ts : List Stmt) → BodyScripted ss → BodyScripted ts →
    bodyToJson ss = bodyToJson ts → relocateBody .offsetless ss = relocateBody .offsetless ts
  | [], [], _, _, _ => rfl
  | [], _ :: _, _, _, h => by cases h
  | _ :: _, [], _, _, h => by cases h
  | s :: ss, t :: ts, hss, hts, h => by
    obtain ⟨hfirst, hmore⟩ := List.cons.inj h
    rw [relocateBody, relocateBody, s.offsetless_of_toJson t hss.1 hts.1 hfirst,
      offsetless_of_bodyToJson ss ts hss.2 hts.2 hmore]

theorem offsetless_of_elseToJson : (d e : Option (List Stmt)) → ElseScripted d → ElseScripted e →
    elseToJson d = elseToJson e → relocateElse .offsetless d = relocateElse .offsetless e
  | none, none, _, _, _ => rfl
  | none, some _, _, _, h => by cases h
  | some _, none, _, _, h => by cases h
  | some body, some body', hd, he, h => by
    rw [relocateElse, relocateElse, offsetless_of_bodyToJson body body' hd he (Json.arr.inj h)]

theorem Handler.offsetless_of_toJson : (g h : Handler) → g.IsScripted → h.IsScripted →
    g.toJson = h.toJson → g.relocate .offsetless = h.relocate .offsetless
  | ⟨event, params, body⟩, ⟨event', params', body'⟩, hg, hh, h => by
    simp only [Handler.toJson, Json.obj.injEq, List.cons.injEq, Prod.mk.injEq, true_and,
      and_true, Json.arr.injEq] at h
    have hparams := map_eq_of_map_eq (fun p hp q hq => Token.offsetless_of_toJson
      (hg.2.1 p hp).1 (hh.2.1 q hq).1) h.2.1
    rw [Handler.relocate, Handler.relocate, Token.offsetless_of_toJson hg.1.1 hh.1.1 h.1, hparams,
      offsetless_of_bodyToJson body body' hg.2.2 hh.2.2 h.2.2]

theorem offsetless_of_handlersToJson : (gs hs : List Handler) → HandlersScripted gs →
    HandlersScripted hs → handlersToJson gs = handlersToJson hs →
    relocateHandlers .offsetless gs = relocateHandlers .offsetless hs
  | [], [], _, _, _ => rfl
  | [], _ :: _, _, _, h => by cases h
  | _ :: _, [], _, _, h => by cases h
  | g :: gs, g' :: gs', hgs, hgs', h => by
    obtain ⟨hfirst, hmore⟩ := List.cons.inj h
    rw [relocateHandlers, relocateHandlers, g.offsetless_of_toJson g' hgs.1 hgs'.1 hfirst,
      offsetless_of_handlersToJson gs gs' hgs.2 hgs'.2 hmore]

theorem Champion.offsetless_of_toJson : (c d : Champion) → c.IsScripted → d.IsScripted →
    c.toJson = d.toJson → c.relocate .offsetless = d.relocate .offsetless
  | ⟨name, handlers⟩, ⟨name', handlers'⟩, hc, hd, h => by
    simp only [Champion.toJson, Json.obj.injEq, List.cons.injEq, Prod.mk.injEq, true_and,
      and_true, Json.arr.injEq] at h
    rw [Champion.relocate, Champion.relocate, Token.offsetless_of_toJson hc.1.1 hd.1.1 h.1,
      offsetless_of_handlersToJson handlers handlers' hc.2 hd.2 h.2]

end

/-! ## Whole scripts -/

/-- Scripts with the same JSON text are from files of the same name and differ at most in the
offsets of their tokens, as far as their numbers are told apart by their texts. -/
theorem serialize_loses_offsets {file file' source source' f g : String} {p q : Program}
    (hp : (Script.readProgram file source).result = some p)
    (hq : (Script.readProgram file' source').result = some q)
    (hnumbers : Json.ToldApart p.numbers q.numbers) (h : p.serialize f = q.serialize g) :
    f = g ∧ p.SameUpToOffsets q := by
  have hscripted := bodyScripted_of_readProgram hp
  have hscripted' := bodyScripted_of_readProgram hq
  have hfloats : ∀ {name : String} {r : Program}, BodyScripted r →
      (r.toJson name).floats = r.numbers := by
    intro name r hr
    simp [Program.toJson, Json.floats, Json.floatsOfFields, Program.numbers, floats_bodyToJson r hr]
  have hjson : p.toJson f = q.toJson g := by
    refine Json.compact_inj ?_ h
    rw [hfloats hscripted, hfloats hscripted']
    exact hnumbers
  simp only [Program.toJson, Json.obj.injEq, List.cons.injEq, Prod.mk.injEq, true_and, and_true,
    Json.str.injEq, Json.arr.injEq] at hjson
  exact ⟨hjson.1, offsetless_of_bodyToJson p q hscripted hscripted' hjson.2⟩

/-- A call on the second line, after an empty line. -/
@[irreducible] def afterBlank : Program :=
  (Script.readProgram "" "\nping(1, -0.5)").result.getD []

/-- The same call after a comment, so that its tokens have larger offsets. -/
@[irreducible] def afterComment : Program :=
  (Script.readProgram "" "// a\nping(1, -0.5)").result.getD []

theorem serialize_loses_offsets_after_comment :
    afterBlank.serialize "a.lsl" = afterComment.serialize "a.lsl" ∧
      afterBlank.SameUpToOffsets afterComment := by
  have hblank : (Script.readProgram "" "\nping(1, -0.5)").result = some afterBlank := by
    rw [afterBlank]
    exact Script.result_eq_some_getD (by decide +kernel)
  have hcomment : (Script.readProgram "" "// a\nping(1, -0.5)").result = some afterComment := by
    rw [afterComment]
    exact Script.result_eq_some_getD (by decide +kernel)
  have hnumbers : Json.ToldApart afterBlank.numbers afterComment.numbers := by
    rw [Json.ToldApart]
    decide +kernel
  have hsame : afterBlank.serialize "a.lsl" = afterComment.serialize "a.lsl" :=
    congrArg String.ofList (by decide +kernel)
  exact ⟨hsame, (serialize_loses_offsets hblank hcomment hnumbers hsame).2⟩

end RiftScript
