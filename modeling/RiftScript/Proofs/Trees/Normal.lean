/-
Trees without groupings and nested blocks.

A grouping only shows how an expression is to be read, a combo is a block, and a block that stands
in a body does what its statements would do in its place. A normal tree has none of these, except
for blocks at the top level, each of which is a statement of its own that an error ends. Every tree
can be made normal, and normal trees stay as they are.
-/
import RiftScript.Eval.Registry

namespace RiftScript

/-- The statements to put in the place of a statement of a body. -/
def Stmt.spliced : Stmt → List Stmt
  | .block statements => statements
  | s => [s]

def Stmt.isBlock : Stmt → Bool
  | .block _ => true
  | _ => false

mutual

def Expr.normalize : Expr → Expr
  | .binary left operator right => .binary left.normalize operator right.normalize
  | .unary operator operand => .unary operator operand.normalize
  | .literal value line => .literal value line
  | .variable name => .variable name
  | .grouping inner => inner.normalize
  | .call callee arguments => .call callee (normalizeAll arguments)
  | .champion declared => .champion declared.normalize

def normalizeAll : List Expr → List Expr
  | [] => []
  | e :: es => e.normalize :: normalizeAll es

def Stmt.normalize : Stmt → Stmt
  | .expression value => .expression value.normalize
  | .block statements => .block (normalizeBody statements)
  | .conditional condition thenBody elseBody =>
    .conditional condition.normalize (normalizeBody thenBody) (normalizeElse elseBody)
  | .loop condition body => .loop condition.normalize (normalizeBody body)
  | .combo actions => .block (normalizeBody actions)
  | .champion declared => .champion declared.normalize

/-- Blocks give way to their statements. -/
def normalizeBody : List Stmt → List Stmt
  | [] => []
  | s :: ss => s.normalize.spliced ++ normalizeBody ss

def normalizeElse : Option (List Stmt) → Option (List Stmt)
  | none => none
  | some body => some (normalizeBody body)

def Handler.normalize : Handler → Handler
  | ⟨event, params, body⟩ => ⟨event, params, normalizeBody body⟩

def normalizeHandlers : List Handler → List Handler
  | [] => []
  | h :: hs => h.normalize :: normalizeHandlers hs

def Champion.normalize : Champion → Champion
  | ⟨name, handlers⟩ => ⟨name, normalizeHandlers handlers⟩

end

/-- The statements of the top level stay apart. -/
def Program.normalize (p : Program) : Program :=
  p.map Stmt.normalize

def Registry.normalize (r : Registry) : Registry :=
  ⟨r.champions.map Champion.normalize⟩

/-! ## Normal trees -/

mutual

/-- There are no groupings and no combos, and no blocks in bodies. -/
def Expr.IsNormal : Expr → Prop
  | .binary left _ right => left.IsNormal ∧ right.IsNormal
  | .unary _ operand => operand.IsNormal
  | .literal _ _ | .variable _ => True
  | .grouping _ => False
  | .call _ arguments => AllNormal arguments
  | .champion declared => declared.IsNormal

def AllNormal : List Expr → Prop
  | [] => True
  | e :: es => e.IsNormal ∧ AllNormal es

def Stmt.IsNormal : Stmt → Prop
  | .expression value => value.IsNormal
  | .block statements => BodyNormal statements
  | .conditional condition thenBody elseBody =>
    condition.IsNormal ∧ BodyNormal thenBody ∧ ElseNormal elseBody
  | .loop condition body => condition.IsNormal ∧ BodyNormal body
  | .combo _ => False
  | .champion declared => declared.IsNormal

def BodyNormal : List Stmt → Prop
  | [] => True
  | s :: ss => (s.isBlock = false ∧ s.IsNormal) ∧ BodyNormal ss

def ElseNormal : Option (List Stmt) → Prop
  | none => True
  | some body => BodyNormal body

def Handler.IsNormal : Handler → Prop
  | ⟨_, _, body⟩ => BodyNormal body

def HandlersNormal : List Handler → Prop
  | [] => True
  | h :: hs => h.IsNormal ∧ HandlersNormal hs

def Champion.IsNormal : Champion → Prop
  | ⟨_, handlers⟩ => HandlersNormal handlers

end

def Program.IsNormal (p : Program) : Prop :=
  ∀ s ∈ p, s.IsNormal

theorem bodyNormal_append {ss ts : List Stmt} (hss : BodyNormal ss) (hts : BodyNormal ts) :
    BodyNormal (ss ++ ts) := by
  induction ss with
  | nil => exact hts
  | cons s ss ih => exact ⟨hss.1, ih hss.2⟩

theorem Stmt.bodyNormal_spliced {s : Stmt} (h : s.IsNormal) : BodyNormal s.spliced := by
  cases s with
  | block statements => exact h
  | _ => exact ⟨⟨rfl, h⟩, trivial⟩

mutual

theorem Expr.isNormal_normalize : (e : Expr) → e.normalize.IsNormal
  | .binary left _ right => ⟨left.isNormal_normalize, right.isNormal_normalize⟩
  | .unary _ operand => operand.isNormal_normalize
  | .literal _ _ => trivial
  | .variable _ => trivial
  | .grouping inner => inner.isNormal_normalize
  | .call _ arguments => allNormal_normalizeAll arguments
  | .champion declared => declared.isNormal_normalize

theorem allNormal_normalizeAll : (es : List Expr) → AllNormal (normalizeAll es)
  | [] => trivial
  | e :: es => ⟨e.isNormal_normalize, allNormal_normalizeAll es⟩

theorem Stmt.isNormal_normalize : (s : Stmt) → s.normalize.IsNormal
  | .expression value => value.isNormal_normalize
  | .block statements => bodyNormal_normalizeBody statements
  | .conditional condition thenBody elseBody =>
    ⟨condition.isNormal_normalize, bodyNormal_normalizeBody thenBody,
      elseNormal_normalizeElse elseBody⟩
  | .loop condition body => ⟨condition.isNormal_normalize, bodyNormal_normalizeBody body⟩
  | .combo actions => bodyNormal_normalizeBody actions
  | .champion declared => declared.isNormal_normalize

theorem bodyNormal_normalizeBody : (ss : List Stmt) → BodyNormal (normalizeBody ss)
  | [] => trivial
  | s :: ss =>
    bodyNormal_append (Stmt.bodyNormal_spliced s.isNormal_normalize) (bodyNormal_normalizeBody ss)

theorem elseNormal_normalizeElse : (e : Option (List Stmt)) → ElseNormal (normalizeElse e)
  | none => trivial
  | some body => bodyNormal_normalizeBody body

theorem Handler.isNormal_normalize : (h : Handler) → h.normalize.IsNormal
  | ⟨_, _, body⟩ => bodyNormal_normalizeBody body

theorem handlersNormal_normalizeHandlers : (hs : List Handler) →
    HandlersNormal (normalizeHandlers hs)
  | [] => trivial
  | h :: hs => ⟨h.isNormal_normalize, handlersNormal_normalizeHandlers hs⟩

theorem Champion.isNormal_normalize : (c : Champion) → c.normalize.IsNormal
  | ⟨_, handlers⟩ => handlersNormal_normalizeHandlers handlers

end

theorem Program.isNormal_normalize (p : Program) : p.normalize.IsNormal := by
  intro s hs
  obtain ⟨t, _, rfl⟩ := List.mem_map.mp hs
  exact t.isNormal_normalize

mutual

theorem Expr.normalize_of_isNormal : (e : Expr) → e.IsNormal → e.normalize = e
  | .binary left _ right, h => by
    rw [Expr.normalize, left.normalize_of_isNormal h.1, right.normalize_of_isNormal h.2]
  | .unary _ operand, h => by rw [Expr.normalize, operand.normalize_of_isNormal h]
  | .literal _ _, _ => rfl
  | .variable _, _ => rfl
  | .grouping _, h => h.elim
  | .call _ arguments, h => by rw [Expr.normalize, normalizeAll_of_allNormal arguments h]
  | .champion declared, h => by rw [Expr.normalize, declared.normalize_of_isNormal h]

theorem normalizeAll_of_allNormal : (es : List Expr) → AllNormal es → normalizeAll es = es
  | [], _ => rfl
  | e :: es, h => by
    rw [normalizeAll, e.normalize_of_isNormal h.1, normalizeAll_of_allNormal es h.2]

theorem Stmt.normalize_of_isNormal : (s : Stmt) → s.IsNormal → s.normalize = s
  | .expression value, h => by rw [Stmt.normalize, value.normalize_of_isNormal h]
  | .block statements, h => by rw [Stmt.normalize, normalizeBody_of_bodyNormal statements h]
  | .conditional condition thenBody elseBody, h => by
    rw [Stmt.normalize, condition.normalize_of_isNormal h.1,
      normalizeBody_of_bodyNormal thenBody h.2.1, normalizeElse_of_elseNormal elseBody h.2.2]
  | .loop condition body, h => by
    rw [Stmt.normalize, condition.normalize_of_isNormal h.1, normalizeBody_of_bodyNormal body h.2]
  | .combo _, h => h.elim
  | .champion declared, h => by rw [Stmt.normalize, declared.normalize_of_isNormal h]

theorem normalizeBody_of_bodyNormal : (ss : List Stmt) → BodyNormal ss → normalizeBody ss = ss
  | [], _ => rfl
  | s :: ss, h => by
    have hspliced : s.spliced = [s] := by
      cases s with
      | block statements => cases h.1.1
      | _ => rfl
    rw [normalizeBody, s.normalize_of_isNormal h.1.2, hspliced,
      normalizeBody_of_bodyNormal ss h.2]
    rfl

theorem normalizeElse_of_elseNormal : (e : Option (List Stmt)) → ElseNormal e →
    normalizeElse e = e
  | none, _ => rfl
  | some body, h => by rw [normalizeElse, normalizeBody_of_bodyNormal body h]

theorem Handler.normalize_of_isNormal : (h : Handler) → h.IsNormal → h.normalize = h
  | ⟨_, _, body⟩, h => by rw [Handler.normalize, normalizeBody_of_bodyNormal body h]

theorem normalizeHandlers_of_handlersNormal : (hs : List Handler) → HandlersNormal hs →
    normalizeHandlers hs = hs
  | [], _ => rfl
  | g :: gs, h => by
    rw [normalizeHandlers, g.normalize_of_isNormal h.1, normalizeHandlers_of_handlersNormal gs h.2]

theorem Champion.normalize_of_isNormal : (c : Champion) → c.IsNormal → c.normalize = c
  | ⟨_, handlers⟩, h => by
    rw [Champion.normalize, normalizeHandlers_of_handlersNormal handlers h]

end

theorem Champion.normalize_normalize (c : Champion) : c.normalize.normalize = c.normalize :=
  c.normalize.normalize_of_isNormal c.isNormal_normalize

/-! ## Champions and their handlers -/

theorem Champion.key_normalize (c : Champion) : c.normalize.key = c.key := by
  cases c
  rw [normalize]
  rfl

theorem Handler.eventName_normalize (h : Handler) : h.normalize.eventName = h.eventName := by
  cases h
  rw [normalize]
  rfl

theorem normalizeHandlers_eq (hs : List Handler) :
    normalizeHandlers hs = hs.map Handler.normalize := by
  induction hs with
  | nil => rfl
  | cons h hs ih => rw [normalizeHandlers, ih, List.map_cons]

theorem Champion.handlersFor_normalize (c : Champion) (event : String) :
    c.normalize.handlersFor event = (c.handlersFor event).map Handler.normalize := by
  obtain ⟨name, handlers⟩ := c
  rw [normalize, handlersFor, normalizeHandlers_eq, List.filter_map, handlersFor]
  refine congrArg (List.map Handler.normalize) (List.filter_congr fun h _ => ?_)
  rw [Function.comp_apply, h.eventName_normalize]

namespace Registry

theorem place_map_normalize (c : Champion) (ds : List Champion) :
    (place c ds).map Champion.normalize = place c.normalize (ds.map Champion.normalize) := by
  induction ds with
  | nil => rfl
  | cons d ds ih =>
    rw [List.map_cons, place, place, d.key_normalize, c.key_normalize]
    split
    · rfl
    · rw [List.map_cons, ih]

theorem normalize_register (r : Registry) (c : Champion) :
    (r.register c).normalize = r.normalize.register c.normalize := by
  rw [register, normalize, place_map_normalize]
  rfl

theorem key_comp_normalize (name : String) :
    (fun c : Champion => c.key == name) ∘ Champion.normalize = fun c => c.key == name := by
  funext c
  rw [Function.comp_apply, c.key_normalize]

theorem get?_normalize (r : Registry) (name : String) :
    r.normalize.get? name = (r.get? name).map Champion.normalize := by
  rw [get?, normalize, List.find?_map, key_comp_normalize, get?]

theorem contains_normalize (r : Registry) (name : String) :
    r.normalize.contains name = r.contains name := by
  rw [contains, normalize, List.any_map, key_comp_normalize, contains]

end Registry
end RiftScript
