/-
The nodes of a script are counted right.

The count is taken from JSON: it follows the fields that hold nodes, by their names. Each kind of
node is written with fields of its own, so it has to be seen kind by kind that these names are the
right ones. What stands in for a float does not matter for the count, so nothing is assumed about
the texts of numbers.
-/
import RiftScript.Proofs.Trees.Reading

namespace RiftScript

/-! ## Nodes of a tree -/

mutual

/-- The expressions, statements and handlers of a tree, at any depth and the tree itself included. -/
def Expr.nodes : Expr → Nat
  | .binary left _ right => 1 + left.nodes + right.nodes
  | .unary _ operand => 1 + operand.nodes
  | .literal _ _ => 1
  | .variable _ => 1
  | .grouping inner => 1 + inner.nodes
  | .call _ arguments => 1 + nodesOfAll arguments
  | .champion declared => declared.nodes

def nodesOfAll : List Expr → Nat
  | [] => 0
  | e :: es => e.nodes + nodesOfAll es

def Stmt.nodes : Stmt → Nat
  | .expression value => 1 + value.nodes
  | .block statements => 1 + nodesOfBody statements
  | .conditional condition thenBody elseBody =>
    1 + condition.nodes + nodesOfBody thenBody + nodesOfElse elseBody
  | .loop condition body => 1 + condition.nodes + nodesOfBody body
  | .combo actions => 1 + nodesOfBody actions
  | .champion declared => declared.nodes

def nodesOfBody : List Stmt → Nat
  | [] => 0
  | s :: ss => s.nodes + nodesOfBody ss

def nodesOfElse : Option (List Stmt) → Nat
  | none => 0
  | some body => nodesOfBody body

def Handler.nodes : Handler → Nat
  | ⟨_, _, body⟩ => 1 + nodesOfBody body

def nodesOfHandlers : List Handler → Nat
  | [] => 0
  | h :: hs => h.nodes + nodesOfHandlers hs

def Champion.nodes : Champion → Nat
  | ⟨_, handlers⟩ => 1 + nodesOfHandlers handlers

end

/-! ## Counting does not look at floats -/

namespace Json

mutual

theorem nodeCount_mapFloats (f : Float → Float) : (j : Json) →
    (j.mapFloats f).nodeCount = j.nodeCount
  | obj fields => congrArg (1 + ·) (nodesInFields_mapFloats f fields)
  | null => rfl
  | bool _ => rfl
  | int _ => rfl
  | float _ => rfl
  | str _ => rfl
  | arr _ => rfl

theorem nodesInFields_mapFloats (f : Float → Float) : (fields : List (String × Json)) →
    nodesInFields (mapFloatsOfFields f fields) = nodesInFields fields
  | [] => rfl
  | (key, j) :: fields => by
    rw [mapFloatsOfFields, nodesInFields, nodesInFields, nodesInChild_mapFloats f j,
      nodesInFields_mapFloats f fields]

theorem nodesInChild_mapFloats (f : Float → Float) : (j : Json) →
    nodesInChild (j.mapFloats f) = nodesInChild j
  | obj fields => congrArg (1 + ·) (nodesInFields_mapFloats f fields)
  | arr items => nodesInItems_mapFloats f items
  | null => rfl
  | bool _ => rfl
  | int _ => rfl
  | float _ => rfl
  | str _ => rfl

theorem nodesInItems_mapFloats (f : Float → Float) : (js : List Json) →
    nodesInItems (mapFloatsOfItems f js) = nodesInItems js
  | [] => rfl
  | j :: js => by
    rw [mapFloatsOfItems, nodesInItems, nodesInItems, nodeCount_mapFloats f j,
      nodesInItems_mapFloats f js]

end

end Json

/-! ## Trees -/

theorem Champion.nodesInChild_toJson (c : Champion) :
    Json.nodesInChild c.toJson = c.toJson.nodeCount := by
  cases c
  rfl

theorem Expr.nodesInChild_toJson (e : Expr) :
    Json.nodesInChild e.toJson = e.toJson.nodeCount := by
  cases e with
  | champion declared => exact declared.nodesInChild_toJson
  | _ => rfl

mutual

theorem Expr.nodeCount_toJson : (e : Expr) → e.toJson.nodeCount = e.nodes
  | .binary left operator right => by
    simp [Expr.toJson, Json.nodeCount, Json.nodesInFields, Json.childFields,
      Expr.nodesInChild_toJson, left.nodeCount_toJson, right.nodeCount_toJson, Expr.nodes,
      Nat.add_assoc]
  | .unary operator operand => by
    simp [Expr.toJson, Json.nodeCount, Json.nodesInFields, Json.childFields,
      Expr.nodesInChild_toJson, operand.nodeCount_toJson, Expr.nodes]
  | .literal value line => by
    simp [Expr.toJson, Json.nodeCount, Json.nodesInFields, Json.childFields, Expr.nodes]
  | .variable name => by
    simp [Expr.toJson, Json.nodeCount, Json.nodesInFields, Json.childFields, Expr.nodes]
  | .grouping inner => by
    simp [Expr.toJson, Json.nodeCount, Json.nodesInFields, Json.childFields,
      Expr.nodesInChild_toJson, inner.nodeCount_toJson, Expr.nodes]
  | .call callee arguments => by
    simp [Expr.toJson, Json.nodeCount, Json.nodesInFields, Json.childFields, Json.nodesInChild,
      nodesInItems_argumentsToJson arguments, Expr.nodes]
  | .champion declared => by
    rw [Expr.toJson, Expr.nodes]
    exact declared.nodeCount_toJson

theorem nodesInItems_argumentsToJson : (es : List Expr) →
    Json.nodesInItems (argumentsToJson es) = nodesOfAll es
  | [] => rfl
  | e :: es => by
    rw [argumentsToJson, Json.nodesInItems, e.nodeCount_toJson, nodesInItems_argumentsToJson es,
      nodesOfAll]

theorem Stmt.nodeCount_toJson : (s : Stmt) → s.toJson.nodeCount = s.nodes
  | .expression value => by
    simp [Stmt.toJson, Json.nodeCount, Json.nodesInFields, Json.childFields,
      Expr.nodesInChild_toJson, value.nodeCount_toJson, Stmt.nodes]
  | .block statements => by
    simp [Stmt.toJson, Json.nodeCount, Json.nodesInFields, Json.childFields, Json.nodesInChild,
      nodesInItems_bodyToJson statements, Stmt.nodes]
  | .conditional condition thenBody elseBody => by
    simp [Stmt.toJson, Json.nodeCount, Json.nodesInFields, Json.childFields, Json.nodesInChild,
      Expr.nodesInChild_toJson, condition.nodeCount_toJson, nodesInItems_bodyToJson thenBody,
      nodesInChild_elseToJson elseBody, Stmt.nodes, Nat.add_assoc]
  | .loop condition body => by
    simp [Stmt.toJson, Json.nodeCount, Json.nodesInFields, Json.childFields, Json.nodesInChild,
      Expr.nodesInChild_toJson, condition.nodeCount_toJson, nodesInItems_bodyToJson body,
      Stmt.nodes, Nat.add_assoc]
  | .combo actions => by
    simp [Stmt.toJson, Json.nodeCount, Json.nodesInFields, Json.childFields, Json.nodesInChild,
      nodesInItems_bodyToJson actions, Stmt.nodes]
  | .champion declared => by
    rw [Stmt.toJson, Stmt.nodes]
    exact declared.nodeCount_toJson

theorem nodesInItems_bodyToJson : (ss : List Stmt) →
    Json.nodesInItems (bodyToJson ss) = nodesOfBody ss
  | [] => rfl
  | s :: ss => by
    rw [bodyToJson, Json.nodesInItems, s.nodeCount_toJson, nodesInItems_bodyToJson ss, nodesOfBody]

/-- An absent branch is written as null, which is no node. -/
theorem nodesInChild_elseToJson : (e : Option (List Stmt)) →
    Json.nodesInChild (elseToJson e) = nodesOfElse e
  | none => rfl
  | some body => nodesInItems_bodyToJson body

theorem Handler.nodeCount_toJson : (h : Handler) → h.toJson.nodeCount = h.nodes
  | ⟨event, params, body⟩ => by
    simp [Handler.toJson, Json.nodeCount, Json.nodesInFields, Json.childFields, Json.nodesInChild,
      nodesInItems_bodyToJson body, Handler.nodes]

theorem nodesInItems_handlersToJson : (hs : List Handler) →
    Json.nodesInItems (handlersToJson hs) = nodesOfHandlers hs
  | [] => rfl
  | h :: hs => by
    rw [handlersToJson, Json.nodesInItems, h.nodeCount_toJson, nodesInItems_handlersToJson hs,
      nodesOfHandlers]

theorem Champion.nodeCount_toJson : (c : Champion) → c.toJson.nodeCount = c.nodes
  | ⟨name, handlers⟩ => by
    simp [Champion.toJson, Json.nodeCount, Json.nodesInFields, Json.childFields, Json.nodesInChild,
      nodesInItems_handlersToJson handlers, Champion.nodes]

end

theorem Program.nodeCount_toJson (f : String) (p : Program) :
    (p.toJson f).nodeCount = 1 + nodesOfBody p := by
  simp [Program.toJson, Json.nodeCount, Json.nodesInFields, Json.childFields, Json.nodesInChild,
    nodesInItems_bodyToJson p]

/-! ## Whole scripts -/

/-- The nodes counted in the bytes of the JSON text of a script are those of the script and the
root. -/
theorem serialize_keeps_count {file source : String} {p : Program} (f : String)
    (hp : (Script.readProgram file source).result = some p) :
    ((String.fromUTF8? (p.serialize f).toUTF8).bind Json.parse?).map Json.nodeCount =
      some (1 + nodesOfBody p) := by
  have hscripted := bodyScripted_of_readProgram hp
  rw [fromUTF8?_toUTF8, Option.bind_some, p.parse?_serialize hscripted f, Option.map_some,
    Json.nodeCount_mapFloats, p.nodeCount_toJson]

/-- A script with a node of every kind. -/
def kitingSource : String :=
  r#"champion Ashe { onAttack(x) { if (a > -1) { { ping(("b")); } }"# ++
    r" else { while (false) { combo { cast() } } } } }"

@[irreducible] def kiting : Program :=
  (Script.readProgram "" kitingSource).result.getD []

theorem serialize_keeps_count_every_kind :
    ((String.fromUTF8? (kiting.serialize "kiting.lsl").toUTF8).bind Json.parse?).map
      Json.nodeCount = some 18 := by
  have hread : (Script.readProgram "" kitingSource).result = some kiting := by
    unfold kiting
    exact Script.result_eq_some_getD (by decide +kernel)
  have hnodes : 1 + nodesOfBody kiting = 18 := by decide +kernel
  rw [serialize_keeps_count "kiting.lsl" hread, hnodes]

end RiftScript
