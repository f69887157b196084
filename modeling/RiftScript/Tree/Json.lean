/-
Trees as JSON.

Every node is an object whose first field is its kind. Tokens keep their text, line and column.
-/
import RiftScript.Diagnostic
import RiftScript.Json.Write
import RiftScript.Tree.Basic

namespace RiftScript

namespace Token

def toJson (t : Token) : Json :=
  .obj [("lexeme", .str t.lexeme), ("line", .int t.line), ("column", .int t.column)]

end Token

mutual

def Datum.toJson : Datum → Json
  | .null => .null
  | .bool b => .bool b
  | .int n => .int n
  | .float x => .float x
  | .text s => .str s
  | .list items | .set items => .arr (itemsToJson items)
  | .dict entries => .obj (entriesToJson entries)

def itemsToJson : List Datum → List Json
  | [] => []
  | d :: ds => d.toJson :: itemsToJson ds

def entriesToJson : List (Datum × Datum) → List (String × Json)
  | [] => []
  | (k, d) :: rest => (k.display, d.toJson) :: entriesToJson rest

end

def Value.toJson (v : Value) : Json :=
  v.toDatum.toJson

mutual

def Expr.toJson : Expr → Json
  | .binary left operator right =>
    .obj [("_type", .str "binary"), ("operator", operator.toJson), ("left", left.toJson),
      ("right", right.toJson)]
  | .unary operator operand =>
    .obj [("_type", .str "unary"), ("operator", operator.toJson), ("operand", operand.toJson)]
  | .literal value line =>
    .obj [("_type", .str "literal"), ("value", value.toJson), ("line", .int line)]
  | .variable name => .obj [("_type", .str "variable"), ("name", name.toJson)]
  | .grouping inner => .obj [("_type", .str "grouping"), ("expression", inner.toJson)]
  | .call callee arguments =>
    .obj [("_type", .str "call"), ("callee", callee.toJson),
      ("arguments", .arr (argumentsToJson arguments))]
  | .champion declared => declared.toJson

def argumentsToJson : List Expr → List Json
  | [] => []
  | e :: es => e.toJson :: argumentsToJson es

def Stmt.toJson : Stmt → Json
  | .expression value => .obj [("_type", .str "expression"), ("expression", value.toJson)]
  | .block statements =>
    .obj [("_type", .str "block"), ("statements", .arr (bodyToJson statements))]
  | .conditional condition thenBody elseBody =>
    .obj [("_type", .str "if"), ("condition", condition.toJson),
      ("then", .arr (bodyToJson thenBody)), ("else", elseToJson elseBody)]
  | .loop condition body =>
    .obj [("_type", .str "while"), ("condition", condition.toJson),
      ("body", .arr (bodyToJson body))]
  | .combo actions => .obj [("_type", .str "combo"), ("actions", .arr (bodyToJson actions))]
  | .champion declared => declared.toJson

def bodyToJson : List Stmt → List Json
  | [] => []
  | s :: ss => s.toJson :: bodyToJson ss

def elseToJson : Option (List Stmt) → Json
  | none => .null
  | some body => .arr (bodyToJson body)

def Handler.toJson : Handler → Json
  | ⟨event, params, body⟩ =>
    .obj [("_type", .str "event_handler"), ("event", event.toJson),
      ("params", .arr (params.map Token.toJson)), ("body", .arr (bodyToJson body))]

def Champion.toJson : Champion → Json
  | ⟨name, handlers⟩ =>
    .obj [("_type", .str "champion"), ("name", name.toJson),
      ("handlers", .arr (handlersToJson handlers))]

def handlersToJson : List Handler → List Json
  | [] => []
  | h :: hs => h.toJson :: handlersToJson hs

end

namespace Program

/-- A program as one object that also names its file. -/
def toJson (filename : String) (program : Program) : Json :=
  .obj [("_type", .str "program"), ("filename", .str filename),
    ("statements", .arr (bodyToJson program))]

/-- The JSON text of a program. -/
def serialize (filename : String) (program : Program) : String :=
  (toJson filename program).compact

end Program

namespace Diagnostic

def toJson (d : Diagnostic) : Json :=
  .obj [("line", .int d.line), ("column", .int d.column), ("end_line", .int d.endLine),
    ("end_column", .int d.endColumn), ("severity", .str d.severity.label),
    ("code", .str d.code.label), ("message", .str d.message)]

end Diagnostic

namespace Checked

def toJson (c : Checked) : Json :=
  .obj [("success", .bool c.success), ("statements", .arr (bodyToJson c.statements)),
    ("diagnostics", .arr (c.diagnostics.map Diagnostic.toJson)),
    ("errors", .arr (c.errors.map Diagnostic.toJson)),
    ("warnings", .arr (c.warnings.map Diagnostic.toJson))]

end Checked

namespace Json

/-- The fields of a node that hold other nodes. -/
def childFields : List String :=
  ["statements", "left", "right", "operand", "expression", "arguments", "handlers", "body",
    "condition", "then", "else", "actions"]

mutual

/-- The nodes of a tree given as JSON. What is not an object is no node. -/
def nodeCount : Json → Nat
  | obj fields => 1 + nodesInFields fields
  | _ => 0

def nodesInFields : List (String × Json) → Nat
  | [] => 0
  | (key, value) :: rest =>
    (if childFields.contains key then nodesInChild value else 0) + nodesInFields rest

/-- A child field holds a node or a list of nodes. -/
def nodesInChild : Json → Nat
  | obj fields => 1 + nodesInFields fields
  | arr items => nodesInItems items
  | _ => 0

def nodesInItems : List Json → Nat
  | [] => 0
  | item :: rest => item.nodeCount + nodesInItems rest

end

end Json
end RiftScript
