/-
The simulated game that queries read.
-/
import RiftScript.Datum.Collection

namespace RiftScript

/-- What a champion can find out about the game. Amounts and distances are floats or unknown when
they come from settings, and buffs, items and abilities are sets; a host may store other data,
which a query then may fail on. -/
structure GameState where
  health : Datum := .float 100.0
  mana : Datum := .float 100.0
  enemyDistance : Datum := .null
  allyDistance : Datum := .null
  nearestEnemy : Datum := .null
  buffs : Collection := .empty
  readyItems : Collection := .empty
  readyAbilities : Collection := .empty
deriving Repr, Inhabited

/-- Why a mapping does not describe a game state. -/
inductive StateFault where
  | unknownKey (key : String)
  | readOnly
  | datum (fault : DatumFault)
deriving Repr, DecidableEq

namespace GameState

/-- The names of the collections. -/
def collectionNames : List String := ["buffs", "ready_items", "ready_abilities"]

/-- Names that a mapping may always hold: the amounts, and names that belong to the record itself
and not to the game. -/
def fixedNames : List String :=
  ["health", "mana", "enemy_distance", "ally_distance", "nearest_enemy", "__annotations__",
    "__class__", "__dataclass_fields__", "__dataclass_params__", "__delattr__", "__dict__",
    "__dir__", "__doc__", "__eq__", "__format__", "__ge__", "__getattribute__", "__getstate__",
    "__gt__", "__hash__", "__init__", "__init_subclass__", "__le__", "__lt__", "__match_args__",
    "__module__", "__ne__", "__new__", "__reduce__", "__reduce_ex__", "__repr__", "__setattr__",
    "__sizeof__", "__str__", "__subclasshook__", "__weakref__", "from_dict"]

/-- An amount or a distance: unknown, or a number. -/
def amount : Datum → Except StateFault Datum
  | .null => .ok .null
  | d =>
    match d.toFloat with
    | .ok x => .ok (.float x)
    | .error fault => .error (.datum fault)

/-- The state with exactly these fields, taken as they are. An amount that is not among them has
its default, and a collection that is not is missing. -/
def ofFields (fields : List (Datum × Datum)) : GameState :=
  let amount (key : String) (default : Datum) := (Datum.lookup key fields).getD default
  let collection (key : String) : Collection :=
    match Datum.lookup key fields with
    | some d => .ofDatum d
    | none => .missing
  { health := amount "health" (.float 100.0)
    mana := amount "mana" (.float 100.0)
    enemyDistance := amount "enemy_distance" .null
    allyDistance := amount "ally_distance" .null
    nearestEnemy := amount "nearest_enemy" .null
    buffs := collection "buffs"
    readyItems := collection "ready_items"
    readyAbilities := collection "ready_abilities" }

/-- Put a datum into a field as it is. The name of the record's own fields replaces all of them.
Names of no field change nothing. -/
def put (s : GameState) (key : String) (d : Datum) : Except StateFault GameState :=
  match key with
  | "health" => .ok { s with health := d }
  | "mana" => .ok { s with mana := d }
  | "enemy_distance" => .ok { s with enemyDistance := d }
  | "ally_distance" => .ok { s with allyDistance := d }
  | "nearest_enemy" => .ok { s with nearestEnemy := d }
  | "buffs" => .ok { s with buffs := .ofDatum d }
  | "ready_items" => .ok { s with readyItems := .ofDatum d }
  | "ready_abilities" => .ok { s with readyAbilities := .ofDatum d }
  | "__class__" => .error (.datum .wrongType)
  | "__dict__" =>
    match d with
    | .dict fields => .ok (ofFields fields)
    | _ => .error (.datum .wrongType)
  | "__weakref__" => .error .readOnly
  | _ => .ok s

/-- A datum as a settings mapping means it for a field. -/
def meant (key : String) (d : Datum) : Except StateFault Datum :=
  match key with
  | "health" | "mana" | "enemy_distance" | "ally_distance" => amount d
  | "buffs" | "ready_items" | "ready_abilities" =>
    match DatumSet.ofDatum d with
    | .ok s => .ok (.set s.elements)
    | .error fault => .error (.datum fault)
  | _ => .ok d

/-- A state that is being read from a mapping, and the names it knows besides the fixed ones. -/
structure Draft where
  state : GameState := {}
  names : List String := collectionNames

def Draft.knows (draft : Draft) (key : String) : Bool :=
  fixedNames.contains key || draft.names.contains key

/-- The names that a draft knows once a datum is assigned. -/
def Draft.namesAfter (draft : Draft) (key : String) (d : Datum) : List String :=
  match key, d with
  | "__dict__", .dict fields => fields.filterMap fun field =>
    match field.1 with
    | .text name => some name
    | _ => none
  | _, _ => draft.names

/-- Give one field a value from a settings mapping. -/
def Draft.assign (draft : Draft) (key : String) (d : Datum) : Except StateFault Draft :=
  if draft.knows key then do
    let d ← meant key d
    return ⟨← draft.state.put key d, draft.namesAfter key d⟩
  else .error (.unknownKey key)

/-- The game state that a mapping describes. Fields that it does not name have their defaults. -/
def ofEntries (entries : List (Datum × Datum)) : Except StateFault GameState := do
  let draft ← entries.foldlM (fun (draft : Draft) entry =>
    match entry.1 with
    | .text key => draft.assign key entry.2
    | _ => .error (.datum .wrongType)) {}
  return draft.state

/-- Store a datum of a host in a field: a list becomes a set, and all else stays as it is. -/
def store (s : GameState) (key : String) (d : Datum) : Except StateFault GameState :=
  match d with
  | .list _ =>
    match DatumSet.ofDatum d with
    | .ok set => s.put key (.set set.elements)
    | .error fault => .error (.datum fault)
  | _ => s.put key d

end GameState
end RiftScript
