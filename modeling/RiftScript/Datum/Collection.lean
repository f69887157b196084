/-
Sets of data, and collections that are sets unless a host has made them something else.
-/
import RiftScript.Datum.Basic

namespace RiftScript

/-- A set of scalars, each listed once. -/
structure DatumSet where
  elements : List Datum
deriving Repr, Inhabited

namespace DatumSet

def empty : DatumSet := ⟨[]⟩

def insert (s : DatumSet) (d : Datum) : DatumSet :=
  if s.elements.any (·.sameKey d) then s else ⟨s.elements ++ [d]⟩

def ofList (ds : List Datum) : DatumSet :=
  ds.foldl insert empty

def hasText (s : DatumSet) (t : String) : Bool :=
  s.elements.any (·.isText t)

def eraseText (s : DatumSet) (t : String) : DatumSet :=
  ⟨s.elements.filter fun d => !d.isText t⟩

/-- The set a datum stands for. A text stands for its characters and a mapping for its keys. -/
def ofDatum (d : Datum) : Except DatumFault DatumSet :=
  if !d.truthy then .ok empty
  else
    match d with
    | .text s => .ok (ofList (s.toList.map fun c => .text (String.singleton c)))
    | .dict entries => .ok (ofList (entries.map Prod.fst))
    | .list items => if items.all Datum.isKey then .ok (ofList items) else .error .wrongType
    | .set elements => .ok ⟨elements⟩
    | _ => .error .wrongType

end DatumSet

/-- Whether some characters occur in a row. -/
def occursIn (part : List Char) : List Char → Bool
  | [] => part.isEmpty
  | c :: cs => part.isPrefixOf (c :: cs) || occursIn part cs

/-- What is kept where a set belongs. -/
inductive Collection where
  | set (s : DatumSet)
  /-- Something else that a host has put there. -/
  | other (d : Datum)
  /-- Nothing at all. -/
  | missing
deriving Repr, Inhabited

namespace Collection

def empty : Collection := set .empty

def ofDatum : Datum → Collection
  | .set elements => set ⟨elements⟩
  | d => other d

/-- Whether a text is among the elements. A text holds its parts and a mapping its keys. -/
def hasText (c : Collection) (t : String) : Except DatumFault Bool :=
  match c with
  | set s => .ok (s.hasText t)
  | other (.text s) => .ok (occursIn t.toList s.toList)
  | other (.list items) | other (.set items) => .ok (items.any (·.isText t))
  | other (.dict entries) => .ok (entries.any (·.1.isText t))
  | other _ => .error .wrongType
  | missing => .error .lacking

/-- A collection without a text. Only from a set can something be taken away. -/
def eraseText (c : Collection) (t : String) : Except DatumFault Collection :=
  match c with
  | set s => .ok (set (s.eraseText t))
  | _ => .error .lacking

end Collection
end RiftScript
