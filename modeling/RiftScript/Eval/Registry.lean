/-
The champions declared so far.

A registry keeps champions in the order in which their names were first declared. Declaring a
name again replaces the champion and keeps its place.
-/
import RiftScript.Tree.Basic

namespace RiftScript

structure Registry where
  champions : List Champion

namespace Registry

def empty : Registry := ⟨[]⟩

instance : Inhabited Registry := ⟨empty⟩

/-- Put a champion in the place of the one with the same name, or at the end. -/
def place (c : Champion) : List Champion → List Champion
  | [] => [c]
  | d :: ds => if d.key = c.key then c :: ds else d :: place c ds

def register (r : Registry) (c : Champion) : Registry :=
  ⟨place c r.champions⟩

def get? (r : Registry) (name : String) : Option Champion :=
  r.champions.find? (·.key == name)

def names (r : Registry) : List String :=
  r.champions.map Champion.key

def contains (r : Registry) (name : String) : Bool :=
  r.champions.any (·.key == name)

def size (r : Registry) : Nat :=
  r.champions.length

end Registry
end RiftScript
