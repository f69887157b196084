/-
Hosts to choose from.

A script can run without a host, in which case no name means anything; with the simulated game;
or with a host that answers from fixed tables and remembers what it was asked.
-/
import RiftScript.Game.Bindings

namespace RiftScript

/-- A question that a script put to its host. -/
inductive Question where
  | lookup (name : String)
  | call (name : String) (arguments : List Value)
deriving Repr, DecidableEq

/-- A host that answers from tables and remembers what it was asked. Names that are not in the
tables are nil, and calls are true. -/
structure Recorder where
  values : List (String × Datum) := []
  results : List (String × Datum) := []
  questions : Array Question := #[]

namespace Recorder

def lookup (name : Token) (r : Recorder) : Answer Recorder where
  reply := .ok ((r.values.lookup name.lexeme).getD .null)
  host := { r with questions := r.questions.push (.lookup name.lexeme) }

def call (callee : Token) (arguments : List Value) (r : Recorder) : Answer Recorder where
  reply := .ok ((r.results.lookup callee.lexeme).getD (.bool true))
  host := { r with questions := r.questions.push (.call callee.lexeme arguments) }

def resolver : Resolver Recorder := ⟨lookup, call⟩

end Recorder

inductive Bindings where
  | unbound
  | game (g : Game)
  | recorder (r : Recorder)

namespace Bindings

/-- No name means anything without a host. -/
def unresolved (name : Token) : Answer Bindings where
  reply := .error (.atToken name (.unresolved name.lexeme))
  host := .unbound

def lookup (name : Token) : Bindings → Answer Bindings
  | unbound => unresolved name
  | game g =>
    let a := g.lookup name
    ⟨a.reply, game a.host, a.notices⟩
  | recorder r =>
    let a := r.lookup name
    ⟨a.reply, recorder a.host, a.notices⟩

def call (callee : Token) (arguments : List Value) : Bindings → Answer Bindings
  | unbound => unresolved callee
  | game g =>
    let a := g.call callee arguments
    ⟨a.reply, game a.host, a.notices⟩
  | recorder r =>
    let a := r.call callee arguments
    ⟨a.reply, recorder a.host, a.notices⟩

def resolver : Resolver Bindings := ⟨lookup, call⟩

end Bindings
end RiftScript
