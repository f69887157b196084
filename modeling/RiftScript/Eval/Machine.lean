/-
The state in which scripts run.

Scripts have no variables of their own. Every name and every call is put to a host, which keeps a
state of its own and may answer with any data, with an error, or with notices for the outside.
`Resolver` is what running a script needs to know about the host.
-/
import RiftScript.Eval.Registry
import RiftScript.Notice

namespace RiftScript

/-- What the host gives back: data or a failure, its new state, and notices. -/
structure Answer (σ : Type) where
  reply : Except Failure Datum
  host : σ
  notices : List Notice := []

/-- How a host with states in `σ` answers for names and calls. -/
structure Resolver (σ : Type) where
  lookup : (name : Token) → σ → Answer σ
  call : (callee : Token) → (arguments : List Value) → σ → Answer σ

/-- Champions, the host and all notices so far. -/
structure Machine (σ : Type) where
  champions : Registry
  host : σ
  notices : Array Notice := #[]

namespace Machine

variable {σ : Type}

def start (host : σ) : Machine σ where
  champions := .empty
  host := host

def emit (m : Machine σ) (n : Notice) : Machine σ :=
  { m with notices := m.notices.push n }

/-- The lines of output so far. -/
def lines (m : Machine σ) : List String :=
  m.notices.toList.filterMap Notice.line?

/-- Take over what the host gave back. -/
def accept (m : Machine σ) (a : Answer σ) : Machine σ :=
  { m with host := a.host, notices := m.notices ++ a.notices }

/-- Enter a champion and say so. -/
def declare (m : Machine σ) (c : Champion) : Machine σ :=
  let replaced := m.champions.contains c.key
  { m with champions := m.champions.register c }.emit (.declared c.key replaced)

end Machine

/-- A step of a script: a result or a failure, in either case with the machine it leaves. -/
abbrev Run (σ α : Type) := EStateM Failure (Machine σ) α

namespace Run

variable {σ α : Type}

def notice (n : Notice) : Run σ Unit :=
  modify (·.emit n)

def declare (c : Champion) : Run σ Unit :=
  modify (·.declare c)

/-- A result that was computed without the machine. -/
def lift (r : Except Failure α) : Run σ α :=
  match r with
  | .ok a => pure a
  | .error f => throw f

/-- The value that data from the host stands for, asked for at a token. -/
def valueAt (token : Token) (d : Datum) : Except Failure Value :=
  match Value.ofDatum d with
  | .ok v => .ok v
  | .error .tooLarge => .error (.host .tooLarge)
  | .error _ => .error (.atToken token (.unsupportedValue d.typeName))

/-- Put a question to the host, on behalf of a token. -/
def ask (token : Token) (question : σ → Answer σ) : Run σ Value := do
  let answer := question (← get).host
  modify (·.accept answer)
  let d ← lift answer.reply
  lift (valueAt token d)

end Run
end RiftScript
