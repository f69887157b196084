/-
The built-in host: a simulated game.

Places stand for their own names; other names are variables. A call goes to a host function of
that name if there is one, and otherwise to the built-in actions and queries. Actions are
recorded. Casting an ability or using an item spends it.
-/
import RiftScript.Eval.Machine
import RiftScript.Game.Host

namespace RiftScript

structure Game where
  state : GameState := {}
  globals : List (String × Datum) := []
  functions : List (String × HostFunction) := []
  actions : Array ActionRecord := #[]
  /-- Whether actions are shown. -/
  announces : Bool := true

namespace Game

/-- Replace the entry of a name or add one. -/
def put {α : Type} (name : String) (a : α) : List (String × α) → List (String × α)
  | [] => [(name, a)]
  | entry :: rest => if entry.1 = name then (name, a) :: rest else entry :: put name a rest

def setVariable (g : Game) (name : String) (d : Datum) : Game :=
  { g with globals := put name d g.globals }

def register (g : Game) (name : String) (f : HostFunction) : Game :=
  { g with functions := put name f g.functions }

def answer (g : Game) (d : Datum) : Answer Game where
  reply := .ok d
  host := g

def refuse (g : Game) (token : Token) (cause : RuntimeCause) : Answer Game where
  reply := .error (.atToken token cause)
  host := g

def lookup (name : Token) (g : Game) : Answer Game :=
  if name.kind.isPlace then g.answer (.text name.lexeme)
  else
    match g.globals.lookup name.lexeme with
    | some d => g.answer d
    | none => g.refuse name (.undefinedVariable name.lexeme)

/-- Call a host function. What it returns has to be a value, and a call that it aborts ends the
run. -/
def callHost (g : Game) (callee : Token) (f : HostFunction) (arguments : List Value) :
    Answer Game :=
  let step := f.step f.memory arguments g.state
  let next := { g.register callee.lexeme { f with memory := step.memory } with
    state := step.state }
  match step.reply with
  | .value d =>
    { reply := (Run.valueAt callee d).map Value.toDatum
      host := next }
  | .scriptError message =>
    { reply := .error (.script ⟨none, .raised message⟩)
      host := next }
  | .failure message => next.refuse callee (.hostFailed message)
  | .abort =>
    { reply := .error .aborted
      host := next }

/-- What an action does to the game: an ability that is cast and an item that is used are no
longer ready. -/
def spend (state : GameState) (action : Action) (arguments : List Value) :
    Except DatumFault GameState :=
  match action, arguments with
  | .cast, .text name :: _ => do
    return { state with readyAbilities := ← state.readyAbilities.eraseText name }
  | .useItem, .text name :: _ => do
    return { state with readyItems := ← state.readyItems.eraseText name }
  | _, _ => .ok state

/-- Record an action, show it and perform it. Foreign arguments cannot be shown, and nothing is
spent if the host keeps no set to take it from. -/
def perform (g : Game) (callee : Token) (action : Action) (arguments : List Value) :
    Answer Game :=
  let record : ActionRecord := ⟨callee.lexeme, arguments, callee.line⟩
  let recorded := { g with actions := g.actions.push record }
  if g.announces && arguments.any Value.isForeign then
    { reply := .error (.host .wrongType)
      host := recorded }
  else
    let notices := [Notice.action record g.announces]
    match spend g.state action arguments with
    | .ok state =>
      { reply := .ok .null
        host := { recorded with state := state }
        notices := notices }
    | .error fault =>
      { reply := .error (.host fault)
        host := recorded
        notices := notices }

/-- A query without arguments. -/
def plainQuery (g : Game) (callee : Token) (arguments : List Value) (d : Datum) : Answer Game :=
  if arguments.isEmpty then g.answer d
  else g.refuse callee (.wrongArity 0 arguments.length)

/-- A query about a number. -/
def numberQuery (g : Game) (callee : Token) (arguments : List Value)
    (query : Float → Except Failure Bool) : Answer Game :=
  match arguments with
  | [.number x] =>
    { reply := (query x).map Datum.bool
      host := g }
  | [v] => g.refuse callee (.numberExpected v.kindName)
  | _ => g.refuse callee (.wrongArity 1 arguments.length)

/-- A query about a text. -/
def textQuery (g : Game) (callee : Token) (arguments : List Value)
    (query : String → Except DatumFault Bool) : Answer Game :=
  match arguments with
  | [.text s] =>
    { reply := (query s).mapError Failure.host |>.map Datum.bool
      host := g }
  | [v] => g.refuse callee (.textExpected v.kindName)
  | _ => g.refuse callee (.wrongArity 1 arguments.length)

/-- Whether a distance is known and at most `limit`. -/
def within (distance : Datum) (limit : Float) : Except Failure Bool :=
  match distance with
  | .null => .ok false
  | .float x => .ok (decide (x ≤ limit))
  | d =>
    match d.int? with
    | some n => .ok (Number.intLe n limit)
    | none => .error (.host .wrongType)

def query (g : Game) (callee : Token) (arguments : List Value) : Query → Answer Game
  | .getHealth => g.plainQuery callee arguments g.state.health
  | .getMana => g.plainQuery callee arguments g.state.mana
  | .nearestEnemy => g.plainQuery callee arguments g.state.nearestEnemy
  | .enemyInRange => g.numberQuery callee arguments (within g.state.enemyDistance)
  | .allyInRange => g.numberQuery callee arguments (within g.state.allyDistance)
  | .hasBuff => g.textQuery callee arguments g.state.buffs.hasText
  | .itemReady => g.textQuery callee arguments g.state.readyItems.hasText
  | .cooldownReady => g.textQuery callee arguments g.state.readyAbilities.hasText

def call (callee : Token) (arguments : List Value) (g : Game) : Answer Game :=
  match g.functions.lookup callee.lexeme with
  | some f => g.callHost callee f arguments
  | none =>
    match callee.kind with
    | .action a => g.perform callee a arguments
    | .query q => g.query callee arguments q
    | _ => g.refuse callee (.undefinedFunction callee.lexeme)

/-- The game as a host. -/
def resolver : Resolver Game := ⟨lookup, call⟩

end Game
end RiftScript
