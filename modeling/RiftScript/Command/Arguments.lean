/-
Command line arguments.

Arguments are first told apart: options, separators and plain arguments. Then options take the
plain arguments that follow them, and what is left goes to the positional argument. A long option
may be shortened as long as it stays unambiguous, short ones may be joined, and an option that is
not known is set aside. Everything taken is listed in order, so that the first option that ends
the program does so even if something is wrong further on.
-/
import RiftScript.Text.Digit
import RiftScript.Text.Quoted

namespace RiftScript
namespace Arguments

/-- An option: its spellings, how many arguments it takes, and what it is. -/
structure Flag (α : Type) where
  names : List String
  arity : Nat
  tag : α

/-- What a command expects besides options. -/
inductive Positional where
  | nothing
  | one (name : String)
  /-- A word that selects a command, and everything after it. -/
  | command

structure Grammar (α : Type) where
  flags : List (Flag α)
  positional : Positional

/-- Something taken from the command line. -/
inductive Taken (α : Type) where
  | flag (tag : α) (arguments : List String)
  | positional (arguments : List String)

/-- An option as it was spelled. What follows it in the same argument is joined to it directly or
by an equals sign. -/
structure Spelled (α : Type) where
  flag : Flag α
  name : String
  joined : Option (Bool × String)

/-- What an argument is. An option that is not known has no meaning here. -/
inductive Mark (α : Type) where
  | plain
  | separator
  | flag (meaning : Option (Spelled α))

variable {α : Type}

namespace Flag

/-- An option in messages. -/
def display (f : Flag α) : String :=
  "/".intercalate f.names

def arityMessage (f : Flag α) : String :=
  let expected := if f.arity = 1 then "one argument" else s!"{f.arity} arguments"
  s!"argument {f.display}: expected {expected}"

def ignoredMessage (f : Flag α) (argument : String) : String :=
  s!"argument {f.display}: ignored explicit argument {Text.quoted argument}"

end Flag

namespace Grammar

/-- The spellings of all options, in order. -/
def spellings (g : Grammar α) : List (String × Flag α) :=
  g.flags.flatMap fun o => o.names.map (·, o)

def find? (g : Grammar α) (name : String) : Option (Flag α) :=
  g.spellings.lookup name

/-- Text up to the first equals sign, and after it if there is one. -/
def splitEqual (s : String) : String × Option String :=
  let front := s.toList.takeWhile (· != '=')
  match s.toList.drop front.length with
  | [] => (s, none)
  | _ :: rest => (String.ofList front, some (String.ofList rest))

/-- The options that an argument may be short for. -/
def matching (g : Grammar α) (s : String) : List (Spelled α) :=
  if s.startsWith "--" then
    let (front, value) := splitEqual s
    g.spellings.filterMap fun (name, o) =>
      if name.startsWith front then some ⟨o, name, value.map (true, ·)⟩ else none
  else
    let short := String.ofList (s.toList.take 2)
    let rest := String.ofList (s.toList.drop 2)
    g.spellings.filterMap fun (name, o) =>
      if name = short then some ⟨o, name, some (false, rest)⟩
      else if name.startsWith s then some ⟨o, name, none⟩
      else none

end Grammar

def isDigit (c : Char) : Bool :=
  (Text.digitValue? c).isSome

/-- Whether an argument looks like a negative number and so is no option. -/
def looksNegative (s : String) : Bool :=
  match s.toList with
  | '-' :: cs =>
    let cs := if cs.getLast? = some '\n' then cs.dropLast else cs
    let rest := cs.dropWhile isDigit
    match rest with
    | [] => !cs.isEmpty
    | '.' :: fraction => !fraction.isEmpty && fraction.all isDigit
    | _ => false
  | _ => false

/-- What an argument is, or that it could be short for several options. -/
def mark (g : Grammar α) (s : String) : Except String (Mark α) :=
  if !s.startsWith "-" then .ok .plain
  else
    match g.find? s with
    | some o => .ok (.flag (some ⟨o, s, none⟩))
    | none =>
      if s.length = 1 then .ok .plain
      else
        let (front, value) := Grammar.splitEqual s
        match value, g.find? front with
        | some v, some o => .ok (.flag (some ⟨o, front, some (true, v)⟩))
        | _, _ =>
          match g.matching s with
          | [] => .ok (if looksNegative s || s.contains ' ' then .plain else .flag none)
          | [m] => .ok (.flag (some m))
          | ms =>
            let names := ", ".intercalate (ms.map Spelled.name)
            .error s!"ambiguous option: {s} could match {names}"

/-- An argument and what it is. -/
abbrev Marked (α : Type) := String × Mark α

/-- Tell the arguments apart. After a separator all of them are plain. -/
def markAll (g : Grammar α) : List String → Except String (List (Marked α))
  | [] => .ok []
  | s :: rest =>
    if s = "--" then .ok ((s, .separator) :: rest.map (·, .plain))
    else do
      let m ← mark g s
      return (s, m) :: (← markAll g rest)

namespace Mark

def isFlag : Mark α → Bool
  | flag _ => true
  | _ => false

def isPlain : Mark α → Bool
  | plain => true
  | _ => false

def isSeparator : Mark α → Bool
  | separator => true
  | _ => false

end Mark

/-- How many of the arguments ahead the positional argument takes, if it can be taken. -/
def positionalCount (p : Positional) (ahead : List (Marked α)) : Option Nat :=
  let separators := (ahead.takeWhile (·.2.isSeparator)).length
  match ahead.drop separators with
  | (_, .plain) :: rest =>
    match p with
    | .nothing => none
    | .one _ => some (separators + 1 + (rest.takeWhile (·.2.isSeparator)).length)
    | .command => some ahead.length
  | _ => none

/-- The arguments themselves. A separator in front of the positional argument or behind it does
not belong to it; a command passes separators on. -/
def positionalArguments (p : Positional) (taken : List (Marked α)) : List String :=
  let arguments := taken.map Prod.fst
  match p with
  | .command => arguments
  | _ => arguments.erase "--"

/-- What an option came to: the options taken, what was set aside, and how many of the arguments
ahead were used. -/
structure Consumed (α : Type) where
  taken : List (Taken α)
  aside : List String
  used : Nat

/-- A flag that takes the arguments ahead of it. -/
def separateFlag (f : Flag α) (ahead : List (Marked α)) : Except String (Consumed α) :=
  let arguments := ahead.take f.arity
  if arguments.length = f.arity ∧ arguments.all (·.2.isPlain) then
    .ok ⟨[.flag f.tag (arguments.map Prod.fst)], [], f.arity⟩
  else .error f.arityMessage

/-- A flag, with what is joined to it or with the arguments ahead. Short flags that take nothing
may be joined to each other; what is joined to them and is no flag is set aside. -/
def takeFlag (g : Grammar α) (ahead : List (Marked α)) : (fuel : Nat) → Spelled α →
    Except String (Consumed α)
  | 0, s => .error s.flag.arityMessage
  | fuel + 1, s =>
    match s.joined, s.flag.arity with
    | none, _ => separateFlag s.flag ahead
    | some (byEqual, rest), 0 =>
      match rest.toList with
      | [] => .error (s.flag.ignoredMessage rest)
      | c :: cs =>
        if s.name.startsWith "--" || byEqual || c == '-' then .error (s.flag.ignoredMessage rest)
        else
          let name := String.ofList ['-', c]
          let others : Except String (Consumed α) :=
            match g.find? name, cs with
            | none, _ => .ok ⟨[], ["-" ++ rest], 0⟩
            | some f, [] => takeFlag g ahead fuel ⟨f, name, none⟩
            | some f, '=' :: cs => takeFlag g ahead fuel ⟨f, name, some (true, String.ofList cs)⟩
            | some f, cs => takeFlag g ahead fuel ⟨f, name, some (false, String.ofList cs)⟩
          others.map fun o => { o with taken := .flag s.flag.tag [] :: o.taken }
    | some (_, rest), 1 => .ok ⟨[.flag s.flag.tag [rest]], [], 0⟩
    | some _, _ => .error s.flag.arityMessage

/-- What has been taken, what was set aside, and what was wrong. -/
structure Outcome (α : Type) where
  taken : List (Taken α) := []
  aside : List String := []
  fault : Option String := none

namespace Outcome

/-- An outcome with something in front of it. -/
def after (o : Outcome α) (taken : List (Taken α)) (aside : List String) : Outcome α :=
  { o with taken := taken ++ o.taken, aside := aside ++ o.aside }

/-- The message about a positional argument that was not given. -/
def missing (p : Positional) : Option String :=
  match p with
  | .one name => some s!"the following arguments are required: {name}"
  | _ => none

end Outcome

/-- Take flags and the positional argument from the arguments ahead, one after the other. -/
def takeAll (g : Grammar α) : (fuel : Nat) → Positional → List (Marked α) → Outcome α
  | 0, _, _ => {}
  | _ + 1, pending, [] => { fault := Outcome.missing pending }
  | fuel + 1, pending, (argument, m) :: rest =>
    let ahead := (argument, m) :: rest
    match m with
    | .flag none => (takeAll g fuel pending rest).after [] [argument]
    | .flag (some s) =>
      match takeFlag g rest (argument.length + 1) s with
      | .error fault => { fault := some fault }
      | .ok c => (takeAll g fuel pending (rest.drop c.used)).after c.taken c.aside
    | _ =>
      match positionalCount pending ahead with
      | some n =>
        (takeAll g fuel .nothing (ahead.drop n)).after
          [.positional (positionalArguments pending (ahead.take n))] []
      | none =>
        let idle := ahead.takeWhile fun a => !a.2.isFlag
        (takeAll g fuel pending (ahead.drop idle.length)).after [] (idle.map Prod.fst)

/-- Take a command line apart. -/
def parse (g : Grammar α) (arguments : List String) : Outcome α :=
  match markAll g arguments with
  | .error fault => { fault := some fault }
  | .ok marked => takeAll g (marked.length + 1) g.positional marked

end Arguments
end RiftScript
