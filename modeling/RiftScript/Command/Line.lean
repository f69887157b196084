/-
The command line of the program and its help texts.
-/
import RiftScript.Command.Arguments

namespace RiftScript

/-- What the program can be told to do. -/
inductive Command where
  | repl
  | run (file : String) (triggers : List (String × String)) (recover : Bool)
  | eval (expression : String)
  | tokens (file : String)
  | ast (file : String) (json : Bool) (groups : Bool)
deriving Repr, DecidableEq

/-- What a command line asks for. -/
inductive Request where
  /-- Print a text and end. -/
  | print (text : String)
  /-- The command line is wrong. -/
  | refuse (usage program message : String)
  | invoke (settings : Option String) (verbose : Bool) (command : Option Command)
deriving Repr, DecidableEq

namespace Request

inductive Flag where
  | help | version | settings | verbose | trigger | recover | json | noGroups
deriving Repr, DecidableEq

/-- The words that select a command. -/
inductive Word where
  | repl | run | eval | tokens | ast
deriving Repr, DecidableEq

def programUsage : String :=
  "usage: lsl [-h] [--version] [-c CONFIG] [-v] {repl,run,eval,tokens,ast} ...\n"

def programHelp : String :=
  programUsage ++ "
LoL Script Language

positional arguments:
  {repl,run,eval,tokens,ast}
                        Commands
    repl                Interactive session
    run                 Run a script file
    eval                Evaluate an expression
    tokens              Show tokens of a file
    ast                 Show the AST of a file

options:
  -h, --help            show this help message and exit
  --version             show program's version number and exit
  -c CONFIG, --config CONFIG
                        YAML config file
  -v, --verbose         Debug logging

Examples:
    lsl run scripts/ashe.lsl --trigger Ashe onAttack
    lsl eval '\"hp:\" + 50'
    lsl ast scripts/ashe.lsl --no-groups
"

def version : String := "lsl 0.1.0\n"

def helpFlag : Arguments.Flag Flag := ⟨["-h", "--help"], 0, .help⟩

def programGrammar : Arguments.Grammar Flag where
  flags := [helpFlag, ⟨["--version"], 0, .version⟩, ⟨["-c", "--config"], 1, .settings⟩,
    ⟨["-v", "--verbose"], 0, .verbose⟩]
  positional := .command

namespace Word

def all : List Word := [repl, run, eval, tokens, ast]

def spelling : Word → String
  | repl => "repl"
  | run => "run"
  | eval => "eval"
  | tokens => "tokens"
  | ast => "ast"

def ofSpelling? (s : String) : Option Word :=
  all.find? fun w => w.spelling == s

def usage : Word → String
  | repl => "usage: lsl repl [-h]\n"
  | run => "usage: lsl run [-h] [-t CHAMPION EVENT] [-r] file\n"
  | eval => "usage: lsl eval [-h] expression\n"
  | tokens => "usage: lsl tokens [-h] file\n"
  | ast => "usage: lsl ast [-h] [--json] [--no-groups] file\n"

def details : Word → String
  | repl => "
options:
  -h, --help  show this help message and exit
"
  | run => "
positional arguments:
  file                  Script to run

options:
  -h, --help            show this help message and exit
  -t CHAMPION EVENT, --trigger CHAMPION EVENT
                        Fire an event after the script ran (repeatable)
  -r, --recover         Report every syntax error
"
  | eval => "
positional arguments:
  expression  Expression source

options:
  -h, --help  show this help message and exit
"
  | tokens => "
positional arguments:
  file        Script to tokenize

options:
  -h, --help  show this help message and exit
"
  | ast => "
positional arguments:
  file         Script to parse

options:
  -h, --help   show this help message and exit
  --json       Emit JSON
  --no-groups  Render groupings transparently
"

def grammar : Word → Arguments.Grammar Flag
  | repl => ⟨[helpFlag], .nothing⟩
  | run =>
    ⟨[helpFlag, ⟨["-t", "--trigger"], 2, .trigger⟩, ⟨["-r", "--recover"], 0, .recover⟩],
      .one "file"⟩
  | eval => ⟨[helpFlag], .one "expression"⟩
  | tokens => ⟨[helpFlag], .one "file"⟩
  | ast =>
    ⟨[helpFlag, ⟨["--json"], 0, .json⟩, ⟨["--no-groups"], 0, .noGroups⟩], .one "file"⟩

/-- The command that a word and what was taken after it stand for. -/
def command (w : Word) (taken : List (Arguments.Taken Flag)) : Command :=
  let argument := (taken.findSome? fun
    | .positional (s :: _) => some s
    | _ => none).getD ""
  let has := fun (f : Flag) => taken.any fun
    | .flag g _ => g == f
    | _ => false
  let triggers := taken.filterMap fun
    | .flag .trigger [champion, event] => some (champion, event)
    | _ => none
  match w with
  | repl => .repl
  | run => .run argument triggers (has .recover)
  | eval => .eval argument
  | tokens => .tokens argument
  | ast => .ast argument (has .json) (!has .noGroups)

end Word

/-- The flag of a list that ends the program when it is taken, if there is one. -/
def ending? (help : String) (taken : List (Arguments.Taken Flag)) : Option Request :=
  taken.findSome? fun
    | .flag .help _ => some (.print help)
    | .flag .version _ => some (.print version)
    | _ => none

/-- A command from its word and what follows, with what was set aside; or a request that ends the
program. -/
def commandOf (word : String) (arguments : List String) :
    Except Request (Command × List String) :=
  match Word.ofSpelling? word with
  | none =>
    let choices := ", ".intercalate (Word.all.map fun w => Text.quoted w.spelling)
    .error (.refuse programUsage "lsl"
      s!"argument command: invalid choice: {Text.quoted word} (choose from {choices})")
  | some w =>
    let outcome := Arguments.parse w.grammar arguments
    match ending? (w.usage ++ w.details) outcome.taken, outcome.fault with
    | some r, _ => .error r
    | none, some fault => .error (.refuse w.usage s!"lsl {w.spelling}" fault)
    | none, none => .ok (w.command outcome.taken, outcome.aside)

/-- What a command line asks for. -/
def ofArguments (arguments : List String) : Request :=
  let outcome := Arguments.parse programGrammar arguments
  let settings := (outcome.taken.filterMap fun
    | .flag .settings [path] => some path
    | _ => none).getLast?
  let verbose := outcome.taken.any fun
    | .flag .verbose _ => true
    | _ => false
  let selected : Option (Except Request (Command × List String)) := outcome.taken.findSome? fun
    | .positional (word :: rest) => some (commandOf word rest)
    | _ => none
  match ending? programHelp outcome.taken, outcome.fault, selected with
  | some r, _, _ => r
  | none, some fault, _ => .refuse programUsage "lsl" fault
  | none, none, some (.error r) => r
  | none, none, some (.ok (command, aside)) =>
    finish (outcome.aside ++ aside) (.invoke settings verbose (some command))
  | none, none, none => finish outcome.aside (.invoke settings verbose none)
where
  /-- Nothing may be left over. -/
  finish (aside : List String) (r : Request) : Request :=
    if aside.isEmpty then r
    else .refuse programUsage "lsl" ("unrecognized arguments: " ++ " ".intercalate aside)

end Request
end RiftScript
