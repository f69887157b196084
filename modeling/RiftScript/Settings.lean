/-
Settings of the command line.

Settings come from three layers: built-in defaults, one settings file, and environment variables,
each overriding the ones before. A settings file that cannot be used is skipped with a warning
and the next candidate is tried.
-/
import RiftScript.Files.Path
import RiftScript.Notice
import RiftScript.Source
import RiftScript.Yaml.Node

namespace RiftScript

/-- A mapping with its keys in order. -/
abbrev Entries := List (Datum × Datum)

/-- Why settings cannot be put together at all. -/
inductive SettingsFault where
  /-- It cannot be told whether a settings file is there. -/
  | hidden (reason : String)
  | notUtf8
  /-- The game state is not a mapping and not made up of pairs either. -/
  | notPairs
  | badPair (index size : Nat)
deriving Repr, DecidableEq

namespace SettingsFault

def message? : SettingsFault → Option String
  | hidden reason => some reason
  | badPair index size =>
    some s!"dictionary update sequence element #{index} has length {size}; 2 is required"
  | _ => none

end SettingsFault

structure Settings where
  /-- The file that was used. -/
  path : Option String
  /-- Everything but the game state. -/
  values : Entries
  gameState : Entries

namespace Settings

def defaultLimit : Int := 100

def defaultValues : Entries :=
  [(.text "log_level", .text "WARNING"), (.text "prompt", .text "LSL> "),
    (.text "echo_results", .bool true), (.text "show_groups", .bool true),
    (.text "recover_errors", .bool false), (.text "max_errors", .int defaultLimit)]

def defaultState : Entries :=
  [(.text "health", .int 100), (.text "mana", .int 100), (.text "enemy_distance", .null),
    (.text "ally_distance", .null), (.text "nearest_enemy", .null), (.text "buffs", .list []),
    (.text "ready_items", .list []), (.text "ready_abilities", .list [])]

def defaults : Settings := ⟨none, defaultValues, defaultState⟩

/-- One mapping over another. -/
def overlay (base top : Entries) : Entries :=
  top.foldl (fun entries e => Datum.setKey e.1 e.2 entries) base

/-- The data that another is made up of: the items of a list, the keys of a mapping, the elements of a
set, or the characters of a text. -/
def sequence? : Datum → Option (List Datum)
  | .list items | .set items => some items
  | .dict entries => some (entries.map Prod.fst)
  | .text s => some (s.toList.map fun c => .text (String.singleton c))
  | _ => none

/-- The pairs among some data, numbered from `index`. Whatever is made up of two may be a pair. -/
def pairs (index : Nat) : List Datum → Except SettingsFault Entries
  | [] => .ok []
  | d :: ds =>
    match sequence? d with
    | none => .error .notPairs
    | some [key, value] =>
      if key.isKey then do return (key, value) :: (← pairs (index + 1) ds) else .error .notPairs
    | some items => .error (.badPair index items.length)

/-- The entries that a game state setting adds. -/
def stateEntries (d : Datum) : Except SettingsFault Entries :=
  if !d.truthy then .ok []
  else
    match d with
    | .dict entries => .ok entries
    | d =>
      match sequence? d with
      | some items => pairs 0 items
      | none => .error .notPairs

/-- What a settings file says about the game state. -/
def stateSetting (entries : Entries) : Datum :=
  (Datum.lookup "game_state" entries).getD .null

/-- The other settings of a file. -/
def withoutState (entries : Entries) : Entries :=
  entries.filter fun e => !e.1.isText "game_state"

/-- Settings with those of a file put over them. -/
def withFile (s : Settings) (path : String) (entries : Entries) :
    Except SettingsFault Settings := do
  let state ← stateEntries (stateSetting entries)
  return ⟨some path, overlay s.values (withoutState entries), overlay s.gameState state⟩

/-- What a settings file comes to. -/
inductive FileContent where
  | skipped (warning : Option String)
  | entries (es : Entries)

/-- Read a settings file, whose text `read` turns into a datum. What is falsy counts as an empty
mapping. -/
def readFile (read : String → Option Datum) (path : String) (entry : FileEntry) :
    Except SettingsFault FileContent :=
  match entry.present path with
  | .error reason => .error (.hidden reason)
  | .ok false => .ok (.skipped none)
  | .ok true =>
    match entry.bytes path with
    | .error reason => .ok (.skipped (some s!"Failed to load config from {path}: {reason}"))
    | .ok bytes =>
      match Source.decodeStrict? bytes with
      | none => .error .notUtf8
      | some text =>
        match read text with
        | none => .ok (.skipped (some s!"Failed to load config from {path}: malformed settings"))
        | some (.dict es) => .ok (.entries es)
        | some d =>
          if d.truthy then
            .ok (.skipped (some s!"Ignoring config {path}: top level must be a mapping"))
          else .ok (.entries [])

/-- The first candidate that can be used, with its entries, and the warnings about those before
it. -/
def search (read : String → Option Datum) (files : Files) :
    List String → List String × Except SettingsFault (Option (String × Entries))
  | [] => ([], .ok none)
  | path :: rest =>
    match readFile read path (files path) with
    | .error fault => ([], .error fault)
    | .ok (.entries es) => ([], .ok (some (path, es)))
    | .ok (.skipped warning) =>
      let (warnings, found) := search read files rest
      (warning.toList ++ warnings, found)

/-- Settings with those of the file that was found, if there is one. -/
def withFound (s : Settings) : Option (String × Entries) → Except SettingsFault Settings
  | none => .ok s
  | some (path, es) => s.withFile path es

/-- The environment: variables with their values. -/
abbrev Environment := List (String × String)

/-- The files that settings may come from: the one asked for, else the one the environment names,
else one in the working directory or the home directory. -/
def candidates (home : String) (environment : Environment) (explicit : Option String) :
    List String :=
  match explicit with
  | some path => [Path.normal path]
  | none =>
    match environment.lookup "LSL_CONFIG" with
    | some path =>
      if path.isEmpty then ["lsl.yaml", Path.join home ".lsl/config.yaml"] else [Path.normal path]
    | none => ["lsl.yaml", Path.join home ".lsl/config.yaml"]

/-- Whether a text says yes. -/
def saysYes (s : String) : Bool :=
  ["1", "true", "yes", "on"].contains (String.ofList (Text.lowerCase (Text.trim s.toList)))

/-- Environment variables, the settings they override, and how their text is read. -/
def overrides : List (String × String × (String → Datum)) :=
  [("LSL_LOG_LEVEL", "log_level", .text), ("LSL_PROMPT", "prompt", .text),
    ("LSL_ECHO_RESULTS", "echo_results", fun s => .bool (saysYes s)),
    ("LSL_SHOW_GROUPS", "show_groups", fun s => .bool (saysYes s)),
    ("LSL_RECOVER_ERRORS", "recover_errors", fun s => .bool (saysYes s))]

/-- The environment variables that matter. -/
def variableNames : List String :=
  "LSL_CONFIG" :: overrides.map Prod.fst

/-- The settings that the environment overrides, with its values. -/
def fromEnvironment (environment : Environment) : Entries :=
  overrides.filterMap fun o =>
    (environment.lookup o.1).map fun text => (Datum.text o.2.1, o.2.2 text)

/-- Settings with those of the environment put over them. -/
def withEnvironment (s : Settings) (environment : Environment) : Settings :=
  { s with values := overlay s.values (fromEnvironment environment) }

/-- All settings, and the warnings about files that were skipped, when `read` turns the text of a
file into a datum. -/
def loadWith (read : String → Option Datum) (files : Files) (home : String)
    (environment : Environment) (explicit : Option String) :
    List String × Except SettingsFault Settings :=
  let (warnings, found) := search read files (candidates home environment explicit)
  (warnings, do return (← defaults.withFound (← found)).withEnvironment environment)

/-- All settings, and the warnings about files that were skipped. -/
def load (files : Files) (home : String) (environment : Environment) (explicit : Option String) :
    List String × Except SettingsFault Settings :=
  loadWith Yaml.read? files home environment explicit

/-! ## Reading settings -/

/-- All settings as one mapping. -/
def all (s : Settings) : Entries :=
  s.values ++ [(.text "game_state", .dict s.gameState)]

def get? (s : Settings) (key : String) : Option Datum :=
  Datum.lookup key s.all

def value (s : Settings) (key : String) : Datum :=
  (s.get? key).getD .null

/-- The level from which on the log is kept. A name that is not known means warnings. -/
def logLevel (s : Settings) : LogLevel :=
  let name := String.ofList (Text.upperCase (s.value "log_level").display.toList)
  (LogLevel.ofName? name).getD .warning

def prompt (s : Settings) : String :=
  (s.value "prompt").display

def echoResults (s : Settings) : Bool :=
  (s.value "echo_results").truthy

def showGroups (s : Settings) : Bool :=
  (s.value "show_groups").truthy

def recoverErrors (s : Settings) : Bool :=
  (s.value "recover_errors").truthy

def maxErrors (s : Settings) : Except DatumFault Int :=
  match s.value "max_errors" with
  | .null => .ok defaultLimit
  | d => d.toInt

end Settings
end RiftScript
