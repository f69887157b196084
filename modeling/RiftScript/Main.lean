/-
The command line program.

Everything is decided elsewhere; here files, environment variables and input are read and texts
are written.
-/
import RiftScript.Command.Run

namespace RiftScript
namespace Main

/-- The rounds that a loop may take before a script is given up. -/
def rounds : Nat := 1000000000000000000

/-- What is found at a path of the file system. -/
def entryAt (path : String) : IO FileEntry := do
  try
    return .file (← IO.FS.readBinFile path)
  catch
    | .noFileOrDirectory .. => return .absent
    | .inappropriateType _ 20 _ => return .blocked
    | .inappropriateType .. => return .directory
    | .invalidArgument _ 36 _ => return .tooLong
    | .permissionDenied .. =>
      -- What may not be read can still be found, unless a directory on the way may not be searched.
      try
        discard (IO.FS.realPath path)
        return .locked
      catch
        | _ => return .hidden 13 "Permission denied"
    | e => throw e

def readEnvironment : IO Settings.Environment :=
  Settings.variableNames.filterMapM fun name => do
    return (← IO.getEnv name).map (name, ·)

/-- What the outside provides, except for input, which is read line by line. -/
def surroundings (arguments : List String) : IO Surroundings := do
  let home := (← IO.getEnv "HOME").getD "/"
  let environment ← readEnvironment
  let files ← (Command.paths home environment arguments).mapM fun path => do
    return (path, ← entryAt path)
  return { files := Files.ofList files, home, environment, input := "", rounds }

def write (output errorOutput : String) : IO Unit := do
  IO.eprint errorOutput
  IO.print output
  (← IO.getStdout).flush

def writeNotices (threshold : LogLevel) (notices : List Notice) : IO Unit :=
  write (String.join (notices.map Notice.output))
    (String.join (notices.map (Notice.errorOutput threshold)))

/-- Prompt for lines and handle them until the session or the input ends. -/
partial def interact (threshold : LogLevel) (c : Conversation) (input : IO.FS.Stream) :
    IO UInt32 := do
  write c.prompt ""
  let line ← input.getLine
  if line.isEmpty then return 0
  let start := { c.repl with machine := { c.repl.machine with notices := #[] } }
  let text := if line.endsWith "\n" then (line.dropEnd 1).toString else line
  match Repl.handle Game.resolver c.options text start with
  | .ok goesOn r =>
    writeNotices threshold r.machine.notices.toList
    if goesOn then interact threshold { c with repl := r } input else return 0
  | .error _ r =>
    writeNotices threshold r.machine.notices.toList
    return 1

end Main
end RiftScript

open RiftScript in
def main (arguments : List String) : IO UInt32 := do
  let w ← Main.surroundings arguments
  match Command.conversation? w arguments with
  | some (c, threshold, notices) =>
    Main.writeNotices threshold (notices ++ Repl.banner.map .line)
    Main.interact threshold c (← IO.getStdin)
  | none =>
    let result := Command.execute w arguments
    Main.write result.output result.errorOutput
    match result.status with
    | .ok status => return UInt32.ofNat status
    | .error _ => return 1
