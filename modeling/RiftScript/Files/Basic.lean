/-
Files as programs see them: what is found at a path.
-/
import RiftScript.Text.Quoted

namespace RiftScript

inductive FileEntry where
  | absent
  /-- The path leads through something that is not a directory. -/
  | blocked
  | directory
  | file (bytes : ByteArray)
  /-- Something is there that may not be read. -/
  | locked
  /-- It cannot even be told whether something is there. -/
  | hidden (code : Nat) (reason : String)

/-- What is found at each path. -/
abbrev Files := String → FileEntry

namespace FileEntry

/-- A path with a name that is too long leads nowhere. -/
def tooLong : FileEntry := hidden 36 "File name too long"

def complaint (code : Nat) (reason path : String) : String :=
  s!"[Errno {code}] {reason}: {Text.quoted path}"

/-- Whether something is there, or why that cannot be told. -/
def present (path : String) : FileEntry → Except String Bool
  | directory | file _ | locked => .ok true
  | absent | blocked => .ok false
  | hidden code reason => .error (complaint code reason path)

/-- The bytes of a file, or why there are none. -/
def bytes (path : String) : FileEntry → Except String ByteArray
  | file bytes => .ok bytes
  | absent => .error (complaint 2 "No such file or directory" path)
  | blocked => .error (complaint 20 "Not a directory" path)
  | directory => .error (complaint 21 "Is a directory" path)
  | locked => .error (complaint 13 "Permission denied" path)
  | hidden code reason => .error (complaint code reason path)

end FileEntry

namespace Files

/-- The files of a list and nothing else. -/
def ofList (entries : List (String × FileEntry)) : Files :=
  fun path => (entries.lookup path).getD .absent

end Files
end RiftScript
