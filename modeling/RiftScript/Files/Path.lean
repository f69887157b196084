/-
Paths in their shortest spelling, and a tree of files to follow them in.
-/
import RiftScript.Files.Basic

namespace RiftScript
namespace Path

/-- What stands between the slashes. -/
def pieces : List Char → List (List Char)
  | [] => [[]]
  | c :: cs => if c = '/' then [] :: pieces cs else (pieces cs).modifyHead (c :: ·)

def parts (path : String) : List String :=
  (pieces path.toList).map String.ofList

/-- The steps that lead somewhere. -/
def steps (path : String) : List String :=
  (parts path).filter fun step => step != "" && step != "."

/-- Where a path starts. Two slashes at the front are kept, more are not. -/
def root (path : String) : String :=
  match (path.toList.takeWhile (· == '/')).length with
  | 0 => ""
  | 2 => "//"
  | _ => "/"

/-- A path without empty and idle steps. -/
def normal (path : String) : String :=
  let spelled := root path ++ "/".intercalate (steps path)
  if spelled.isEmpty then "." else spelled

/-- The path of a file that is named as seen from a directory. -/
def join (directory file : String) : String :=
  match directory.toList.getLast? with
  | none | some '/' => normal (directory ++ file)
  | _ => normal (directory ++ "/" ++ file)

end Path

/-- Files kept in memory, by the steps that lead to them from the top. -/
structure FileTree where
  /-- Where relative paths start. -/
  working : List String
  /-- Directories that exist even when they are empty. -/
  directories : List (List String)
  files : List (List String × ByteArray)

namespace FileTree

/-- The bytes that one step of a path may take. -/
def stepLimit : Nat := 255

/-- The bytes that a path may take. -/
def pathLimit : Nat := 4095

def isDirectory (t : FileTree) (steps : List String) : Bool :=
  (t.directories ++ t.files.map fun f => f.1.dropLast).any steps.isPrefixOf

def entryAt (t : FileTree) (steps : List String) : FileEntry :=
  match t.files.lookup steps with
  | some bytes => .file bytes
  | none => if t.isDirectory steps then .directory else .absent

/-- Follow the steps of a path from a place in the tree. -/
def follow (t : FileTree) (here : List String) : List String → FileEntry
  | [] => t.entryAt here
  | step :: rest =>
    match t.entryAt here with
    | .directory =>
      if step = "" ∨ step = "." then t.follow here rest
      else if step = ".." then t.follow here.dropLast rest
      else if stepLimit < step.utf8ByteSize then .tooLong
      else t.follow (here ++ [step]) rest
    | .file _ => .blocked
    | e => e

/-- What is found at a path. -/
def entry (t : FileTree) : Files := fun path =>
  if path.isEmpty then .absent
  else if pathLimit < path.utf8ByteSize then .tooLong
  else t.follow (if path.startsWith "/" then [] else t.working) (Path.parts path)

end FileTree
end RiftScript
