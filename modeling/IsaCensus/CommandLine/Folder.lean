import IsaCensus.Bytes
import IsaCensus.Fault

/-! The files that the program can see. A path leads from the folder in which the program
runs to a file or a folder. Slashes part the names on it; an empty name and a dot stay in
place, and two dots leave the folder. -/

namespace IsaCensus.CommandLine

/-- Why the system gives nothing for a path. -/
inductive Refusal
  | notThere
  /-- What stands there cannot be mapped into memory. -/
  | unmappable
  | notFolder
  | isFolder
  | nameTooLong
deriving DecidableEq, Repr

def Refusal.text : Refusal → String
  | .notThere => "No such file or directory (os error 2)"
  | .unmappable => "No such device (os error 19)"
  | .notFolder => "Not a directory (os error 20)"
  | .isFolder => "Is a directory (os error 21)"
  | .nameTooLong => "File name too long (os error 36)"

def Refusal.fault (refusal : Refusal) : ReadFault := .system refusal.text

inductive Entry
  | file (content : Bytes)
  | folder
deriving DecidableEq, Repr

namespace Entry

def content : Entry → Except ReadFault Bytes
  | .file content => .ok content
  | .folder => .error Refusal.isFolder.fault

def image : Entry → Except ReadFault Bytes
  | .file content => .ok content
  | .folder => .error Refusal.unmappable.fault

end Entry

/-- What paths lead to. -/
abbrev Files := String → Except ReadFault Entry

/-- A folder that holds files and no other folder. -/
structure Folder where
  files : List (String × Bytes)
deriving DecidableEq, Repr

namespace Folder

/-- The sizes in bytes that a path and a name stay below. -/
def pathLimit : Nat := 4096
def nameLimit : Nat := 256

/-- The name leads somewhere else. -/
def moves (name : String) : Bool := name ≠ "" && name ≠ "."

/-- The entry at the end of the names on a path that begins in the folder. When the path
goes on behind the last name, that has to be the name of a folder. Nothing is known of what
is outside but that there are folders. -/
def walk (folder : Folder) (names : List String) (goesOn : Bool) : Except Refusal Entry :=
  match names with
  | [] => .ok .folder
  | ".." :: rest => if rest.all (· == "..") then .ok .folder else .error .notThere
  | name :: rest =>
    if nameLimit ≤ name.utf8ByteSize then .error .nameTooLong
    else match folder.files.lookup name with
      | none => .error .notThere
      | some content => if rest.isEmpty && !goesOn then .ok (.file content) else .error .notFolder

def entry (folder : Folder) (path : String) : Except Refusal Entry :=
  let names := path.splitOn "/"
  let steps := names.filter moves
  if pathLimit ≤ path.utf8ByteSize then .error .nameTooLong
  else if path = "" then .error .notThere
  else if names.head? = some "" then
    if steps.isEmpty then .ok .folder else .error .notThere
  else folder.walk steps (!(names.getLast?.any moves))

def lookup (folder : Folder) : Files := fun path => (folder.entry path).mapError Refusal.fault

end Folder

end IsaCensus.CommandLine
