/-! # Folders

Files by the names that lead to them. A path is a list of names: an empty one and a dot stay where they
are, two dots lead back. Every folder on the way to a file is there, and no other one.
-/
namespace Gauge

inductive StorageError where
  | notFolder
  | notFree
  | longName
  | nameless
  | system (text : String)
  deriving DecidableEq, Repr

def StorageError.message : StorageError → String
  | .notFolder => "Not a directory (os error 20)"
  | .notFree => "File exists (os error 17)"
  | .longName => "File name too long (os error 36)"
  | .nameless => "file name contained an unexpected NUL byte"
  | .system text => text

structure Folder where
  files : List (String × String) := []
  deriving DecidableEq, Repr

namespace Folder

def steps (path : String) : List String := (path.splitOn "/").filter fun s => s != "" && s != "."

def endsInFolder (path : String) : Bool :=
  match (path.splitOn "/").getLastD "" with
  | "" | "." | ".." => true
  | _ => false

def hasFile (f : Folder) (place : List String) : Bool := f.files.any fun file => steps file.1 = place

def hasFolder (f : Folder) (place : List String) : Bool :=
  place.isEmpty ||
    f.files.any fun file => place.isPrefixOf (steps file.1) && (steps file.1).length != place.length

def follow (f : Folder) (place : List String) : List String → Option (List String)
  | [] => some place
  | ".." :: rest => if f.hasFolder place && !place.isEmpty then follow f place.dropLast rest else none
  | name :: rest => if f.hasFolder place then follow f (place ++ [name]) rest else none

def content? (f : Folder) (path : String) : Option String :=
  if path.startsWith "/" || endsInFolder path then none
  else match follow f [] (steps path) with
    | some place => (f.files.find? fun file => steps file.1 = place).map Prod.snd
    | none => none

/-- What keeps a folder from being made by names from a place on: folders on the way are made as well.
What lies outside is not looked at. -/
def obstacle? (f : Folder) (place : List String) : List String → Option StorageError
  | [] => none
  | ".." :: rest => if place.isEmpty then none else obstacle? f place.dropLast rest
  | name :: rest =>
    let next := place ++ [name]
    if 255 < name.utf8ByteSize then some .longName
    else if f.hasFile next then some (if rest.isEmpty then .notFree else .notFolder)
    else obstacle? f next rest

def refusal? (f : Folder) (path : String) : Option StorageError :=
  if path.toList.any (·.toNat = 0) then some .nameless
  else if 4095 < path.utf8ByteSize then some .longName
  else if path.startsWith "/" then none
  else match f.obstacle? [] (steps path) with
    | some .notFree => some (if path.endsWith "/." then .notFolder else .notFree)
    | refusal => refusal

end Folder
end Gauge
