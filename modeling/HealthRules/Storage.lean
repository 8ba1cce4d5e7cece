import HealthRules.Text.Lines
import HealthRules.Text.Utf8

/-!
# Storage — folders and files

A storage is a tree of folders with files in it, both addressed by places, which are the names on the way
from the root. A path leads from a folder, or from the root if it starts with a slash, to a place. Names and
paths are bytes, and need not be texts. There are no other kinds of files, and anybody may use all of them.

* `Path`, `Storage` and `StorageError`;
* `Storage.place`, `Storage.read`, `Storage.createFolders` and `Storage.append`.
-/

namespace HealthRules

/-- The bytes of a path. -/
abbrev Path := List UInt8

/-- The path that is written as a text. -/
def Path.ofText (text : String) : Path := Utf8.encode text.toList

/-- The names on the way from the root. -/
abbrev Place := List (List UInt8)

/-- What is at a place. -/
inductive Stored where
  | folder
  | file (bytes : List UInt8)
  deriving DecidableEq, Repr

/-- Why something cannot be found or used. -/
inductive StorageError where
  | missing
  | notFolder
  | isFolder
  | nameTooLong
  | noPath
  | failed (reason : String)
  deriving DecidableEq, Repr

namespace StorageError

def message : StorageError → String
  | missing => "No such file or directory (os error 2)"
  | notFolder => "Not a directory (os error 20)"
  | isFolder => "Is a directory (os error 21)"
  | nameTooLong => "File name too long (os error 36)"
  | noPath => "file name contained an unexpected NUL byte"
  | failed reason => reason

end StorageError

structure Storage where
  entries : List (Place × Stored) := []
  deriving DecidableEq, Repr

namespace Storage

def find? (s : Storage) (p : Place) : Option Stored :=
  if p.isEmpty then some .folder else s.entries.lookup p

def put (s : Storage) (p : Place) (x : Stored) : Storage :=
  ⟨(p, x) :: s.entries.filter (·.1 ≠ p)⟩

/-! ## Paths -/

/-- The byte between two names. -/
def slash : UInt8 := 0x2F

def dot : UInt8 := 0x2E

/-- What stands before, between and behind the slashes. -/
def pieces (path : Path) : List (List UInt8) :=
  let (done, rest) := Lines.cut (· == slash) path
  done ++ [rest]

/-- The names in a path. Empty names and single dots do not count. -/
def names (path : Path) : List (List UInt8) := (pieces path).filter fun n => n ≠ [] && n ≠ [dot]

def isAbsolute (path : Path) : Bool := path.head? = some slash

/-- The path of the folder that a path leads into. -/
def parentPath (path : Path) : Path :=
  (if isAbsolute path then [slash] else []) ++ [slash].intercalate (names path).dropLast

/-- Where a path starts. -/
def origin (here : Place) (path : Path) : Place := if isAbsolute path then [] else here

/-- How many bytes a name may have. -/
def longestName : Nat := 255

/-- How many bytes a path may have. -/
def longestPath : Nat := 4095

def isLongName (name : List UInt8) : Bool := longestName < name.length

/-- What is wrong with a path, wherever it leads: it is empty, too long, or no path at all. -/
def pathFault? (path : Path) : Option StorageError :=
  if path.contains 0 then some .noPath
  else if path.isEmpty then some .missing
  else if longestPath < path.length then some .nameTooLong
  else none

/-- The name leads back to where one comes from. -/
def leadsBack (name : List UInt8) : Bool := name = [dot, dot]

/-- Go on by one name, two dots leading back; the place left behind has to be a folder. -/
def goOn (s : Storage) (p : Place) (name : List UInt8) : Except StorageError Place :=
  match s.find? p with
  | some .folder =>
      if isLongName name then .error .nameTooLong
      else .ok (if leadsBack name then p.dropLast else p ++ [name])
  | some (.file _) => .error .notFolder
  | none => .error .missing

/-- A path that ends in a slash or a dot wants a folder. -/
def wantsFolder (path : Path) : Bool :=
  match (pieces path).getLast? with
  | some last => last = [] || last = [dot]
  | none => false

/-- The place of a path, at which there need not be anything. -/
def place (s : Storage) (here : Place) (path : Path) : Except StorageError Place := do
  match pathFault? path with
  | some e => throw e
  | none => (names path).foldlM s.goOn (origin here path)

/-- The content of the file at a path. -/
def read (s : Storage) (here : Place) (path : Path) : Except StorageError (List UInt8) := do
  let p ← s.place here path
  match s.find? p with
  | none => throw .missing
  | some .folder => throw .isFolder
  | some (.file bytes) => if wantsFolder path then throw .notFolder else return bytes

/-! ## Changes -/

/-- Make folders along a way as far as they are missing; a file or a name too long on the way ends it. -/
def makeFolders (s : Storage) (p : Place) : List (List UInt8) → Storage
  | [] => s
  | name :: rest =>
      let next := if leadsBack name then p.dropLast else p ++ [name]
      if isLongName name then s
      else match s.find? next with
        | some .folder => s.makeFolders next rest
        | some (.file _) => s
        | none => (s.put next .folder).makeFolders next rest

/-- Make the folders of a path, as far as they are missing. -/
def createFolders (s : Storage) (here : Place) (path : Path) : Storage :=
  if (pathFault? path).isSome then s else s.makeFolders (origin here path) (names path)

/-- Make the folders that the file of a path is to be in. -/
def createParents (s : Storage) (here : Place) (path : Path) : Storage :=
  s.createFolders here (parentPath path)

/-- Write at the end of the file at a path, which is made if it is missing. -/
def append (s : Storage) (here : Place) (path : Path) (bytes : List UInt8) :
    Except StorageError Storage := do
  let p ← s.place here path
  match s.find? p with
  | some .folder => throw .isFolder
  | some (.file old) =>
      if wantsFolder path then throw .notFolder else return s.put p (.file (old ++ bytes))
  | none =>
      if wantsFolder path then throw .isFolder
      else match s.find? p.dropLast with
        | some .folder => return s.put p (.file bytes)
        | _ => throw .missing

/-- Write a file as a whole, and the folders that it is in. -/
def write (s : Storage) (here : Place) (path : Path) (bytes : List UInt8) : Storage :=
  (s.createParents here path).put (origin here path ++ names path) (.file bytes)

end Storage

end HealthRules
