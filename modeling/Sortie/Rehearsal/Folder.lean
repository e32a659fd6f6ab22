import Sortie.Files
import Sortie.Text.Search
/-!
# Folders

A folder is a set of files by path, with a place in it from which paths are followed. Every
step of a path must lead into a directory before the next one is taken. Outside of the
folder there are a few directories and one empty file. Tests use it in place of a disk; it
is no part of the program.
-/

namespace Sortie

/-- Files by the names on the way to them, and the place from which paths are followed. -/
structure Folder where
  files : List (List String × List UInt8) := []
  place : List String := []

namespace Folder

/-- The names in a path, and `.` at its end if it ends with a slash. -/
def steps (path : String) : List String :=
  let parts := (Text.splitAt '/' path.toList).map String.ofList
  parts.filter (· ≠ "") ++ (if parts.getLast? == some "" then ["."] else [])

/-- The names in a path that lead somewhere. -/
def names (path : String) : List String :=
  (steps path).filter (· ≠ ".")

/-- The folder with one more file. -/
def add (f : Folder) (path : String) (bytes : List UInt8) : Folder :=
  { f with files := f.files ++ [(names path, bytes)] }

/-- The folder seen from another place in it. -/
def enter (f : Folder) (path : String) : Folder :=
  { f with place := f.place ++ names path }

/-- Where a path has led so far. -/
inductive Spot where
  /-- Along these names into the folder. -/
  | inside (way : List String)
  /-- To a directory that the folder lies in. -/
  | above
  /-- Along these names from the root of all files. -/
  | outside (way : List String)
  /-- To something above the folder, where nothing else is known to lie. -/
  | nowhere
  deriving Repr, BEq, DecidableEq, Inhabited

/-- What there is at a spot: a directory, or a file with its bytes. -/
inductive Finding where
  | directory
  | file (bytes : List UInt8)
  deriving Repr, BEq, DecidableEq, Inhabited

/-- The directories outside. -/
def outsideDirectories : List (List String) :=
  [[], ["bin"], ["dev"], ["etc"], ["tmp"], ["usr"], ["usr", "bin"]]

/-- The file outside that is always empty. -/
def emptyFile : List String := ["dev", "null"]

/-- Some file lies in the directory, or the folder is seen from it. -/
def isDirectory (f : Folder) (way : List String) : Bool :=
  way.isPrefixOf f.place || f.files.any fun (path, _) => way.isPrefixOf path && way ≠ path

/-- What there is at a spot. -/
def at? (f : Folder) : Spot → Option Finding
  | .inside way =>
    match f.files.lookup way with
    | some bytes => some (.file bytes)
    | none => if f.isDirectory way then some .directory else none
  | .above => some .directory
  | .outside way =>
    if way = emptyFile then some (.file [])
    else if outsideDirectories.contains way then some .directory
    else none
  | .nowhere => none

/-- The spot that a directory lies in. -/
def Spot.parent : Spot → Spot
  | inside [] => .above
  | inside way => .inside way.dropLast
  | above => .above
  | outside way => .outside way.dropLast
  | nowhere => .nowhere

/-- The spot with a name in a directory. -/
def Spot.child (name : String) : Spot → Spot
  | inside way => .inside (way ++ [name])
  | outside way => .outside (way ++ [name])
  | above | nowhere => .nowhere

/-- The most bytes of a name. -/
def longestName : Nat := 255

/-- The most bytes of a path. -/
def longestPath : Nat := 4095

/-- Follows steps from a spot. -/
def follow (f : Folder) (spot : Spot) : List String → Except ReadFault Spot
  | [] => .ok spot
  | step :: rest =>
    match f.at? spot with
    | none => .error .missing
    | some (.file _) => .error .notDirectory
    | some .directory =>
      if step = "." then f.follow spot rest
      else if step = ".." then f.follow spot.parent rest
      else if longestName < step.utf8ByteSize then .error .nameTooLong
      else f.follow (spot.child step) rest

/-- What is said about a path with a character that no name can have. -/
def nulName : String := "file name contained an unexpected NUL byte"

/-- What a path leads to. -/
def find (f : Folder) (path : String) : Except ReadFault Finding :=
  if path.toList.contains '\x00' then .error (.other nulName)
  else if path.isEmpty then .error .missing
  else if longestPath < path.utf8ByteSize then .error .nameTooLong
  else do
    let start := if path.toList.head? == some '/' then Spot.outside [] else .inside f.place
    match f.at? (← f.follow start (steps path)) with
    | some finding => return finding
    | none => throw .missing

/-- The bytes of the file at a path. -/
def read (f : Folder) : Files := fun path => do
  match ← f.find path with
  | .file bytes => return bytes
  | .directory => throw .directory

end Folder
end Sortie
