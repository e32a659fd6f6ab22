import Sortie.Text.Utf8
/-!
# Files

Files are looked up by path. A path that leads nowhere, or to a directory, gives no text.
-/

namespace Sortie

/-- Why a file gives no text. -/
inductive ReadFault where
  | missing
  | directory
  | notDirectory
  | nameTooLong
  | notText
  /-- Any other reason, in the words of the system. -/
  | other (detail : String)
  deriving Repr, BEq, DecidableEq, Inhabited

/-- What the system says about a file that gives no text. -/
def ReadFault.message : ReadFault → String
  | missing => "No such file or directory (os error 2)"
  | directory => "Is a directory (os error 21)"
  | notDirectory => "Not a directory (os error 20)"
  | nameTooLong => "File name too long (os error 36)"
  | notText => "stream did not contain valid UTF-8"
  | other detail => detail

/-- Files by path: the bytes of a file, or why there are none. -/
abbrev Files := String → Except ReadFault (List UInt8)

namespace Files

/-- The text of a file, which must be UTF-8. -/
def text (files : Files) (path : String) : Except ReadFault String := do
  match Text.Utf8.decode? (← files path) with
  | some text => return text
  | none => throw .notText

/-- The bytes of a file, if the path leads to one. -/
def bytes? (files : Files) (path : String) : Option (List UInt8) :=
  match files path with
  | .ok bytes => some bytes
  | .error _ => none

/-- The path leads to a directory. -/
def isDirectory (files : Files) (path : String) : Bool :=
  match files path with
  | .error .directory => true
  | _ => false

/-- The path leads to a file or a directory. -/
def holds (files : Files) (path : String) : Bool :=
  (files.bytes? path).isSome || files.isDirectory path

end Files

/-- A path inside a directory. A name that begins with a slash stands for itself. -/
def joinPath (directory name : String) : String :=
  if name.toList.head? == some '/' || directory.isEmpty then name
  else if directory.toList.getLast? == some '/' then directory ++ name
  else directory ++ "/" ++ name

/-- A path without slashes at its end, and without steps there that lead nowhere. A path
that does not end with a name is none. -/
def filePath? (path : String) : Option String :=
  go path.toList.reverse
where
  go : List Char → Option String
    | '/' :: rest => go rest
    | '.' :: '/' :: rest => go ('/' :: rest)
    | cs =>
      let name := cs.takeWhile (· ≠ '/')
      if name = [] ∨ name = ['.'] ∨ name = ['.', '.'] then none else some (.ofList cs.reverse)

/-- The ending of a file's name after its last point, unless the name
begins with that point. -/
def extension? (path : String) : Option (List Char) := do
  let path ← filePath? path
  let name := path.toList.reverse.takeWhile (· ≠ '/')
  match name.dropWhile (· ≠ '.') with
  | '.' :: _ :: _ => some (name.takeWhile (· ≠ '.')).reverse
  | _ => none

end Sortie
