import Sortie.Environment
import Sortie.Settings.Document
import Sortie.Settings.Path
import Sortie.Settings.Reader
/-!
# Loading settings

Settings come from a file at one of the usual places, then from the file that was named,
then from the environment; later sources win. A file that cannot be read is passed over,
but a text that is no document of its kind, or a value that does not fit its setting,
makes all of them unusable.
-/

namespace Sortie

inductive SettingsFault where
  /-- A file is no document of its kind. -/
  | unreadable
  /-- A value does not fit its setting. -/
  | unfitting
  deriving Repr, BEq, DecidableEq, Inhabited

namespace Settings

/-- What names of the environment begin with that hold settings. -/
def environmentMark : String := "skyspec__"

/-- The path that the rest of a name of the environment stands for: two
underscores separate its parts. -/
def environmentPath (rest : String) : String :=
  Text.replace rest "__" "."

/-- The value that a text of the environment stands for. Only a solver's command line is
split into words, at every single blank. -/
def environmentValue (path value : String) : Tree :=
  if Text.readsAs "true" value then .flag true
  else if Text.readsAs "false" value then .flag false
  else match Decimal.readInt Decimal.mostSigned64 value with
    | .ok n => .whole n
    | .error _ =>
      match Decimal.readReal value with
      | some x => .real x
      | none =>
        if path == "solver.command" then
          .list ((Text.splitAt ' ' value.toList).map fun word => .text (.ofList word))
        else .text value

/-- The setting that a variable of the environment holds. -/
def ofVariable? : String × String → Option (String × Tree)
  | (name, value) =>
    let name := (Text.lower name).toList
    if environmentMark.toList.isPrefixOf name then
      let path := environmentPath (.ofList (name.drop environmentMark.length))
      some (path, environmentValue path value)
    else none

/-- The usual places of the settings, without the ending of the name. -/
def places : List String :=
  ["config/default", "../config/default", "default"]

/-- The settings in a file of a kind. A file that is missing or no text holds none. -/
def fileEntries (files : Files) (kind : DocumentKind) (path : String) :
    Except SettingsFault (List (String × Tree)) :=
  match files.text path with
  | .error _ => .ok []
  | .ok text =>
    match kind.read? text with
    | some entries => .ok entries
    | none => .error .unreadable

/-- The settings at a path: those in the file with exactly this name, which holds none if
the ending of its name is unknown, or else those in a file with an ending more. -/
def entriesAt (files : Files) (path : String) : Except SettingsFault (List (String × Tree)) :=
  if (files.bytes? path).isSome then
    match kindOf? path with
    | some kind => fileEntries files kind path
    | none => .ok []
  else
    match filePath? path with
    | none => .ok []
    | some path =>
      let found := DocumentKind.endings.find? fun (ending, _) =>
        (files.bytes? (path ++ "." ++ ending)).isSome
      match found with
      | some (ending, kind) => fileEntries files kind (path ++ "." ++ ending)
      | none => .ok []

/-- The settings at the first of the usual places that holds any. -/
def usualEntries (files : Files) : Except SettingsFault (List (String × Tree)) :=
  match places.find? fun place => files.holds (place ++ ".toml") with
  | none => .ok []
  | some place => entriesAt files place

/-- The settings at a path that leads somewhere. -/
def namedEntries (files : Files) (path : String) : Except SettingsFault (List (String × Tree)) :=
  if files.holds path then entriesAt files path else .ok []

/-- Every path that is looked at when settings are loaded. -/
def pathsTo (path : Option String) : List String :=
  (places ++ path.toList).flatMap fun place =>
    place :: match filePath? place with
      | none => []
      | some path => DocumentKind.endings.map fun (ending, _) => path ++ "." ++ ending

def load (files : Files) (env : Environment) (path : Option String) :
    Except SettingsFault Settings := do
  let usual ← usualEntries files
  let named ← match path with
    | some path => namedEntries files path
    | none => .ok []
  let tree := ((Tree.table []).merge usual).merge named
  match ofEntries? (tree.merge (env.filterMap ofVariable?)).entries with
  | some settings => return settings
  | none => throw .unfitting

end Settings
end Sortie
