import Sortie.Files
import Sortie.Json.Reader
import Sortie.Settings.Ini
import Sortie.Settings.Json5
import Sortie.Settings.Ron
import Sortie.Toml.Reader
import Sortie.Yaml.Reader
/-!
# Settings files

The ending of a file's name says how it is to be read.
-/

namespace Sortie.Settings

inductive DocumentKind where
  | toml
  | json
  /-- Indented lines. -/
  | yaml
  /-- Sections of lines. -/
  | ini
  /-- Round brackets around records. -/
  | ron
  /-- JSON with comments and names without quotes. -/
  | json5
  deriving Repr, BEq, DecidableEq, Inhabited

namespace DocumentKind

/-- Every ending of a settings file with its kind. -/
def endings : List (String × DocumentKind) :=
  [("toml", toml), ("json", json), ("yaml", yaml), ("yml", yaml), ("ini", ini), ("ron", ron),
    ("json5", json5)]

/-- How deep the lists and records of a JSON file may nest. -/
def deepest : Nat := 127

/-- The settings in a tree that must be a table. -/
def entriesOf? : Tree → Option (List (String × Tree))
  | .table entries => some entries
  | _ => none

def tree? (text : String) : DocumentKind → Option Tree
  | toml => (Toml.read? text).map fun entries => Tree.ofToml (.table entries)
  | json => (Json.read? text).bind (Tree.ofJson? deepest)
  | yaml => (Yaml.read? text).bind Tree.ofYaml?
  | ini => Ini.read? text
  | ron => Ron.read? text
  | json5 => Json5.read? text

def read? (text : String) (kind : DocumentKind) : Option (List (String × Tree)) :=
  (kind.tree? text).bind entriesOf?

end DocumentKind

/-- The kind of a file by the ending of its name. -/
def kindOf? (path : String) : Option DocumentKind := do
  DocumentKind.endings.lookup (String.ofList (← extension? path))

end Sortie.Settings
