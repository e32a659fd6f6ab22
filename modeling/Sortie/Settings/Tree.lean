import Sortie.Json.Number
import Sortie.Text.Case
import Sortie.Toml.Basic
import Sortie.Yaml.Basic
/-!
# Settings as a tree

Settings of every source are read into one kind of tree.
-/

namespace Sortie.Settings

/-- A setting, or a table or list of settings. -/
inductive Tree where
  /-- A place that is there and holds nothing. -/
  | nothing
  | text (s : String)
  | whole (n : Int)
  | real (x : Float)
  | flag (b : Bool)
  | list (items : List Tree)
  | table (entries : List (String × Tree))
  deriving Inhabited, Repr

namespace Tree

/-- The entries with one of them replaced or added. -/
def replaceEntry (name : String) (v : Tree) : List (String × Tree) → List (String × Tree)
  | [] => [(name, v)]
  | (n, x) :: rest => if n = name then (n, v) :: rest else (n, x) :: replaceEntry name v rest

/-- The table of some entries; of two with one name the later counts. -/
def ofEntries (entries : List (String × Tree)) : Tree :=
  .table (entries.foldl (fun done (name, v) => replaceEntry name v done) [])

mutual

/-- The tree of a value in a document. Dates and times are texts. -/
def ofToml : Toml → Tree
  | .text s => .text s
  | .whole n => .whole n
  | .real x => .real x
  | .flag b => .flag b
  | .moment s => .text s
  | .list items => .list (ofTomlItems items)
  | .table entries => .table (ofTomlEntries entries)

/-- The trees of the items of a list. -/
def ofTomlItems : List Toml → List Tree
  | [] => []
  | v :: rest => ofToml v :: ofTomlItems rest

/-- The trees of the entries of a table. -/
def ofTomlEntries : List (String × Toml) → List (String × Tree)
  | [] => []
  | (name, v) :: rest => (name, ofToml v) :: ofTomlEntries rest

end

/-- The number that a JSON number writes: whole if it has neither fraction nor exponent and
fits into 64 bits with a sign. A negative zero is real. -/
def ofNumber? (lexeme : String) : Option Tree :=
  match Decimal.readInt Decimal.mostSigned64 lexeme with
  | .ok n => if lexeme == "-0" then (Json.Number.read lexeme).map .real else some (.whole n)
  | .error _ => (Json.Number.read lexeme).map .real

mutual

/-- The tree of a JSON value that nests at most `depth` deep and whose numbers and
texts can all be used. -/
def ofJson? (depth : Nat) : Json → Option Tree
  | .null => some .nothing
  | .bool b => some (.flag b)
  | .number lexeme => ofNumber? lexeme
  | .string s => s.map .text
  | .array items =>
    match depth with
    | 0 => none
    | depth + 1 => (ofJsonItems? depth items).map .list
  | .object fields =>
    match depth with
    | 0 => none
    | depth + 1 => (ofJsonFields? depth fields).map ofEntries

/-- The trees of the items of a JSON list. -/
def ofJsonItems? (depth : Nat) : List Json → Option (List Tree)
  | [] => some []
  | j :: rest =>
    match ofJson? depth j, ofJsonItems? depth rest with
    | some v, some vs => some (v :: vs)
    | _, _ => none

/-- The trees of the fields of a JSON record. -/
def ofJsonFields? (depth : Nat) : List (Option String × Json) → Option (List (String × Tree))
  | [] => some []
  | (name, j) :: rest =>
    match name, ofJson? depth j, ofJsonFields? depth rest with
    | some name, some v, some vs => some ((name, v) :: vs)
    | _, _, _ => none

end

mutual

/-- The tree of a YAML value whose numbers can all be used. -/
def ofYaml? : Yaml → Option Tree
  | .unusable | .nothing => some .nothing
  | .flag b => some (.flag b)
  | .whole n => some (.whole n)
  | .real written => (Decimal.readReal written).map .real
  | .text s => some (.text s)
  | .list items => (ofYamlItems? items).map .list
  | .table entries => (ofYamlEntries? entries).map ofEntries

/-- The trees of the items of a YAML list. -/
def ofYamlItems? : List Yaml → Option (List Tree)
  | [] => some []
  | v :: rest =>
    match ofYaml? v, ofYamlItems? rest with
    | some v, some vs => some (v :: vs)
    | _, _ => none

/-- The trees of the entries of a YAML table. -/
def ofYamlEntries? : List (Yaml.Name × Yaml) → Option (List (String × Tree))
  | [] => some []
  | (name, v) :: rest =>
    match ofYaml? v, ofYamlEntries? rest with
    | some v, some vs => some ((name.toText, v) :: vs)
    | _, _ => none

end

/-- The entries of a table; no other tree has any. -/
def entries : Tree → List (String × Tree)
  | table entries => entries
  | _ => []

/-- The items of a list; no other tree has any. -/
def items : Tree → List Tree
  | list items => items
  | _ => []

end Tree
end Sortie.Settings
