import Sortie.Decimal.Reading
import Sortie.Json.Lexer
/-!
# YAML values

A plain text stands for nothing, a truth value or a number if it is written like one. A
number that is no whole one keeps its text.
-/

namespace Sortie

/-- The name of a value in a table. -/
inductive Yaml.Name where
  | text (s : String)
  | whole (n : Int)
  | flag (b : Bool)
  | real (written : String)
  deriving Repr, BEq, DecidableEq, Inhabited

/-- A value of a YAML document. -/
inductive Yaml where
  /-- What does not fit its tag, or is part of itself. -/
  | unusable
  | nothing
  | flag (b : Bool)
  | whole (n : Int)
  | real (written : String)
  | text (s : String)
  | list (items : List Yaml)
  | table (entries : List (Yaml.Name × Yaml))
  deriving Inhabited, Repr

namespace Yaml

def Name.toText : Name → String
  | text s => s
  | whole n => (if n < 0 then "-" else "") ++ Decimal.digits n.natAbs
  | flag b => if b then "true" else "false"
  | real written => written

def asName? : Yaml → Option Name
  | text s => some (.text s)
  | whole n => some (.whole n)
  | flag b => some (.flag b)
  | real written => some (.real written)
  | unusable | nothing | list _ | table _ => none

/-! ## Plain texts -/

/-- The digits of a whole number in a base up to sixteen, which may have a sign,
as a number of 64 bits. -/
def wholeInBase? (base : Nat) (cs : List Char) : Option Int := do
  let (negative, digits) := match cs with
    | '-' :: rest => (true, rest)
    | '+' :: rest => (false, rest)
    | rest => (false, rest)
  let ds ← digits.mapM Json.hexValue?
  let n := ds.foldl (fun n d => n * base + d) 0
  let most := Decimal.mostSigned64 + if negative then 1 else 0
  if ds.isEmpty || ds.any (base ≤ ·) || most < n then none
  else some (if negative then -(n : Int) else n)

/-- The whole number that a plain text writes. -/
def wholeOf? (word : String) : Option Int :=
  let marked := match word.toList with
    | '0' :: 'x' :: digits => wholeInBase? 16 digits
    | '0' :: 'o' :: digits => wholeInBase? 8 digits
    | '+' :: digits => wholeInBase? 10 digits
    | _ => none
  marked.or (wholeInBase? 10 word.toList)

/-- The words for what is no finite number. -/
def infinities : List String :=
  [".inf", ".Inf", ".INF", "+.inf", "+.Inf", "+.INF", "-.inf", "-.Inf", "-.INF", ".nan", ".NaN",
    ".NAN"]

/-- A plain text writes a real number. -/
def isReal (word : String) : Bool :=
  infinities.contains word ||
    (word.toList.any Char.isDigit && (Decimal.readReal word).isSome)

/-- The value of a plain text. -/
def ofPlain (word : String) : Yaml :=
  match wholeOf? word with
  | some n => .whole n
  | none =>
    if word = "" || word = "~" || word = "null" then .nothing
    else if word = "true" then .flag true
    else if word = "false" then .flag false
    else if isReal word then .real word
    else .text word

/-! ## Tags -/

/-- A tag, with the address that its handle stands for. -/
structure Tag where
  handle : String
  suffix : String
  deriving Repr, BEq, DecidableEq, Inhabited

/-- The address of the tags that every document knows. -/
def commonTags : String := "tag:yaml.org,2002:"

/-- The value of a plain text with a tag. -/
def ofTagged (t : Tag) (word : String) : Yaml :=
  if t.handle ≠ commonTags then .text word
  else if t.suffix = "bool" then
    if word = "true" then .flag true else if word = "false" then .flag false else .unusable
  else if t.suffix = "int" then
    match wholeInBase? 10 word.toList with
    | some n => .whole n
    | none => .unusable
  else if t.suffix = "float" then if isReal word then .real word else .unusable
  else if t.suffix = "null" then
    if word = "~" || word = "null" then .nothing else .unusable
  else .text word

/-- The value of a text. Only a plain one is more than that. -/
def ofScalar (isPlain : Bool) (tag : Option Tag) (text : String) : Yaml :=
  if !isPlain then .text text
  else match tag with
    | some t => ofTagged t text
    | none => ofPlain text

/-! ## Tables -/

/-- Names and values one after the other as pairs. What is unusable is no name, so that
what follows it takes its place; a name without a value is dropped. -/
def pairUp : List Yaml → List (Yaml × Yaml)
  | .unusable :: rest => pairUp rest
  | name :: v :: rest => (name, v) :: pairUp rest
  | [_] | [] => []

/-- The table of such pairs. No name may be repeated. -/
def ofPairs? : List (Yaml × Yaml) → Option (List (Name × Yaml))
  | [] => some []
  | (name, v) :: rest => do
    let name ← name.asName?
    let entries ← ofPairs? rest
    if entries.any (·.1 == name) then none else some ((name, v) :: entries)

/-- The table of names and values one after the other. -/
def tableOf? (parts : List Yaml) : Option Yaml :=
  (ofPairs? (pairUp parts)).map .table

end Yaml
end Sortie
