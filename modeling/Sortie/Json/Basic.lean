import Sortie.Decimal.Layout
/-!
# JSON values and their text

Numbers keep the text they are written with, so writing a value that was read gives the
same numbers back. The text of a value is compact: no space stands between its tokens.
-/

namespace Sortie

/-- A JSON value. A text is `none` if an escape in it names half a surrogate pair, which is
no Unicode text; such a value is well-formed and can be skipped, but not used. -/
inductive Json where
  | null
  | bool (b : Bool)
  | number (lexeme : String)
  | string (text : Option String)
  | array (items : List Json)
  | object (fields : List (Option String × Json))
  deriving Inhabited, Repr

namespace Json

def text (s : String) : Json :=
  .string (some s)

def nat (n : Nat) : Json :=
  .number (Decimal.digits n)

/-- A real number; one that is not finite is `null`. -/
def real (x : Float) : Json :=
  match Decimal.Value.ofFloat Decimal.json.tie x with
  | .finite negative d => .number (Decimal.json.write (.finite negative d))
  | _ => .null

/-- A real number of 32 bits; one that is not finite is `null`. -/
def real32 (x : Float32) : Json :=
  match Decimal.Value.ofFloat32 Decimal.json.tie x with
  | .finite negative d => .number (Decimal.json.write (.finite negative d))
  | _ => .null

/-- A record with the given fields in the given order. -/
def record (fields : List (String × Json)) : Json :=
  .object (fields.map fun (name, value) => (some name, value))

/-- The lower-case hexadecimal digit of a number below sixteen. -/
def hexDigit (n : Nat) : Char :=
  (Nat.toDigits 16 n).headD '0'

/-- How a character is written inside quotes: a quote, a backslash and the control
characters below U+0020 are escaped, all others stand for themselves. -/
def escape (c : Char) : List Char :=
  if c = '"' then ['\\', '"']
  else if c = '\\' then ['\\', '\\']
  else if c = '\n' then ['\\', 'n']
  else if c = '\r' then ['\\', 'r']
  else if c = '\t' then ['\\', 't']
  else if c = '\x08' then ['\\', 'b']
  else if c = '\x0c' then ['\\', 'f']
  else if c.toNat < 0x20 then
    ['\\', 'u', '0', '0', hexDigit (c.toNat / 16), hexDigit (c.toNat % 16)]
  else [c]

/-- A text in quotes; what is no Unicode text is written as the escape of half a pair. -/
def quote : Option String → List Char
  | some s => '"' :: (s.toList.flatMap escape ++ ['"'])
  | none => ['"', '\\', 'u', 'd', '8', '0', '0', '"']

mutual

/-- The characters of a value. -/
def write : Json → List Char
  | .null => "null".toList
  | .bool b => (if b then "true" else "false").toList
  | .number lexeme => lexeme.toList
  | .string s => quote s
  | .array items => '[' :: (writeItems items ++ [']'])
  | .object fields => '\x7b' :: (writeFields fields ++ ['\x7d'])

/-- The items of a list with commas between them. -/
def writeItems : List Json → List Char
  | [] => []
  | [j] => write j
  | j :: rest => write j ++ ',' :: writeItems rest

/-- The fields of a record with commas between them. -/
def writeFields : List (Option String × Json) → List Char
  | [] => []
  | [(name, j)] => quote name ++ ':' :: write j
  | (name, j) :: rest => quote name ++ ':' :: (write j ++ ',' :: writeFields rest)

end

/-- The text of a value. -/
def render (j : Json) : String :=
  .ofList j.write

end Json
end Sortie
