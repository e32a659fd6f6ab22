import Sortie.Json.Lexer
import Sortie.Settings.Tree
import Sortie.Text.Blank
import Sortie.Text.Letter
/-!
# JSON5

JSON with comments, names without quotes, a comma after the last item, single quotes, line
breaks that are hidden by a backslash, and more ways to write numbers.
-/

namespace Sortie.Settings.Json5

/-! ## Between tokens -/

/-- A character that ends a line. -/
def isBreak (c : Char) : Bool :=
  c = '\n' || c = '\r' || c = '\u2028' || c = '\u2029'

/-- A character that may stand between tokens. -/
def isBlank (c : Char) : Bool :=
  c = '\uFEFF' || (Text.isBlank c && c ≠ '\u0085')

/-- What follows a comment whose beginning has been passed; it ends
with a star and a slash. -/
def afterComment? : List Char → Option (List Char)
  | '*' :: '/' :: rest => some rest
  | _ :: rest => afterComment? rest
  | [] => none

/-- Drops blanks and comments, of which there are no more than characters. A comment that
does not end is none. -/
def skip : Nat → List Char → List Char
  | most + 1, '/' :: '/' :: rest => skip most (rest.dropWhile (!isBreak ·))
  | most + 1, '/' :: '*' :: rest =>
    match afterComment? rest with
    | some after => skip most after
    | none => '/' :: '*' :: rest
  | most + 1, c :: rest => if isBlank c then skip most rest else c :: rest
  | _, cs => cs

def skipBlanks (cs : List Char) : List Char :=
  skip cs.length cs

/-! ## Texts and names -/

/-- The unit of 16 bits that four hexadecimal digits name. -/
def unit? (digits : List Char) : Option Json.Piece := do
  let ds ← digits.mapM Json.hexValue?
  return .unit (ds.foldl (fun n d => n * 16 + d) 0)

/-- The character that a backslash and a character stand for. -/
def escaped? (c : Char) : Option Char :=
  if c = 'v' then some '\x0b'
  else if c = '0' then some '\x00'
  else match Json.shortEscape? c with
    | some e => some e
    | none => if c.isDigit || c = 'x' || c = 'u' then none else some c

/-- Reads a text up to its quote. `done` holds its pieces so far, last first. -/
def readText? (quote : Char) (done : List Json.Piece) :
    List Char → Option (List Json.Piece × List Char)
  | '\\' :: 'x' :: a :: b :: rest =>
    match unit? [a, b] with
    | some u => readText? quote (u :: done) rest
    | none => none
  | '\\' :: 'u' :: a :: b :: c :: d :: rest =>
    match unit? [a, b, c, d] with
    | some u => readText? quote (u :: done) rest
    | none => none
  | '\\' :: '\r' :: '\n' :: rest => readText? quote done rest
  | '\\' :: c :: rest =>
    if isBreak c then readText? quote done rest
    else
      match escaped? c with
      | some e => readText? quote (.char e :: done) rest
      | none => none
  | c :: rest =>
    if c = quote then some (done.reverse, rest)
    else if c = '\\' || isBreak c then none
    else readText? quote (.char c :: done) rest
  | [] => none

/-- A character that may begin a name. -/
def beginsName (c : Char) : Bool :=
  Text.isLetter c || c = '$' || c = '_'

/-- A sign that is written over or after a letter. -/
def isAccent (c : Char) : Bool :=
  ['^', '\x60', '\u00a8', '\u00af', '\u00b4', '\u00b7', '\u00b8'].contains c

/-- Reads a name without quotes. -/
def readWord? (done : List Json.Piece) : List Char → Option (List Json.Piece × List Char)
  | '\\' :: 'u' :: a :: b :: c :: d :: rest =>
    match unit? [a, b, c, d] with
    | some u => readWord? (u :: done) rest
    | none => none
  | c :: rest =>
    if beginsName c || (!done.isEmpty && (Text.continuesLetters c || isAccent c)) then
      readWord? (.char c :: done) rest
    else if done.isEmpty then none
    else some (done.reverse, c :: rest)
  | [] => if done.isEmpty then none else some (done.reverse, [])

/-- Reads a name and drops the blanks after it. -/
def readName? (cs : List Char) : Option (String × List Char) := do
  let (pieces, rest) ← match cs with
    | '"' :: rest => readText? '"' [] rest
    | '\'' :: rest => readText? '\'' [] rest
    | cs => readWord? [] cs
  return (.ofList (← Json.joinPieces pieces), skipBlanks rest)

/-! ## Numbers -/

/-- Digits without a zero before others. -/
def isWholePart (digits : List Char) : Bool :=
  digits.length ≤ 1 || digits.head? ≠ some '0'

/-- A number in digits: a whole part and a fraction, one of which may be missing,
and perhaps an exponent. -/
def isDecimal (cs : List Char) : Bool :=
  let whole := cs.takeWhile Decimal.isDigit
  match cs.dropWhile Decimal.isDigit with
  | '.' :: rest =>
    isWholePart whole && !(whole.isEmpty && (rest.takeWhile Decimal.isDigit).isEmpty) &&
      Json.isExponent (rest.dropWhile Decimal.isDigit)
  | rest => isWholePart whole && !whole.isEmpty && Json.isExponent rest

/-- The number that a word writes. It is whole if it has neither point nor
exponent, and real numbers are finite unless they are named. Hexadecimal numbers
have 32 bits and no sign. -/
def number? (word : List Char) : Option Tree :=
  let unsigned := match word with
    | '-' :: rest => rest
    | '+' :: rest => rest
    | rest => rest
  if unsigned = "Infinity".toList || unsigned = "NaN".toList then
    if word.head? = some '+' then none else (Decimal.readReal (.ofList word)).map .real
  else
    match word with
    | '0' :: x :: d :: ds =>
      if x = 'x' || x = 'X' then do
        let ds ← (d :: ds).mapM Json.hexValue?
        let n := ds.foldl (fun n d => n * 16 + d) 0
        if n ≤ Decimal.most32 then return .whole n else none
      else decimal? unsigned
    | _ => decimal? unsigned
where
  decimal? (unsigned : List Char) : Option Tree :=
    if !isDecimal unsigned then none
    else if unsigned.any fun c => c = '.' || c = 'e' || c = 'E' then do
      let x ← Decimal.readReal (.ofList word)
      if x.isInf then none else return .real x
    else (Decimal.readInt Decimal.mostSigned64 (.ofList word)).toOption.map .whole

/-! ## Values -/

/-- The value that a word stands for. -/
def word? (word : List Char) : Option Tree :=
  if word = "null".toList then some .nothing
  else if word = "true".toList then some (.flag true)
  else if word = "false".toList then some (.flag false)
  else number? word

/-- A character that ends a word. -/
def endsWord (c : Char) : Bool :=
  isBlank c || ['[', ']', '\x7b', '\x7d', ':', ',', '"', '\'', '/'].contains c

mutual

/-- Reads a value and drops the blanks after it. -/
def readValue? : Nat → List Char → Option (Tree × List Char)
  | fuel + 1, '[' :: rest => do
    let (items, rest) ← readItems? fuel true (skipBlanks rest)
    return (.list items, rest)
  | fuel + 1, '\x7b' :: rest => do
    let (entries, rest) ← readEntries? fuel true (skipBlanks rest)
    return (Tree.ofEntries entries, rest)
  | _ + 1, '"' :: rest => do
    let (text, rest) ← readName? ('"' :: rest)
    return (.text text, rest)
  | _ + 1, '\'' :: rest => do
    let (text, rest) ← readName? ('\'' :: rest)
    return (.text text, rest)
  | _ + 1, cs => do
    let v ← word? (cs.takeWhile (!endsWord ·))
    return (v, skipBlanks (cs.dropWhile (!endsWord ·)))
  | 0, _ => none

/-- Reads items and the bracket after them. -/
def readItems? : Nat → Bool → List Char → Option (List Tree × List Char)
  | _ + 1, _, ']' :: rest => some ([], skipBlanks rest)
  | fuel + 1, true, cs => do
    let (v, rest) ← readValue? fuel cs
    let (vs, rest) ← readItems? fuel false rest
    return (v :: vs, rest)
  | fuel + 1, false, ',' :: rest =>
    match skipBlanks rest with
    | ']' :: rest => some ([], skipBlanks rest)
    | cs => do
      let (v, rest) ← readValue? fuel cs
      let (vs, rest) ← readItems? fuel false rest
      return (v :: vs, rest)
  | _, _, _ => none

/-- Reads entries and the bracket after them. -/
def readEntries? : Nat → Bool → List Char → Option (List (String × Tree) × List Char)
  | _ + 1, _, '\x7d' :: rest => some ([], skipBlanks rest)
  | fuel + 1, true, cs => do
    let (name, rest) ← readName? cs
    match rest with
    | ':' :: rest => do
      let (v, rest) ← readValue? fuel (skipBlanks rest)
      let (entries, rest) ← readEntries? fuel false rest
      return ((name, v) :: entries, rest)
    | _ => none
  | fuel + 1, false, ',' :: rest =>
    match skipBlanks rest with
    | '\x7d' :: rest => some ([], skipBlanks rest)
    | cs => readEntries? fuel true cs
  | _, _, _ => none

end

/-- The value that a text writes. -/
def read? (text : String) : Option Tree := do
  let cs := text.toList
  match ← readValue? (2 * cs.length + 2) (skipBlanks cs) with
  | (v, []) => return v
  | _ => none

end Sortie.Settings.Json5
