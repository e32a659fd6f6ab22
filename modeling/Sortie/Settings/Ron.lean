import Sortie.Json.Lexer
import Sortie.Settings.Tree
import Sortie.Toml.Text
/-!
# RON

Records in round brackets with plain names, tables in curly brackets, lists in square ones.
A name may stand before a record. Only ASCII letters make up names.
-/

namespace Sortie.Settings.Ron

/-! ## Between tokens -/

def isBlank (c : Char) : Bool :=
  c = ' ' || c = '\t' || c = '\n' || c = '\r'

/-- What follows a comment inside `depth` others; all of them end with
a star and a slash. -/
def afterComment? : Nat → List Char → Option (List Char)
  | depth, '/' :: '*' :: rest => afterComment? (depth + 1) rest
  | 0, '*' :: '/' :: rest => some rest
  | depth + 1, '*' :: '/' :: rest => afterComment? depth rest
  | depth, _ :: rest => afterComment? depth rest
  | _, [] => none

/-- Drops blanks and comments, of which there are no more than characters. -/
def skip? : Nat → List Char → Option (List Char)
  | most + 1, '/' :: '/' :: rest => skip? most (rest.dropWhile (· ≠ '\n'))
  | most + 1, '/' :: '*' :: rest =>
    match afterComment? 0 rest with
    | some after => skip? most after
    | none => none
  | most + 1, c :: rest =>
    if isBlank c then skip? most rest else if c = '/' then none else some (c :: rest)
  | _, cs => some cs

/-- Drops blanks and comments. A slash that begins no comment is an error. -/
def skipBlanks? (cs : List Char) : Option (List Char) :=
  skip? cs.length cs

/-- Drops a comma and what stands around it, and tells whether there was one. -/
def skipComma? (cs : List Char) : Option (Bool × List Char) := do
  match ← skipBlanks? cs with
  | ',' :: rest => return (true, ← skipBlanks? rest)
  | cs => return (false, cs)

/-! ## Names -/

/-- A character that may begin a name. -/
def beginsName (c : Char) : Bool :=
  c.isAlpha || c = '_'

def isNameChar (c : Char) : Bool :=
  c.isAlphanum || c = '_'

/-- A character of a name that is marked as one. -/
def isMarkedChar (c : Char) : Bool :=
  isNameChar c || c = '.' || c = '+' || c = '-'

/-- Reads a name. One with unusual characters must be marked; quotes do
not follow the mark. -/
def readName? : List Char → Option (String × List Char)
  | ['r'] => none
  | 'r' :: '"' :: _ => none
  | 'r' :: '#' :: rest =>
    if rest.head?.any isMarkedChar then
      some (.ofList (rest.takeWhile isMarkedChar), rest.dropWhile isMarkedChar)
    else none
  | cs =>
    let name := cs.takeWhile isNameChar
    if cs.head?.any beginsName && name.length = (cs.takeWhile isMarkedChar).length then
      some (.ofList name, cs.dropWhile isNameChar)
    else none

/-- Takes a word that is no part of a longer one. -/
def dropWord? (word : String) (cs : List Char) : Option (List Char) :=
  let rest := cs.drop word.length
  if word.toList.isPrefixOf cs && !rest.head?.any isNameChar then some rest else none

/-! ## Texts -/

/-- Reads an escape after its backslash. -/
def readEscape? : List Char → Option (Char × List Char)
  | 'x' :: a :: b :: rest => do
    return (Char.ofNat ((← Json.hexValue? a) * 16 + (← Json.hexValue? b)), rest)
  | 'u' :: '\x7b' :: rest =>
    let digits := rest.takeWhile (· ≠ '\x7d')
    if digits.isEmpty || 6 < digits.length || digits.length = rest.length then none
    else (Toml.scalar? digits).map fun c => (c, rest.drop (digits.length + 1))
  | c :: rest =>
    ([('\'', '\''), ('"', '"'), ('\\', '\\'), ('n', '\n'), ('r', '\r'), ('t', '\t'),
      ('0', '\x00')].lookup c).map fun e => (e, rest)
  | [] => none

/-- Reads a text with escapes up to its quote, of no more than `most` characters. -/
def readText? : Nat → List Char → List Char → Option (String × List Char)
  | _ + 1, done, '"' :: rest => some (.ofList done.reverse, rest)
  | most + 1, done, '\\' :: rest =>
    match readEscape? rest with
    | some (c, rest) => readText? most (c :: done) rest
    | none => none
  | most + 1, done, c :: rest => readText? most (c :: done) rest
  | _, _, _ => none

/-- Reads a text without escapes up to its last mark. -/
def readRaw? (last : List Char) (done : List Char) : List Char → Option (String × List Char)
  | [] => none
  | c :: rest =>
    if last.isPrefixOf (c :: rest) then
      some (.ofList done.reverse, (c :: rest).drop last.length)
    else readRaw? last (c :: done) rest

/-- Reads a character after its quote. -/
def readChar? : List Char → Option (Char × List Char)
  | '\\' :: rest => do
    match ← readEscape? rest with
    | (c, '\'' :: rest) => return (c, rest)
    | _ => none
  | c :: '\'' :: rest => if c = '\'' then none else some (c, rest)
  | _ => none

/-! ## Numbers -/

/-- A character of a whole number. -/
def isWholeChar (c : Char) : Bool :=
  (Json.hexValue? c).isSome || c = '_'

/-- A character of a real number. -/
def isRealChar (c : Char) : Bool :=
  Json.continuesNumber c || c = '_'

/-- Reads a whole number without its sign. -/
def readWhole? (cs : List Char) : Option (Nat × List Char) := do
  let (base, cs) := match cs with
    | '0' :: 'x' :: rest => (16, rest)
    | '0' :: 'o' :: rest => (8, rest)
    | '0' :: 'b' :: rest => (2, rest)
    | cs => (10, cs)
  let written := cs.takeWhile isWholeChar
  guard (!written.isEmpty && written.head? ≠ some '_')
  let ds ← (written.filter (· ≠ '_')).mapM Json.hexValue?
  guard (!ds.any (base ≤ ·))
  return (ds.foldl (fun n d => n * base + d) 0, cs.drop written.length)

/-- A whole number of 64 bits as a value: one that does not fit with a sign is real. -/
def wholeTree? (sign : Option Char) (n : Nat) : Option Tree :=
  if sign = some '-' then if n ≤ Decimal.mostSigned64 + 1 then some (.whole (-n)) else none
  else if n ≤ Decimal.mostSigned64 then some (.whole n)
  else if sign.isNone && n ≤ Decimal.most64 then some (.real n.toFloat)
  else none

/-- Reads a number. It is real if it has a character that no whole number has. -/
def readNumber? (cs : List Char) : Option (Tree × List Char) := do
  let sign := cs.head?.filter fun c => c = '+' || c = '-'
  let unsigned := if sign.isSome then cs.drop 1 else cs
  if (unsigned.takeWhile isWholeChar).length < (unsigned.takeWhile isRealChar).length then
    let written := cs.takeWhile isRealChar
    let x ← Decimal.readReal (.ofList written)
    return (.real x, cs.drop written.length)
  else
    let (n, rest) ← readWhole? unsigned
    return (← wholeTree? sign n, rest)

/-! ## Values -/

/-- Reads a value that is a single word, text or number. -/
def readPlain? (cs : List Char) : Option (Tree × List Char) :=
  match dropWord? "true" cs, dropWord? "false" cs, dropWord? "None" cs with
  | some rest, _, _ => some (.flag true, rest)
  | _, some rest, _ => some (.flag false, rest)
  | _, _, some rest => some (.nothing, rest)
  | _, _, _ =>
    match dropWord? "inf" cs, dropWord? "-inf" cs, dropWord? "NaN" cs with
    | some rest, _, _ => some (.real (1.0 / 0.0), rest)
    | _, some rest, _ => some (.real (-1.0 / 0.0), rest)
    | _, _, some rest => some (.real (0.0 / 0.0), rest)
    | _, _, _ =>
      match cs with
      | '"' :: rest => (readText? (rest.length + 1) [] rest).map fun (s, rest) => (.text s, rest)
      | 'r' :: rest =>
        let hashes := rest.takeWhile (· = '#')
        match rest.dropWhile (· = '#') with
        | '"' :: rest => (readRaw? ('"' :: hashes) [] rest).map fun (s, rest) => (.text s, rest)
        | _ => none
      | '\'' :: rest => (readChar? rest).map fun (c, rest) => (.text (.singleton c), rest)
      | c :: _ =>
        if Decimal.isDigit c || c = '+' || c = '-' || c = '.' then readNumber? cs else none
      | [] => none

/-- The brackets hold entries: a name and a colon stand first. -/
def beginsEntry? (cs : List Char) : Option Bool :=
  match readName? cs with
  | none => some false
  | some (_, rest) => do
    match ← skipBlanks? rest with
    | [] => none
    | c :: _ => return c = ':'

/-- How many values and brackets may be inside of each other. -/
def deepest : Nat := 128

/-- One level less, if there is one. -/
def below? : Nat → Option Nat
  | 0 => none
  | left + 1 => some left

mutual

/-- Reads a value. `left` is the number of levels that may still be begun. -/
def readValue? : Nat → Nat → List Char → Option (Tree × List Char)
  | 0, _, _ => none
  | fuel + 1, left, cs =>
    match dropWord? "Some" cs with
    | some rest => do
      match ← skipBlanks? rest with
      | '(' :: rest => do
        let (v, rest) ← readValue? fuel (← below? left) (← skipBlanks? rest)
        match ← skipComma? rest with
        | (_, ')' :: rest) => return (v, rest)
        | _ => none
      | _ => none
    | none =>
      match readPlain? cs, cs with
      | some found, _ => some found
      | none, '(' :: ')' :: rest => some (.nothing, rest)
      | none, '(' :: rest => readRound? fuel left rest
      | none, '[' :: rest => do
        let (items, rest) ← readItems? ']' fuel (← below? left) true (← skipBlanks? rest)
        return (.list items, rest)
      | none, '\x7b' :: rest => do
        let (entries, rest) ← readEntries? '\x7d' fuel (← below? left) true (← skipBlanks? rest)
        return (Tree.ofEntries entries, rest)
      | none, cs => do
        let (_, rest) ← readName? cs
        match ← skipBlanks? rest with
        | '(' :: rest => readRound? fuel left rest
        | rest => return (.nothing, rest)

/-- Reads what stands between round brackets: entries with plain names, or items. -/
def readRound? : Nat → Nat → List Char → Option (Tree × List Char)
  | 0, _, _ => none
  | fuel + 1, left, cs => do
    let cs ← skipBlanks? cs
    let left ← below? left
    if ← beginsEntry? cs then
      let (entries, rest) ← readEntries? ')' fuel left true cs
      return (Tree.ofEntries entries, rest)
    else
      let (items, rest) ← readItems? ')' fuel left true cs
      return (.list items, rest)

/-- Reads items and the bracket after them. -/
def readItems? (close : Char) :
    Nat → Nat → Bool → List Char → Option (List Tree × List Char)
  | 0, _, _, _ => none
  | fuel + 1, left, due, cs =>
    if cs.head? = some close then some ([], cs.drop 1)
    else if !due then none
    else do
      let (v, rest) ← readValue? fuel (← below? left) cs
      let (due, rest) ← skipComma? rest
      let (vs, rest) ← readItems? close fuel left due rest
      return (v :: vs, rest)

/-- Reads entries and the bracket after them. Names are plain in round brackets,
and texts in curly ones. -/
def readEntries? (close : Char) :
    Nat → Nat → Bool → List Char → Option (List (String × Tree) × List Char)
  | 0, _, _, _ => none
  | fuel + 1, left, due, cs =>
    if cs.head? = some close then some ([], cs.drop 1)
    else if !due then none
    else do
      let inner ← below? left
      let (name, rest) ←
        if close = ')' then readName? cs
        else
          match dropWord? "Some" cs, ← readValue? fuel inner cs with
          | none, (.text name, rest) => some (name, rest)
          | _, _ => none
      match ← skipBlanks? rest with
      | ':' :: rest => do
        let (v, rest) ← readValue? fuel inner (← skipBlanks? rest)
        let (due, rest) ← skipComma? rest
        let (entries, rest) ← readEntries? close fuel left due rest
        return ((name, v) :: entries, rest)
      | _ => none

end

/-! ## Documents -/

/-- The names of the extensions that a text may ask for. None changes
what a value is here. -/
def extensions : List String :=
  ["unwrap_newtypes", "implicit_some", "unwrap_variant_newtypes"]

/-- Takes a mark and the blanks after it. -/
def dropMark? (mark : String) (cs : List Char) : Option (List Char) :=
  if mark.toList.isPrefixOf cs then skipBlanks? (cs.drop mark.length) else none

/-- Drops the names of extensions with commas between them. -/
def skipExtensions? : Nat → List Char → Option (List Char)
  | 0, _ => none
  | most + 1, cs => do
    let (name, rest) ← readName? cs
    guard (extensions.contains name)
    let (due, rest) ← skipComma? rest
    if due && rest.head?.any isNameChar then skipExtensions? most rest
    else if rest.head?.any isNameChar then none
    else return rest

/-- Drops the lines that ask for extensions. -/
def skipAttributes? : Nat → List Char → Option (List Char)
  | most + 1, '#' :: rest => do
    let rest ← dropMark? "(" (← dropMark? "enable" (← dropMark? "[" (← dropMark? "!"
      (← skipBlanks? rest))))
    let rest ← skipExtensions? rest.length rest
    skipAttributes? most (← dropMark? "]" (← dropMark? ")" rest))
  | _, cs => some cs

/-- The value that a text writes. -/
def read? (text : String) : Option Tree := do
  let cs ← skipBlanks? text.toList
  let cs ← skipAttributes? cs.length cs
  let (v, rest) ← readValue? (3 * cs.length + 3) deepest cs
  match ← skipBlanks? rest with
  | [] => return v
  | _ => none

end Sortie.Settings.Ron
