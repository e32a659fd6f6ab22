import Sortie.Json.Lexer
/-!
# Texts and keys

The four ways to write a text, and keys. Each reader takes what follows the opening quotes
and gives the characters of the text with what follows the closing quotes.
-/

namespace Sortie.Toml

/-- A blank inside a line. -/
def isBlank (c : Char) : Bool :=
  c = ' ' || c = '\t'

/-- Drops the blanks at the front. -/
def skipBlanks (cs : List Char) : List Char :=
  cs.dropWhile isBlank

/-- A character that may stand in a text or comment on one line. -/
def isPlain (c : Char) : Bool :=
  c = '\t' || (0x20 ≤ c.toNat && c.toNat ≠ 0x7F)

def lineBreak? : List Char → Option (List Char)
  | '\n' :: rest => some rest
  | '\r' :: '\n' :: rest => some rest
  | _ => none

/-- The character with a hexadecimal number, which must be a Unicode scalar value. -/
def scalar? (digits : List Char) : Option Char := do
  let ds ← digits.mapM Json.hexValue?
  let n := ds.foldl (fun n d => n * 16 + d) 0
  if n < 0xD800 || (0xDFFF < n && n < 0x110000) then some (Char.ofNat n) else none

/-- The character that a one-letter escape names. -/
def shortEscape? (c : Char) : Option Char :=
  if c = '/' then none else Json.shortEscape? c

/-- Reads a text in double quotes. `done` holds its characters so far, last first. -/
def readBasic (done : List Char) : List Char → Option (List Char × List Char)
  | [] => none
  | '"' :: rest => some (done.reverse, rest)
  | '\\' :: 'u' :: a :: b :: c :: d :: rest =>
    match scalar? [a, b, c, d] with
    | some x => readBasic (x :: done) rest
    | none => none
  | '\\' :: 'U' :: a :: b :: c :: d :: e :: f :: g :: h :: rest =>
    match scalar? [a, b, c, d, e, f, g, h] with
    | some x => readBasic (x :: done) rest
    | none => none
  | '\\' :: e :: rest =>
    match shortEscape? e with
    | some x => readBasic (x :: done) rest
    | none => none
  | c :: rest => if isPlain c then readBasic (c :: done) rest else none

/-- Reads a text in single quotes, which has no escapes. -/
def readLiteral (done : List Char) : List Char → Option (List Char × List Char)
  | [] => none
  | '\'' :: rest => some (done.reverse, rest)
  | c :: rest => if isPlain c then readLiteral (c :: done) rest else none

/-- Reads a text in three double quotes. One or two quotes may stand before the closing
three. A backslash at the end of a line hides the break and all blanks and breaks after it;
while these are passed over, `folding` is set. -/
def readLongBasic (folding : Bool) (done : List Char) :
    List Char → Option (List Char × List Char)
  | [] => none
  | '\n' :: rest => readLongBasic folding (if folding then done else '\n' :: done) rest
  | '\r' :: '\n' :: rest => readLongBasic folding (if folding then done else '\n' :: done) rest
  | '"' :: '"' :: '"' :: '"' :: '"' :: rest => some (('"' :: '"' :: done).reverse, rest)
  | '"' :: '"' :: '"' :: '"' :: rest => some (('"' :: done).reverse, rest)
  | '"' :: '"' :: '"' :: rest => some (done.reverse, rest)
  | '\\' :: 'u' :: a :: b :: c :: d :: rest =>
    match scalar? [a, b, c, d] with
    | some x => readLongBasic false (x :: done) rest
    | none => none
  | '\\' :: 'U' :: a :: b :: c :: d :: e :: f :: g :: h :: rest =>
    match scalar? [a, b, c, d, e, f, g, h] with
    | some x => readLongBasic false (x :: done) rest
    | none => none
  | '\\' :: e :: rest =>
    match shortEscape? e with
    | some x => readLongBasic false (x :: done) rest
    | none =>
      if (lineBreak? (skipBlanks (e :: rest))).isNone then none else readLongBasic true done rest
  | c :: rest =>
    if folding && isBlank c then readLongBasic true done rest
    else if isPlain c then readLongBasic false (c :: done) rest
    else none

/-- Reads a text in three single quotes. -/
def readLongLiteral (done : List Char) : List Char → Option (List Char × List Char)
  | [] => none
  | '\n' :: rest => readLongLiteral ('\n' :: done) rest
  | '\r' :: '\n' :: rest => readLongLiteral ('\n' :: done) rest
  | '\'' :: '\'' :: '\'' :: '\'' :: '\'' :: rest => some (('\'' :: '\'' :: done).reverse, rest)
  | '\'' :: '\'' :: '\'' :: '\'' :: rest => some (('\'' :: done).reverse, rest)
  | '\'' :: '\'' :: '\'' :: rest => some (done.reverse, rest)
  | c :: rest => if isPlain c then readLongLiteral (c :: done) rest else none

/-- Drops a line break that stands right at the front. -/
def skipLineBreak (cs : List Char) : List Char :=
  (lineBreak? cs).getD cs

/-- Reads a text with its quotes. -/
def readText? : List Char → Option (String × List Char)
  | '"' :: '"' :: '"' :: rest => finish (readLongBasic false [] (skipLineBreak rest))
  | '"' :: rest => finish (readBasic [] rest)
  | '\'' :: '\'' :: '\'' :: rest => finish (readLongLiteral [] (skipLineBreak rest))
  | '\'' :: rest => finish (readLiteral [] rest)
  | _ => none
where
  finish (found : Option (List Char × List Char)) : Option (String × List Char) :=
    found.map fun (read, rest) => (.ofList read, rest)

/-- A character of a key without quotes. -/
def isKeyChar (c : Char) : Bool :=
  c.isAlphanum || c = '_' || c = '-'

/-- Reads one part of a key. -/
def readKeyPart? : List Char → Option (String × List Char)
  | '"' :: rest => (readBasic [] rest).map fun (read, rest) => (.ofList read, rest)
  | '\'' :: rest => (readLiteral [] rest).map fun (read, rest) => (.ofList read, rest)
  | cs =>
    let word := cs.takeWhile isKeyChar
    if word.isEmpty then none else some (.ofList word, cs.dropWhile isKeyChar)

/-- Reads a key: parts with points between them, and blanks around each.
At most `most` parts. -/
def readKey? : Nat → List Char → Option (List String × List Char)
  | 0, _ => none
  | most + 1, cs =>
    match readKeyPart? (skipBlanks cs) with
    | none => none
    | some (part, rest) =>
      match skipBlanks rest with
      | '.' :: rest => (readKey? most rest).map fun (parts, rest) => (part :: parts, rest)
      | rest => some ([part], rest)

end Sortie.Toml
