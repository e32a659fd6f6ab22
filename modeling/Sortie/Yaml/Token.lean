import Sortie.Toml.Text
import Sortie.Yaml.Cursor
/-!
# YAML tokens

What a YAML text is made of, and the tokens that are read without regard to what stands
around them: directives, anchors and tags.
-/

namespace Sortie.Yaml

/-- What a YAML text is made of. -/
inductive Token where
  | version
  | tagPrefix (handle uri : String)
  | documentStart
  | documentEnd
  /-- The first item of a list of lines follows. -/
  | linesList
  /-- The first name of a table of lines follows. -/
  | linesTable
  /-- The innermost list or table of lines ends. -/
  | linesEnd
  | listStart
  | listEnd
  | tableStart
  | tableEnd
  /-- An item of a list of lines follows. -/
  | item
  | comma
  | name
  /-- The value of a name follows. -/
  | value
  | alias (anchor : String)
  | anchor (name : String)
  | tag (handle suffix : String)
  | scalar (isPlain : Bool) (text : String)
  deriving Repr, BEq, DecidableEq, Inhabited

/-! ## Directives -/

def Cursor.passBlanks (c : Cursor) : Cursor :=
  c.pass (c.rest.takeWhile isBlank).length

/-- Passes a number of one to nine digits. -/
def passVersionPart? (c : Cursor) : Option Cursor :=
  let n := (c.rest.takeWhile Char.isDigit).length
  if 1 ≤ n && n ≤ 9 then some (c.take n) else none

/-- Reads the name of a tag's prefix: letters between two marks, one mark, or, unless it is
a `directive`, a mark and letters. -/
def readHandle? (directive : Bool) (c : Cursor) : Option (String × Cursor) :=
  if c.head = '!' then
    let word := (c.rest.drop 1).takeWhile isWordChar
    let after := c.take (1 + word.length)
    if after.head = '!' then some (.ofList ('!' :: word ++ ['!']), after.take 1)
    else if directive && !word.isEmpty then none
    else some (.ofList ('!' :: word), after)
  else none

/-- A character of an address. -/
def isUriChar (c : Char) : Bool :=
  isWordChar c || "#;/?:@&=+$,.!~*'()[]%".toList.contains c

/-- A character of the last part of a tag. -/
def isTagChar (c : Char) : Bool :=
  isUriChar c && !isFlowMark c && c ≠ '!'

/-- The byte that a percent sign and two hexadecimal digits stand for. -/
def octet? (c : Cursor) : Option Nat := do
  guard (c.head = '%')
  return (← Json.hexValue? (c.ahead 1)) * 16 + (← Json.hexValue? (c.ahead 2))

/-- Reads a character that is written as one or two bytes; the number of one that is
written as two is that of the bytes side by side. Longer ones have no number. -/
def readOctets? (c : Cursor) : Option (Char × Cursor) := do
  let first ← octet? c
  if first < 0x80 then return (Char.ofNat first, c.take 3)
  else if first / 0x20 = 6 then
    let second ← octet? (c.take 3)
    let n := first * 0x100 + second
    if second / 0x40 = 2 && n < 0xD800 then return (Char.ofNat n, c.take 6) else none
  else none

/-- Reads the characters of an address that fit. -/
def readUri? (fits : Char → Bool) : Nat → List Char → Cursor → Option (List Char × Cursor)
  | 0, done, c => some (done.reverse, c)
  | most + 1, done, c =>
    if c.head = '%' then
      match readOctets? c with
      | some (x, c) => readUri? fits most (x :: done) c
      | none => none
    else if fits c.head then readUri? fits most (c.head :: done) (c.take 1)
    else some (done.reverse, c)

/-- Reads the address that a handle stands for. -/
def readPrefix? (c : Cursor) : Option (String × Cursor) :=
  if c.head = '!' || isTagChar c.head then
    if c.head = '!' then
      (readUri? isUriChar c.rest.length ['!'] (c.take 1)).map fun (uri, c) => (.ofList uri, c)
    else (readUri? isUriChar c.rest.length [] c).map fun (uri, c) => (.ofList uri, c)
  else none

/-- Reads a directive with its line. One that is not known is passed over. -/
def readDirective? (c : Cursor) : Option (Token × Cursor) := do
  let word := (c.rest.drop 1).takeWhile isWordChar
  let after := c.take (1 + word.length)
  guard (!word.isEmpty && endsWord after.head)
  let (token, after) ←
    if word = "YAML".toList then do
      let after ← passVersionPart? after.passBlanks
      guard (after.head = '.')
      pure (Token.version, ← passVersionPart? (after.take 1))
    else if word = "TAG".toList then do
      let (handle, after) ← readHandle? true after.passBlanks
      let (uri, after) ← readPrefix? after.passBlanks
      guard (endsWord after.head)
      pure (Token.tagPrefix handle uri, after)
    else pure (Token.tagPrefix "" "", after.passLine)
  let (_, after) ← after.passGap? true
  if isBreak after.head then return (token, after.passBreak)
  else if after.isAtEnd then return (token, after)
  else none

/-! ## Anchors and tags -/

/-- A character of an anchor's name. -/
def isAnchorChar (c : Char) : Bool :=
  !(endsWord c || isFlowMark c || c = '\uFEFF')

/-- Reads the name after the mark of an anchor or alias. -/
def readAnchor? (c : Cursor) : Option (String × Cursor) :=
  let name := (c.rest.drop 1).takeWhile isAnchorChar
  if name.isEmpty then none else some (.ofList name, c.take (1 + name.length))

/-- Reads a tag between angles. -/
def readVerbatim? (c : Cursor) : Option (String × Cursor) := do
  let (uri, after) ← readUri? isUriChar c.rest.length [] (c.take 2)
  if after.head = '>' then return (.ofList uri, after.take 1) else none

/-- Reads a tag: a handle and a suffix. Both marks of a handle are written; a tag with one
mark has the mark for a handle, and a mark alone is a suffix. -/
def readTag? (inFlow : Bool) (c : Cursor) : Option (Token × Cursor) := do
  let (handle, suffix, after) ←
    if c.ahead 1 = '<' then do
      let (uri, after) ← readVerbatim? c
      pure ("", uri, after)
    else do
      let (handle, after) ← readHandle? false c
      let isNamed := 2 ≤ handle.length && handle.toList.getLast? == some '!'
      let (suffix, after) ← readUri? isTagChar after.rest.length [] after
      if isNamed then do
        guard (!suffix.isEmpty)
        pure (handle, String.ofList suffix, after)
      else
        let suffix := handle.toList.drop 1 ++ suffix
        pure (if suffix.isEmpty then ("", "!", after) else ("!", .ofList suffix, after))
  if endsWord after.head || (inFlow && isFlowMark after.head) then
    return (.tag handle suffix, after)
  else none

end Sortie.Yaml
