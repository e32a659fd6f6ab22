import Sortie.Yaml.Scalar
import Sortie.Yaml.Token
/-!
# The tokens of a YAML text

Lists and tables of lines have no marks of their own: they begin where a line is
deeper than those around it, and end where one is less deep. A name is known as such
only when the colon after it is met, so the lexer remembers where a name may have
begun, and puts the token for it there.
-/

namespace Sortie.Yaml

/-- Where a name may have begun. -/
structure NameSpot where
  isPossible : Bool := false
  /-- Nothing but a name can stand here. -/
  isRequired : Bool := false
  /-- The number of tokens before it. -/
  number : Nat := 0
  index : Nat := 0
  line : Nat := 0
  column : Nat := 0
  deriving Repr, Inhabited

/-- A text that has been read up to some place. Innermost things come first. -/
structure Lexer where
  cursor : Cursor
  tokens : List Token := []
  /-- The last token is an anchor or tag that begins a line. -/
  isLoose : Bool := false
  allowsNames : Bool := true
  /-- Where a name may have begun, one for each open bracket and one
  for what is around them. -/
  spots : List NameSpot := [{}]
  /-- How deep the innermost list or table of lines is. -/
  indent : Int := -1
  /-- How deep the ones around it are, and which of them end with a token. -/
  indents : List (Int × Bool) := []
  /-- For each open list in brackets: an item that is a single name
  with a value has begun. -/
  singles : List Bool := []
  /-- A table in brackets has been met. -/
  meetsTable : Bool := false
  /-- The place at which a colon needs no blank after it. -/
  adjacent : Nat := 0
  deriving Inhabited

namespace Lexer

/-- Some bracket is open. -/
def inFlow (l : Lexer) : Bool :=
  1 < l.spots.length

/-- The most brackets that may be open. -/
def mostOpen : Nat := 255

/-- The lexer with a token more. -/
def push (l : Lexer) (t : Token) : Lexer :=
  { l with tokens := l.tokens ++ [t], isLoose := false }

/-- The lexer with a token put before one that it has. -/
def insert (l : Lexer) (number : Nat) (t : Token) : Lexer :=
  { l with tokens := l.tokens.insertIdx number t }

/-! ## Names -/

/-- Gives up the name that may have begun. -/
def dropName? (l : Lexer) : Option Lexer :=
  match l.spots with
  | [] => some l
  | spot :: outer =>
    if spot.isPossible && spot.isRequired then none
    else some { l with spots := { spot with isPossible := false } :: outer }

/-- The most characters of a name, outside of brackets. -/
def longestName : Nat := 1024

/-- Gives up names that are too far back. Outside of brackets a name ends on its line. -/
def dropStale? (l : Lexer) : Option Lexer :=
  match l.spots with
  | [spot] =>
    let isStale := spot.line < l.cursor.line || spot.index + longestName < l.cursor.index
    if spot.isPossible && isStale then l.dropName? else some l
  | _ => some l

/-- Remembers that a name may begin here. -/
def saveName (l : Lexer) : Lexer :=
  if l.allowsNames then
    let isRequired := !l.inFlow && l.indent = l.cursor.column && l.indents.head?.any (·.2)
    { l with spots :=
        { isPossible := true, isRequired, number := l.tokens.length, index := l.cursor.index
          line := l.cursor.line, column := l.cursor.column } :: l.spots.drop 1 }
  else l

/-! ## Depth -/

/-- Ends lists and tables of lines that are deeper than `column`. -/
def closeTo (l : Lexer) (column : Int) : Lexer :=
  if l.inFlow then l else go l.indents l
where
  go : List (Int × Bool) → Lexer → Lexer
    | [], l => l
    | (outer, ends) :: more, l =>
      if column < l.indent then
        let l := { l with indent := outer, indents := more }
        go more (if ends then l.push .linesEnd else l)
      else l

/-- Forgets the columns that values were promised. -/
def dropColumns (l : Lexer) : Lexer :=
  go l.indents l
where
  go : List (Int × Bool) → Lexer → Lexer
    | (outer, false) :: more, l => go more { l with indent := outer, indents := more }
    | _, l => l

/-- Promises that a value is deeper than the list or table it is in. -/
def addColumn (l : Lexer) : Lexer :=
  if !l.inFlow && l.indents.head?.any (·.2) then
    { l with indents := (l.indent, false) :: l.indents, indent := l.indent + 1 }
  else l

/-- Begins a list or table of lines if the column is deeper than the innermost one. Its
token is put before that with the number. -/
def openLines (l : Lexer) (column number : Nat) (t : Token) : Lexer :=
  if l.inFlow then l
  else
    let l := match l.indents with
      | (outer, false) :: more =>
        if l.indent ≤ (column : Int) then { l with indent := outer, indents := more } else l
      | _ => l
    if l.indent < (column : Int) then
      { l with indents := (l.indent, true) :: l.indents, indent := column }.insert number t
    else l

/-! ## Tokens -/

/-- Passes blanks, comments and line breaks. Tabs may not make up the
indentation of a line. -/
def passBlanks? : Nat → Lexer → Option Lexer
  | 0, _ => none
  | most + 1, l =>
    let c := l.cursor
    if c.head = '\t' && !l.indents.isEmpty && c.fresh && c.column < l.indent then
      match c.passGap? true with
      | none => none
      | some (_, c) => if endsLine c.head then passBlanks? most { l with cursor := c } else none
    else if isBlank c.head then passBlanks? most { l with cursor := c.pass 1 }
    else if isBreak c.head then
      passBlanks? most { l with cursor := c.passBreak, allowsNames := l.allowsNames || !l.inFlow }
    else if c.head = '#' then passBlanks? most { l with cursor := c.passLine }
    else some l

def readQuoted? (l : Lexer) (single : Bool) : Option Lexer := do
  let l := { l.saveName with allowsNames := false }
  let (s, c) ← Yaml.readQuoted? single l.inFlow l.indent l.cursor
  let l ← passBlanks? (c.rest.length + 1) { l with cursor := c }
  return { l with adjacent := l.cursor.index }.push (.scalar false s)

/-- Reads a plain text. A name may begin on the line after it. -/
def readPlain? (l : Lexer) : Option Lexer := do
  let l := { l.saveName with allowsNames := false }.dropColumns
  let (s, c) ← Yaml.readPlain? l.inFlow (l.indent + 1) l.cursor
  return { l with cursor := c, allowsNames := c.fresh }.push (.scalar true s)

def readBlock? (l : Lexer) (literal : Bool) : Option Lexer := do
  let l := { l.saveName with allowsNames := true }.dropColumns
  let (s, c) ← Yaml.readBlock? literal l.indent l.cursor
  return { l with cursor := c }.push (.scalar false s)

/-- Reads an anchor, an alias or a tag. -/
def readProperty? (l : Lexer) (read : Cursor → Option (Token × Cursor)) : Option Lexer := do
  let isLoose := l.cursor.column = 0
  let l := { l.saveName with allowsNames := false }
  let (t, c) ← read l.cursor
  return { { l with cursor := c }.push t with isLoose }

/-- Reads a bracket that opens a list or table. -/
def openFlow? (l : Lexer) (t : Token) : Option Lexer := do
  let l := l.saveName.addColumn
  guard (l.spots.length ≤ mostOpen)
  let (_, c) ← (l.cursor.take 1).passGap? true
  let l := { l with cursor := c, spots := {} :: l.spots, allowsNames := true }
  let l := if t = .tableStart then { l with meetsTable := true }
    else { l with singles := false :: l.singles }
  return l.push t

/-- Ends an item that is a single name with a value. -/
def endSingle (l : Lexer) : Lexer :=
  match l.singles with
  | true :: outer => { l with singles := false :: outer, meetsTable := false }.push .tableEnd
  | _ => l

/-- Reads a bracket that closes a list or table. -/
def closeFlow? (l : Lexer) (t : Token) : Option Lexer := do
  let l ← l.dropName?
  let l := { l with spots := if l.inFlow then l.spots.drop 1 else l.spots, allowsNames := false }
  let l := if t = .listEnd then { l.endSingle with singles := l.singles.drop 1 } else l
  let (_, c) ← (l.cursor.take 1).passGap? true
  return { l with cursor := c, adjacent := if l.inFlow then c.index else l.adjacent }.push t

def readComma? (l : Lexer) : Option Lexer := do
  let l ← l.dropName?
  let l := { l with allowsNames := true }.endSingle
  let (_, c) ← (l.cursor.take 1).passGap? true
  return { l with cursor := c }.push .comma

/-- Reads the dash of an item. Another dash, or a value that is a list or table in the same
line, must not stand behind a tab. -/
def readItem? (l : Lexer) : Option Lexer := do
  guard (!l.inFlow && l.allowsNames)
  guard (!(l.isLoose && l.cursor.column = 0 && -1 < l.indent))
  let l := l.openLines l.cursor.column l.tokens.length .linesList
  let (gap, c) ← (l.cursor.take 1).passGap? true
  guard (!(gap.tabs && c.head = '-' && endsWord (c.ahead 1)))
  let l := { l with cursor := c }
  let l := if isBreak c.head || isFlowMark c.head then l.addColumn else l
  let l ← l.dropName?
  return { l with allowsNames := true }.push .item

/-- Passes blanks, comments and line breaks after the mark of a name; there must
be a blank or a break. -/
def passAfterMark? : Nat → Bool → Lexer → Option Lexer
  | 0, _, _ => none
  | most + 1, passed, l =>
    let c := l.cursor
    if c.head = ' ' then passAfterMark? most true { l with cursor := c.pass 1 }
    else if isBreak c.head then
      passAfterMark? most true
        { l with cursor := c.passBreak, allowsNames := l.allowsNames || !l.inFlow }
    else if c.head = '#' then passAfterMark? most passed { l with cursor := c.passLine }
    else if passed && c.head ≠ '\t' then some l
    else none

/-- Reads the mark before a name. -/
def readNameMark? (l : Lexer) : Option Lexer := do
  guard (l.inFlow || l.allowsNames)
  let l := if l.inFlow then { l with meetsTable := true }
    else l.openLines l.cursor.column l.tokens.length .linesTable
  let l ← l.dropName?
  let l := { l with allowsNames := !l.inFlow, cursor := l.cursor.take 1 }
  let l ← passAfterMark? (l.cursor.rest.length + 1) false l
  return l.push .name

/-- Reads the colon before a value. If a name may have begun it has, and
its token is put there. -/
def readValueMark? (l : Lexer) : Option Lexer := do
  let start := l.cursor
  let spot := l.spots.headD {}
  let isSingle := !l.singles.isEmpty && !l.meetsTable
  let l := if isSingle then { l with singles := true :: l.singles.drop 1 } else l
  let c := l.cursor.take 1
  let c ← if c.head = '\t' then do
      let (gap, c) ← c.passGap? true
      guard (gap.spaces || !isWordChar c.head)
      pure c
    else pure c
  let l := { l with cursor := c }
  if spot.isPossible then
    let l := l.insert spot.number .name
    guard (!(isSingle && spot.line < start.line))
    let l := if isSingle then l.insert spot.number .tableStart else l
    let l := (l.openLines spot.column spot.number .linesTable).addColumn
    let l := { l with spots := { spot with isPossible := false } :: l.spots.drop 1 }
    return { l with allowsNames := false }.push .value
  else
    let l := if isSingle then l.push .tableStart else l
    guard (l.inFlow || l.allowsNames)
    let l := (l.openLines start.column l.tokens.length .linesTable).addColumn
    return { l with allowsNames := !l.inFlow }.push .value

/-- Reads what stands alone on a line: a directive or the mark of a document. -/
def readMargin? (l : Lexer) : Option Lexer := do
  let l ← (l.closeTo (-1)).dropName?
  let l := { l with allowsNames := false }
  if l.cursor.head = '%' then
    let (t, c) ← readDirective? l.cursor
    return { l with cursor := c }.push t
  else if l.cursor.head = '-' then
    return { l with cursor := l.cursor.take 3 }.push .documentStart
  else
    let (_, c) ← (l.cursor.take 3).passGap? true
    guard (endsLine c.head)
    return { l with cursor := c }.push .documentEnd

/-- Reads a token that is not alone on its line. -/
def readInner? (l : Lexer) : Option Lexer :=
  let c := l.cursor.head
  let next := l.cursor.ahead 1
  if c = '[' then l.openFlow? .listStart
  else if c = '\x7b' then l.openFlow? .tableStart
  else if c = ']' then l.closeFlow? .listEnd
  else if c = '\x7d' then l.closeFlow? .tableEnd
  else if c = ',' then l.readComma?
  else if c = '-' && endsWord next then l.readItem?
  else if c = '?' && endsWord next then l.readNameMark?
  else if c = ':' && (endsWord next ||
      (l.inFlow && (isFlowMark next || l.cursor.index = l.adjacent))) then l.readValueMark?
  else if c = '*' then
    l.readProperty? fun c => (readAnchor? c).map fun (name, c) => (.alias name, c)
  else if c = '&' then
    l.readProperty? fun c => (readAnchor? c).map fun (name, c) => (.anchor name, c)
  else if c = '!' then l.readProperty? (readTag? l.inFlow)
  else if c = '|' && !l.inFlow then l.readBlock? true
  else if c = '>' && !l.inFlow then l.readBlock? false
  else if c = '\'' then l.readQuoted? true
  else if c = '"' then l.readQuoted? false
  else if c = '%' || c = '@' || c = '\x60' then none
  else l.readPlain?

def finish? (l : Lexer) : Option Lexer := do
  guard (!l.spots.any fun spot => spot.isPossible && spot.isRequired)
  return l.closeTo (-1)

/-- Reads the rest of the text, one token at a time. -/
def run? : Nat → Lexer → Option Lexer
  | 0, _ => none
  | most + 1, l => do
    let l ← passBlanks? (l.cursor.rest.length + 1) l
    let l ← l.dropStale?
    let l := l.closeTo l.cursor.column
    if l.cursor.isAtEnd then l.finish?
    else if l.cursor.column = 0 && (l.cursor.head = '%' || l.cursor.isAtDocumentMark) then
      run? most (← l.readMargin?)
    else if l.cursor.column < l.indent then none
    else run? most (← l.readInner?)

end Lexer

def tokens? (text : String) : Option (List Token) := do
  let c := Cursor.ofText text
  let l ← Lexer.run? (c.rest.length + 1) { cursor := c }
  return l.tokens

end Sortie.Yaml
