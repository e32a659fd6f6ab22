/-!
# Places in a YAML text

A cursor is a place in a text together with what is left of it. It knows how far the place
is from the beginning of its line, and whether nothing but blanks has been passed there.
The end of the text reads as the character NUL; so does NUL itself.
-/

namespace Sortie.Yaml

/-- A character that ends a line. -/
def isBreak (c : Char) : Bool :=
  c = '\n' || c = '\r'

/-- A blank inside a line. -/
def isBlank (c : Char) : Bool :=
  c = ' ' || c = '\t'

/-- The end of a line or of the text. -/
def endsLine (c : Char) : Bool :=
  isBreak c || c = '\x00'

/-- A blank, or the end of a line or of the text. -/
def endsWord (c : Char) : Bool :=
  isBlank c || endsLine c

/-- A bracket or comma of a collection in brackets. -/
def isFlowMark (c : Char) : Bool :=
  c = ',' || c = '[' || c = ']' || c = '\x7b' || c = '\x7d'

/-- A letter, a digit, a dash or an underscore. -/
def isWordChar (c : Char) : Bool :=
  c.isAlphanum || c = '_' || c = '-'

/-- A place in a text, and what is left of it. -/
structure Cursor where
  rest : List Char
  index : Nat := 0
  line : Nat := 0
  column : Nat := 0
  /-- Only blanks have been passed on this line. -/
  fresh : Bool := true
  deriving Repr, Inhabited

namespace Cursor

/-- The cursor at the beginning of a text, which ends before the first NUL. -/
def ofText (text : String) : Cursor :=
  { rest := text.toList.takeWhile (· ≠ '\x00') }

/-- The character `n` places further on. -/
def ahead (c : Cursor) (n : Nat) : Char :=
  c.rest.getD n '\x00'

def head (c : Cursor) : Char :=
  c.ahead 0

def isAtEnd (c : Cursor) : Bool :=
  c.rest.isEmpty

/-- Passes blanks. -/
def pass (c : Cursor) (n : Nat) : Cursor :=
  { c with rest := c.rest.drop n, index := c.index + n, column := c.column + n }

/-- Passes characters that are not all blank. -/
def take (c : Cursor) (n : Nat) : Cursor :=
  { c.pass n with fresh := false }

/-- Passes a line break, of one character or two. -/
def passBreak (c : Cursor) : Cursor :=
  let n := if c.head = '\r' && c.ahead 1 = '\n' then 2 else 1
  { c.pass n with line := c.line + 1, column := 0, fresh := true }

/-- Passes what is left of the line. -/
def passLine (c : Cursor) : Cursor :=
  let n := (c.rest.takeWhile fun x => !endsLine x).length
  if n = 0 then c else c.take n

/-- Three dashes or points stand at the beginning of the line. -/
def isAtDocumentMark (c : Cursor) : Bool :=
  c.column = 0 && (c.rest.take 3 = ['-', '-', '-'] || c.rest.take 3 = ['.', '.', '.']) &&
    endsWord (c.ahead 3)

/-- What blanks were passed inside a line. -/
structure Gap where
  spaces : Bool
  tabs : Bool
  deriving Repr, BEq, DecidableEq, Inhabited

/-- Passes blanks, and a comment if there is one. Blanks must stand before a comment. -/
def passGap? (c : Cursor) (tabs : Bool) : Option (Gap × Cursor) :=
  let blanks := c.rest.takeWhile fun x => x = ' ' || (tabs && x = '\t')
  let after := c.pass blanks.length
  let gap : Gap := ⟨blanks.contains ' ', blanks.contains '\t'⟩
  if after.head = '#' then
    if blanks.isEmpty then none else some (gap, after.passLine)
  else some (gap, after)

end Cursor
end Sortie.Yaml
