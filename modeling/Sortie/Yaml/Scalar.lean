import Sortie.Toml.Text
import Sortie.Yaml.Cursor
/-!
# YAML scalars

The four ways to write a text: in single or double quotes, plainly, and in a block
of lines. Line breaks inside a text are folded: one becomes a blank, and of
several the first one vanishes.
-/

namespace Sortie.Yaml

/-- Blanks and line breaks between two parts of a text. -/
structure Pause where
  /-- The blanks, last first, if there is no break. -/
  blanks : List Char := []
  /-- A break was met, or hidden. -/
  broken : Bool := false
  /-- The first break counts. -/
  first : Bool := false
  /-- The breaks after the first. -/
  more : Nat := 0
  deriving Repr, Inhabited

namespace Pause

/-- What a pause becomes, last character first. -/
def fold (p : Pause) : List Char :=
  if !p.broken then p.blanks
  else if p.first && p.more = 0 then [' ']
  else List.replicate p.more '\n'

/-- The pause with a break more, on a line that holds something else or not. -/
def addBreak (p : Pause) (fresh : Bool) : Pause :=
  if fresh then { p with more := p.more + 1 }
  else { p with blanks := [], broken := true, first := true }

end Pause

/-! ## Quotes -/

/-- The characters that an escape of one letter names. -/
def escapes : List (Char × Char) :=
  [('0', '\x00'), ('a', '\x07'), ('b', '\x08'), ('t', '\t'), ('\t', '\t'), ('n', '\n'),
    ('v', '\x0b'), ('f', '\x0c'), ('r', '\r'), ('e', '\x1b'), (' ', ' '), ('"', '"'), ('/', '/'),
    ('\\', '\\'), ('N', '\u0085'), ('_', '\u00a0'), ('L', '\u2028'), ('P', '\u2029')]

/-- The number of hexadecimal digits after an escape. -/
def escapeLengths : List (Char × Nat) :=
  [('x', 2), ('u', 4), ('U', 8)]

def readEscape? (c : Cursor) : Option (Char × Cursor) :=
  match escapes.lookup (c.ahead 1), escapeLengths.lookup (c.ahead 1) with
  | some x, _ => some (x, c.take 2)
  | none, some n =>
    let digits := (c.rest.drop 2).take n
    if digits.length = n then (Toml.scalar? digits).map fun x => (x, c.take (2 + n)) else none
  | none, none => none

/-- Reads a text in quotes up to the next blank or break, or the last quote; a
break that is hidden by a backslash is passed. The text is kept last first. At most
`most` characters are read. -/
def readSolid? (single : Bool) : Nat → List Char → Cursor → Option (List Char × Bool × Cursor)
  | 0, _, _ => none
  | most + 1, done, c =>
    if endsWord c.head then some (done, false, c)
    else if single then
      if c.head = '\'' then
        if c.ahead 1 = '\'' then readSolid? single most ('\'' :: done) (c.take 2)
        else some (done, false, c)
      else readSolid? single most (c.head :: done) (c.take 1)
    else if c.head = '"' then some (done, false, c)
    else if c.head = '\\' then
      if isBreak (c.ahead 1) then some (done, true, (c.take 1).passBreak)
      else
        match readEscape? c with
        | some (x, c) => readSolid? single most (x :: done) c
        | none => none
    else readSolid? single most (c.head :: done) (c.take 1)

/-- Passes a pause inside quotes. A tab may not make up the indentation of a line. -/
def passPause? (indent : Int) : Nat → Pause → Cursor → Option (Pause × Cursor)
  | 0, _, _ => none
  | most + 1, p, c =>
    if isBlank c.head then
      if !p.broken then passPause? indent most { p with blanks := c.head :: p.blanks } (c.pass 1)
      else if c.head = '\t' && c.column < indent then none
      else passPause? indent most p (c.pass 1)
    else if isBreak c.head then passPause? indent most (p.addBreak p.broken) c.passBreak
    else some (p, c)

/-- Reads a text in quotes up to the last quote. Its lines are at least
as deep as `indent`. -/
def readQuotedBody? (single : Bool) (indent : Int) :
    Nat → List Char → Cursor → Option (List Char × Cursor)
  | 0, _, _ => none
  | most + 1, done, c =>
    if c.isAtDocumentMark || c.isAtEnd || c.column < indent then none
    else
      match readSolid? single (c.rest.length + 1) done c with
      | none => none
      | some (done, hidden, c) =>
        if c.head = (if single then '\'' else '"') then some (done, c.take 1)
        else
          match passPause? indent (c.rest.length + 1) { broken := hidden } c with
          | none => none
          | some (p, c) => readQuotedBody? single indent most (p.fold ++ done) c

/-- Reads a text in quotes. Only what may follow a text may stand behind it on its line: a
mark if it stands in brackets, a colon if it can be a name, or a comment. -/
def readQuoted? (single inFlow : Bool) (indent : Int) (c : Cursor) : Option (String × Cursor) := do
  let (cs, after) ← readQuotedBody? single indent (c.rest.length + 1) [] (c.take 1)
  let (_, after) ← after.passGap? true
  let fits := endsLine after.head ||
    if inFlow then [',', ']', '\x7d', ':'].contains after.head
    else after.head = ':' && after.line = c.line
  if fits then return (.ofList cs.reverse, after) else none

/-! ## Plain texts -/

/-- The next character can belong to a plain text. -/
def isPlain (inFlow : Bool) (c : Cursor) : Bool :=
  if c.head = ':' then !(endsWord (c.ahead 1) || (inFlow && isFlowMark (c.ahead 1)))
  else !(inFlow && isFlowMark c.head)

/-- Reads the characters of a plain text up to a blank, a break or the end of the text. -/
def readPlainRun (inFlow : Bool) : Nat → List Char → Cursor → List Char × Cursor
  | 0, done, c => (done, c)
  | most + 1, done, c =>
    if endsWord c.head || !isPlain inFlow c then (done, c)
    else readPlainRun inFlow most (c.head :: done) (c.take 1)

/-- Passes a pause inside a plain text. Tabs may stand before the indentation only in lines
that hold nothing else. -/
def passPlainPause? (indent : Int) : Nat → Pause → Cursor → Option (Pause × Cursor)
  | 0, _, _ => none
  | most + 1, p, c =>
    if isBlank c.head then
      if !c.fresh then
        passPlainPause? indent most { p with blanks := c.head :: p.blanks } (c.pass 1)
      else if c.head = '\t' && c.column < indent then
        match c.passGap? true with
        | none => none
        | some (_, c) => if endsLine c.head then passPlainPause? indent most p c else none
      else passPlainPause? indent most p (c.pass 1)
    else if isBreak c.head then passPlainPause? indent most (p.addBreak c.fresh) c.passBreak
    else some (p, c)

/-- Reads a plain text, whose further lines are at least as deep as `indent`. -/
def readPlainBody? (inFlow : Bool) (indent : Int) :
    Nat → List Char → Pause → Cursor → Option (List Char × Cursor)
  | 0, _, _, _ => none
  | most + 1, done, p, c =>
    if c.isAtDocumentMark || c.head = '#' then some (done, c)
    else if inFlow && c.head = '-' && isFlowMark (c.ahead 1) then none
    else
      let goes := !endsWord c.head && isPlain inFlow c
      let (done, c) := if goes then readPlainRun inFlow (c.rest.length + 1) (p.fold ++ done) c
        else (done, c)
      if !(isBlank c.head || isBreak c.head) then some (done, c)
      else
        match passPlainPause? indent (c.rest.length + 1) (if goes then {} else p) c with
        | none => none
        | some (p, c) =>
          if !inFlow && c.column < indent then some (done, c)
          else readPlainBody? inFlow indent most done p c

/-- Reads a plain text, which holds at least one character. -/
def readPlain? (inFlow : Bool) (indent : Int) (c : Cursor) : Option (String × Cursor) := do
  if inFlow && c.column < indent then none
  else
    match ← readPlainBody? inFlow indent (c.rest.length + 1) [] {} c with
    | ([], _) => none
    | (cs, c) => return (.ofList cs.reverse, c)

/-! ## Blocks of lines -/

/-- What becomes of the breaks at the end of a block. -/
inductive Chomping where
  | strip
  /-- One is kept. -/
  | clip
  | keep
  deriving Repr, BEq, DecidableEq, Inhabited

/-- The chomping that a sign asks for. -/
def Chomping.ofSign? (c : Char) : Option Chomping :=
  if c = '+' then some .keep else if c = '-' then some .strip else none

/-- The digit, other than zero, that may say how deep the lines of a block are. -/
def readDepth? (c : Cursor) : Option (Nat × Cursor) :=
  if c.head = '0' then none
  else if c.head.isDigit then some (c.head.toNat - 48, c.take 1)
  else some (0, c)

/-- Reads the sign and the digit after the mark of a block, in either order. -/
def readHeader? (c : Cursor) : Option (Chomping × Nat × Cursor) :=
  match Chomping.ofSign? c.head with
  | some chomping => (readDepth? (c.take 1)).map fun (depth, c) => (chomping, depth, c)
  | none =>
    match readDepth? c with
    | none => none
    | some (0, c) => some (.clip, 0, c)
    | some (depth, c) =>
      match Chomping.ofSign? c.head with
      | some chomping => some (chomping, depth, c.take 1)
      | none => some (.clip, depth, c)

/-- Passes empty lines, and the first `depth` columns of the line after them.
The breaks are counted. -/
def passDepth (depth : Nat) : Nat → Nat → Cursor → Nat × Cursor
  | 0, breaks, c => (breaks, c)
  | most + 1, breaks, c =>
    let c := c.pass ((c.rest.takeWhile (· = ' ')).length.min (depth - c.column))
    if isBreak c.head then passDepth depth most (breaks + 1) c.passBreak else (breaks, c)

/-- Passes empty lines and the blanks of the line after them, and finds
the deepest column. -/
def findDepth : Nat → Nat → Nat → Cursor → Nat × Nat × Cursor
  | 0, deepest, breaks, c => (deepest, breaks, c)
  | most + 1, deepest, breaks, c =>
    let c := c.pass (c.rest.takeWhile (· = ' ')).length
    let deepest := deepest.max c.column
    if isBreak c.head then findDepth most deepest (breaks + 1) c.passBreak
    else (deepest, breaks, c)

/-- The lines of a block that have been read. -/
structure Block where
  /-- The text, last character first, without the breaks at its end. -/
  text : List Char := []
  /-- The last line ended with a break. -/
  ended : Bool := false
  /-- The last line began with a blank. -/
  blank : Bool := false
  /-- The empty lines after the last one. -/
  breaks : Nat := 0
  deriving Repr, Inhabited

/-- Reads the lines of a block that are `depth` deep. Where lines are folded, a break
between two lines that begin without a blank becomes a blank. -/
def readLines (literal : Bool) (depth : Nat) : Nat → Block → Cursor → Block × Cursor
  | 0, b, c => (b, c)
  | most + 1, b, c =>
    if c.column ≠ depth || c.isAtEnd || (depth = 0 && c.isAtDocumentMark) then (b, c)
    else
      let blank := isBlank c.head
      let joint :=
        if !literal && b.ended && !b.blank && !blank then
          if b.breaks = 0 then [' '] else List.replicate b.breaks '\n'
        else List.replicate (b.breaks + if b.ended then 1 else 0) '\n'
      let line := c.rest.takeWhile fun x => !endsLine x
      let text := line.reverse ++ joint ++ b.text
      let c := c.pass line.length
      if c.isAtEnd then ({ text, blank }, c)
      else
        let (breaks, c) := passDepth depth (c.rest.length + 1) 0 c.passBreak
        readLines literal depth most { text, ended := true, blank, breaks } c

/-- The text of a block, with the breaks at its end as the chomping asks for. -/
def Block.finish (b : Block) (chomping : Chomping) (depth : Nat) (c : Cursor) : List Char :=
  let last := (if b.ended then ['\n'] else []) ++
    if c.isAtEnd && depth.max 1 ≤ c.column then ['\n'] else []
  match chomping with
  | .strip => b.text
  | .clip => last ++ b.text
  | .keep => List.replicate b.breaks '\n' ++ last ++ b.text

/-- Reads a block of lines after its mark. They are deeper than `indent`. -/
def readBlock? (literal : Bool) (indent : Int) (c : Cursor) : Option (String × Cursor) := do
  let (chomping, increment, c) ← readHeader? (c.take 1)
  let (_, c) ← c.passGap? true
  if !endsLine c.head then none
  else
    let broken := isBreak c.head
    let c := if broken then c.passBreak else c
    if c.head = '\t' then none
    else
      let (depth, breaks, c) :=
        if increment = 0 then
          let (deepest, breaks, c) := findDepth (c.rest.length + 1) 0 0 c
          (deepest.max (indent + 1).toNat, breaks, c)
        else
          let depth := increment + indent.toNat
          let (breaks, c) := passDepth depth (c.rest.length + 1) 0 c
          (depth, breaks, c)
      if c.isAtEnd then
        let kept := match chomping with
          | .strip => 0
          | .clip => if broken then 1 else 0
          | .keep => if breaks = 0 then (if broken then 1 else 0) else breaks
        return (.ofList (List.replicate kept '\n'), c)
      else if c.column < depth && indent < c.column then none
      else
        let (b, c) := readLines literal depth (c.rest.length + 1) { breaks } c
        return (.ofList (b.finish chomping depth c).reverse, c)

end Sortie.Yaml
