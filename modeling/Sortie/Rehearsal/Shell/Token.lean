import Sortie.Rehearsal.Shell.Word
/-!
# Tokens of a script

Words, signs between them, and the marks before what stands for a stream of a command. The
end of the text is a sign of its own, and so is a quote that is still open there. The
scripts are those of solvers that are played back in tests; the program reads none.
-/

namespace Sortie.Shell

/-- A sign between words. -/
inductive Sign where
  | newline
  | semicolon
  | doubleSemicolon
  | ampersand
  | both
  | either
  | pipe
  | opening
  | closing
  | finish
  | openQuote
  deriving Repr, BEq, DecidableEq, Inhabited

/-- How a sign is called in a complaint. -/
def Sign.text : Sign → String
  | newline => "newline"
  | semicolon => "\";\""
  | doubleSemicolon => "\";;\""
  | ampersand => "\"&\""
  | both => "\"&&\""
  | either => "\"||\""
  | pipe => "\"|\""
  | opening => "\"(\""
  | closing => "\")\""
  | finish => "end of file"
  | openQuote => ""

/-- A word, a sign, or a mark. -/
inductive Token where
  | word (w : Word)
  | sign (s : Sign)
  /-- The next word stands for a stream; it may be the number of another one. -/
  | redirect (stream : Nat) (isStream : Bool)
  deriving Repr, BEq, DecidableEq, Inhabited

/-- What a character stands in. -/
inductive Quote where
  | none
  | single
  | double
  | comment
  deriving Repr, BEq, DecidableEq, Inhabited

/-- A script that has been read up to some character. Lists are kept last first. -/
structure Reader where
  /-- The tokens with the numbers of the lines on which they end. -/
  tokens : List (Token × Nat) := []
  line : Nat := 1
  /-- The word that is being read, if any. -/
  word : Option Word := none
  /-- The name of a value that is being read, if any. -/
  name : Option (List Char) := none
  /-- The stream that a mark is being read for. -/
  redirects : Nat := 0
  quote : Quote := .none
  /-- A character whose meaning depends on the next one. -/
  held : Option Char := none

namespace Reader

/-- The reader with a piece more in its word. -/
def take (r : Reader) (p : Piece) : Reader :=
  { r with word := some (p :: r.word.getD []) }

/-- The reader with a value in its word. -/
def takeValue (r : Reader) (p : Parameter) : Reader :=
  r.take (.value p (r.quote = .double))

/-- The reader with a token more. -/
def push (r : Reader) (t : Token) : Reader :=
  { r with tokens := (t, r.line) :: r.tokens }

def endWord (r : Reader) : Reader :=
  match r.word with
  | none => r
  | some ps => { r with word := none }.push (.word ps.reverse)

/-- Ends the word before a sign. -/
def endBefore (r : Reader) (s : Sign) : Reader :=
  r.endWord.push (.sign s)

def endLine (r : Reader) : Reader :=
  { r.endWord with line := r.line + 1, quote := .none }.push (.sign .newline)

/-- Begins to read a mark; a digit right before it names the stream. -/
def beginMark (r : Reader) (usual : Nat) : Reader :=
  match r.word.bind Word.stream? with
  | some n => { r with word := none, redirects := n }
  | none => { r.endWord with redirects := usual }

/-- Ends the name of a value. -/
def endName (r : Reader) : Reader :=
  match r.name with
  | none => r
  | some cs => { r.takeValue (.named (.ofList cs.reverse)) with name := none }

end Reader

/-- A character that a backslash keeps plain between double quotes. -/
def isEscapable (c : Char) : Bool :=
  c = '"' || c = '\\' || c = '$' || c = '\x60'

/-- The value that one character after the sign stands for. -/
def parameter? (c : Char) : Option Parameter :=
  if c = '?' then some .lastCode
  else if c = '#' then some .count
  else if c = '$' then some .itself
  else if c = '@' || c = '*' then some .allArguments
  else if c.isDigit then some (.argument (c.toNat - 48))
  else none

namespace Reader

/-- Reads a character that nothing has been held back for. -/
def readPlain (r : Reader) (c : Char) : Reader :=
  match r.quote, c with
  | .single, '\'' | .double, '"' => { r with quote := .none }
  | .comment, '\n' | .none, '\n' => r.endLine
  | .comment, _ => r
  | .single, '\n' | .double, '\n' => { r.take (.quoted c) with line := r.line + 1 }
  | .single, _ => r.take (.quoted c)
  | .none, '\'' => { r.take .quote with quote := .single }
  | .none, '"' => { r.take .quote with quote := .double }
  | _, '\\' | _, '$' => { r with held := some c }
  | .double, _ => r.take (.quoted c)
  | .none, '&' | .none, '|' | .none, ';' => { r with held := some c }
  | .none, '>' => { r.beginMark 1 with held := some c }
  | .none, '<' => { r.beginMark 0 with held := some c }
  | .none, '(' => r.endBefore .opening
  | .none, ')' => r.endBefore .closing
  | .none, ' ' | .none, '\t' => r.endWord
  | .none, '#' => if r.word.isNone then { r with quote := .comment } else r.take (.char c)
  | .none, _ => r.take (.char c)

/-- The signs that a character is, alone and with one more like it. -/
def signs (c : Char) : Sign × Sign :=
  if c = '&' then (.ampersand, .both)
  else if c = '|' then (.pipe, .either)
  else (.semicolon, .doubleSemicolon)

/-- Reads the character after one that has been held back. -/
def readHeld (r : Reader) (held c : Char) : Reader :=
  match held with
  | '\\' =>
    if c = '\n' then { r with line := r.line + 1 }
    else if r.quote = .double && !isEscapable c then (r.take (.quoted '\\')).take (.quoted c)
    else r.take (.quoted c)
  | '$' =>
    match parameter? c with
    | some p => r.takeValue p
    | none =>
      if isNameStart c then { r with name := some [c] } else (r.take (.char '$')).readPlain c
  | '>' =>
    if c = '&' then r.push (.redirect r.redirects true)
    else if c = '>' || c = '|' then r.push (.redirect r.redirects false)
    else (r.push (.redirect r.redirects false)).readPlain c
  | '<' =>
    if c = '&' then r.push (.redirect r.redirects true)
    else (r.push (.redirect r.redirects false)).readPlain c
  | _ =>
    let (one, two) := signs held
    if c = held then r.endBefore two else (r.endBefore one).readPlain c

def readNext (r : Reader) (c : Char) : Reader :=
  match r.held, r.name with
  | some held, _ => { r with held := none }.readHeld held c
  | none, some cs =>
    if isNameStart c || c.isDigit then { r with name := some (c :: cs) } else r.endName.readPlain c
  | none, none => r.readPlain c

def finish (r : Reader) : List (Token × Nat) :=
  let r := match r.held with
    | some '$' => r.take (.char '$')
    | some '\\' => r.take (.quoted '\\')
    | some '>' | some '<' => r.push (.redirect r.redirects false)
    | some c => r.endBefore (signs c).1
    | none => r.endName
  let r := match r.quote with
    | .single | .double => { r with word := none }.push (.sign .openQuote)
    | .none | .comment => r.endBefore .finish
  r.tokens.reverse

end Reader

def tokens (text : String) : List (Token × Nat) :=
  (text.toList.foldl Reader.readNext {}).finish

end Sortie.Shell
