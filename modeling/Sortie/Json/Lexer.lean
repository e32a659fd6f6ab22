import Sortie.Json.Basic
import Sortie.Decimal.Reading
/-!
# The tokens of a JSON text

The text is read one character at a time, and what the lexer is in the middle of is its
state. A number or a word ends at the first character that cannot continue it; that
character is then read afresh. Between tokens only the four blanks of the format may stand.
-/

namespace Sortie.Json

/-- What a JSON text is made of. -/
inductive Token where
  | openArray
  | closeArray
  | openObject
  | closeObject
  | colon
  | comma
  /-- A literal, a number or a text. -/
  | scalar (value : Json)

/-- A piece of a text: a character, or a 16-bit unit that an escape names by number. -/
inductive Piece where
  | char (c : Char)
  | unit (n : Nat)

/-- The characters that a text's pieces stand for. Two units may form a surrogate pair;
half a pair makes the whole text unusable. -/
def joinPieces : List Piece → Option (List Char)
  | [] => some []
  | .char c :: rest => (joinPieces rest).map (c :: ·)
  | .unit high :: .unit low :: rest =>
    if 0xD800 ≤ high && high < 0xDC00 then
      if 0xDC00 ≤ low && low < 0xE000 then
        (joinPieces rest).map
          (Char.ofNat (0x10000 + (high - 0xD800) * 0x400 + (low - 0xDC00)) :: ·)
      else none
    else if 0xDC00 ≤ high && high < 0xE000 then none
    else (joinPieces (.unit low :: rest)).map (Char.ofNat high :: ·)
  | .unit n :: rest =>
    if 0xD800 ≤ n && n < 0xE000 then none else (joinPieces rest).map (Char.ofNat n :: ·)

/-- What the lexer is in the middle of. Pieces and characters are kept last first. -/
inductive Inside where
  | nothing
  | text (pieces : List Piece)
  | escape (pieces : List Piece)
  | hex (pieces : List Piece) (value : Nat) (left : Nat)
  | number (done : List Char)
  | word (done : List Char)

/-- The tokens read so far, last first, and what the lexer is in the middle of. -/
structure Lexer where
  tokens : List Token
  inside : Inside

/-- A character that can continue a number. -/
def continuesNumber (c : Char) : Bool :=
  Decimal.isDigit c || c == '+' || c == '-' || c == '.' || c == 'e' || c == 'E'

/-- At least one digit, and nothing else. -/
def allDigits (cs : List Char) : Bool :=
  !cs.isEmpty && cs.all Decimal.isDigit

/-- An exponent: an `e` in either case, perhaps a sign, and digits. -/
def isExponent : List Char → Bool
  | [] => true
  | e :: '+' :: ds => (e == 'e' || e == 'E') && allDigits ds
  | e :: '-' :: ds => (e == 'e' || e == 'E') && allDigits ds
  | e :: ds => (e == 'e' || e == 'E') && allDigits ds

/-- What may follow the whole part of a number. -/
def isNumberTail : List Char → Bool
  | '.' :: rest =>
    !(rest.takeWhile Decimal.isDigit).isEmpty && isExponent (rest.dropWhile Decimal.isDigit)
  | rest => isExponent rest

/-- The number form without its sign: a whole part without leading zeros, then the tail. -/
def isUnsignedNumber : List Char → Bool
  | '0' :: rest => isNumberTail rest
  | c :: rest => Decimal.isDigit c && isNumberTail (rest.dropWhile Decimal.isDigit)
  | [] => false

/-- A number as the format writes it. -/
def isNumber : List Char → Bool
  | '-' :: rest => isUnsignedNumber rest
  | cs => isUnsignedNumber cs

/-- The value of a hexadecimal digit. -/
def hexValue? (c : Char) : Option Nat :=
  if '0' ≤ c && c ≤ '9' then some (c.toNat - 48)
  else if 'a' ≤ c && c ≤ 'f' then some (c.toNat - 87)
  else if 'A' ≤ c && c ≤ 'F' then some (c.toNat - 55)
  else none

/-- The character that a short escape names. -/
def shortEscape? (c : Char) : Option Char :=
  if c = '"' || c = '\\' || c = '/' then some c
  else if c = 'b' then some '\x08'
  else if c = 'f' then some '\x0c'
  else if c = 'n' then some '\n'
  else if c = 'r' then some '\r'
  else if c = 't' then some '\t'
  else none

/-- The lexer with one more token read. -/
def Lexer.emit (l : Lexer) (t : Token) : Lexer :=
  ⟨t :: l.tokens, .nothing⟩

/-- Ends the number or word that the lexer is in the middle of. -/
def Lexer.close (l : Lexer) : Option Lexer :=
  match l.inside with
  | .nothing => some l
  | .number done =>
    if isNumber done.reverse then some (l.emit (.scalar (.number (.ofList done.reverse))))
    else none
  | .word done =>
    let word := String.ofList done.reverse
    if word == "null" then some (l.emit (.scalar .null))
    else if word == "true" then some (l.emit (.scalar (.bool true)))
    else if word == "false" then some (l.emit (.scalar (.bool false)))
    else none
  | _ => none

/-- Reads a character that begins a token. -/
def Lexer.begin (l : Lexer) (c : Char) : Option Lexer :=
  if c = ' ' || c = '\n' || c = '\t' || c = '\r' then some l
  else if c = '[' then some (l.emit .openArray)
  else if c = ']' then some (l.emit .closeArray)
  else if c = '\x7b' then some (l.emit .openObject)
  else if c = '\x7d' then some (l.emit .closeObject)
  else if c = ':' then some (l.emit .colon)
  else if c = ',' then some (l.emit .comma)
  else if c = '"' then some { l with inside := .text [] }
  else if c = '-' || Decimal.isDigit c then some { l with inside := .number [c] }
  else if c.isLower then some { l with inside := .word [c] }
  else none

/-- Reads one character. -/
def Lexer.step (l : Lexer) (c : Char) : Option Lexer :=
  match l.inside with
  | .nothing => l.begin c
  | .text pieces =>
    if c = '"' then
      some (l.emit (.scalar (.string ((joinPieces pieces.reverse).map String.ofList))))
    else if c = '\\' then some { l with inside := .escape pieces }
    else if c.toNat < 0x20 then none
    else some { l with inside := .text (.char c :: pieces) }
  | .escape pieces =>
    if c = 'u' then some { l with inside := .hex pieces 0 4 }
    else (shortEscape? c).map fun e => { l with inside := .text (.char e :: pieces) }
  | .hex pieces value left =>
    (hexValue? c).map fun d =>
      { l with inside := if left ≤ 1 then .text (.unit (value * 16 + d) :: pieces)
                         else .hex pieces (value * 16 + d) (left - 1) }
  | .number done =>
    if continuesNumber c then some { l with inside := .number (c :: done) }
    else l.close.bind (·.begin c)
  | .word done =>
    if c.isLower then some { l with inside := .word (c :: done) }
    else l.close.bind (·.begin c)

def tokens? (cs : List Char) : Option (List Token) := do
  let l ← cs.foldlM Lexer.step ⟨[], .nothing⟩
  let l ← l.close
  return l.tokens.reverse

end Sortie.Json
