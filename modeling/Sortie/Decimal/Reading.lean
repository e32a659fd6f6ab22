import Sortie.Decimal.Layout
/-!
# Reading numbers

Texts of whole numbers and of reals, as settings and arguments give them. Reals are rounded
to nearest, a half to even; a number too large for the format is an infinity.
-/

namespace Sortie.Decimal

/-- The largest natural number of 32 bits. -/
def most32 : Nat := UInt32.size - 1

/-- The largest natural number of 64 bits. -/
def most64 : Nat := UInt64.size - 1

/-- The largest whole number of 64 bits with a sign. -/
def mostSigned64 : Nat := UInt64.size / 2 - 1

/-- The digit that a character stands for. -/
def digit? (c : Char) : Option Nat :=
  if '0' ≤ c && c ≤ '9' then some (c.toNat - 48) else none

/-- A character is a decimal digit. -/
def isDigit (c : Char) : Bool :=
  (digit? c).isSome

/-- The value of a list of decimal digits. -/
def valueOf (ds : List Char) : Nat :=
  ds.foldl (fun n c => n * 10 + (digit? c).getD 0) 0

/-- The 64-bit number nearest to `coefficient * 10 ^ exponent`. -/
def round (coefficient : Nat) (exponent : Int) : Float :=
  if coefficient = 0 then 0.0
  else
    let magnitude := exponent + (Nat.toDigits 10 coefficient).length
    if 400 < magnitude then 1.0 / 0.0
    else if magnitude < -400 then 0.0
    else Float.ofScientific coefficient (exponent < 0) exponent.natAbs

/-- A number with its sign. -/
def signed (negative : Bool) (x : Float) : Float :=
  if negative then -x else x

/-- Why a text is no whole number of the wanted range. -/
inductive WholeFault where
  | empty
  | invalidDigit
  | tooLarge
  deriving Repr, BEq, DecidableEq, Inhabited

/-- What is said about a text that is no whole number. -/
def WholeFault.message : WholeFault → String
  | .empty => "cannot parse integer from empty string"
  | .invalidDigit => "invalid digit found in string"
  | .tooLarge => "number too large to fit in target type"

/-- Reads digits after `n`, and stops at the first that is none or that
leads above `most`. -/
def wholeFrom (most n : Nat) : List Char → Except WholeFault Nat
  | [] => .ok n
  | c :: rest =>
    match digit? c with
    | none => .error .invalidDigit
    | some d => if most < n * 10 + d then .error .tooLarge else wholeFrom most (n * 10 + d) rest

/-- A natural number up to `most`, with an optional `+`. -/
def readNat (most : Nat) (s : String) : Except WholeFault Nat :=
  match s.toList with
  | [] => .error .empty
  | ['+'] => .error .invalidDigit
  | '+' :: rest => wholeFrom most 0 rest
  | cs => wholeFrom most 0 cs

/-- A whole number between `-(most + 1)` and `most`, with an optional sign. -/
def readInt (most : Nat) (s : String) : Except WholeFault Int :=
  match s.toList with
  | ['-'] => .error .invalidDigit
  | '-' :: rest => (wholeFrom (most + 1) 0 rest).map fun n => -(n : Int)
  | _ => (readNat most s).map fun n => (n : Int)

/-- The exponent after an `e`: an optional sign and at least one digit, up to the end. -/
def readExponent : List Char → Option Int
  | '-' :: rest =>
    if rest ≠ [] ∧ rest.all isDigit then some (-(valueOf rest : Int)) else none
  | '+' :: rest => if rest ≠ [] ∧ rest.all isDigit then some (valueOf rest) else none
  | rest => if rest ≠ [] ∧ rest.all isDigit then some (valueOf rest) else none

/-- An unsigned real: digits with at most one point among or around them, then perhaps an
exponent. -/
def readMagnitude (cs : List Char) : Option Float := do
  let whole := cs.takeWhile isDigit
  let (fraction, rest) := match cs.dropWhile isDigit with
    | '.' :: rest => (rest.takeWhile isDigit, rest.dropWhile isDigit)
    | rest => ([], rest)
  if whole.isEmpty && fraction.isEmpty then none
  else
    let exponent ← match rest with
      | [] => some 0
      | c :: rest => if c = 'e' || c = 'E' then readExponent rest else none
    return round (valueOf (whole ++ fraction)) (exponent - fraction.length)

/-- A real: an optional sign, then a magnitude or one of the words `inf`, `infinity`
and `nan` in any case. -/
def readReal (s : String) : Option Float :=
  let (negative, cs) := match s.toList with
    | '-' :: rest => (true, rest)
    | '+' :: rest => (false, rest)
    | cs => (false, cs)
  let word := String.ofList (cs.map Char.toLower)
  if word == "inf" || word == "infinity" then some (signed negative (1.0 / 0.0))
  else if word == "nan" then some (0.0 / 0.0)
  else (readMagnitude cs).map (signed negative)

end Sortie.Decimal
