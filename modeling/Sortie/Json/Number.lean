import Sortie.Json.Reader
import Sortie.Decimal.Reading
/-!
# The value of a JSON number

The digits that fit into 64 bits make up the significand; later ones only count as places.
The significand, rounded to a 64-bit float, is then multiplied or divided by a power of
ten. The result can be one place off the nearest float where the significand or the power
is not exact. A number that becomes infinite is refused, and one too small becomes zero.
-/

namespace Sortie.Json.Number

/-- Reads the digits of the whole part after the significand `n`. From the first digit on
that does not fit, digits count as places. -/
def readWhole (n : Nat) : List Char → Nat × Nat
  | [] => (n, 0)
  | c :: rest =>
    let next := n * 10 + (Decimal.digit? c).getD 0
    if Decimal.most64 < next then (n, rest.length + 1) else readWhole next rest

/-- Reads the digits of the fraction after the significand `n`, up to the first one that
does not fit, and counts those read. -/
def readFraction (n count : Nat) : List Char → Nat × Nat
  | [] => (n, count)
  | c :: rest =>
    let next := n * 10 + (Decimal.digit? c).getD 0
    if Decimal.most64 < next then (n, count) else readFraction next (count + 1) rest

/-- Multiplies by `10 ^ exponent`; the largest power taken at once is `10 ^ 308`. Four
divisions by it make any significand zero, so `4` is enough fuel. -/
def scale (x : Float) (exponent : Int) : Nat → Option Float
  | 0 => some 0.0
  | fuel + 1 =>
    if exponent.natAbs ≤ 308 then
      if 0 ≤ exponent then
        let y := x * Decimal.round 1 exponent
        if y.isInf then none else some y
      else some (x / Decimal.round 1 exponent.natAbs)
    else if x == 0.0 then some x
    else if 0 ≤ exponent then none
    else scale (x / Decimal.round 1 308) (exponent + 308) fuel

/-- The value of a number without its sign. -/
def readUnsigned (cs : List Char) : Option Float := do
  let (whole, places) := readWhole 0 (cs.takeWhile Decimal.isDigit)
  let rest := cs.dropWhile Decimal.isDigit
  let (fraction, rest) := match rest with
    | '.' :: rest => (rest.takeWhile Decimal.isDigit, rest.dropWhile Decimal.isDigit)
    | rest => ([], rest)
  let (significand, count) := readFraction whole 0 fraction
  let exponent ← match rest with
    | [] => some 0
    | _ :: rest => Decimal.readExponent rest
  scale (Decimal.round significand 0) (exponent + places - count) 5

/-- The value of a number. -/
def read (lexeme : String) : Option Float :=
  match lexeme.toList with
  | '-' :: rest => (readUnsigned rest).map fun x => -x
  | cs => readUnsigned cs

end Number

/-- A real number that a 64-bit float can hold. -/
def asReal? : Json → Option Float
  | .number lexeme => Number.read lexeme
  | _ => none

/-- A whole number written without a fraction, exponent or sign, up to `most`. -/
def asNat? (most : Nat) : Json → Option Nat
  | .number lexeme =>
    if lexeme.toList.all Decimal.isDigit && Decimal.valueOf lexeme.toList ≤ most then
      some (Decimal.valueOf lexeme.toList)
    else none
  | _ => none

end Sortie.Json
