import Sortie.Decimal.Shortest
/-!
# Writing decimals

A layout says which numbers are written with an exponent and how. The text is built from
the digits of the coefficient alone, so it reads back as the same decimal.
-/

namespace Sortie.Decimal

/-- How a decimal is written. A number whose first digit stands at `10 ^ e` has an exponent
if `e` is below `positionalFrom` or at least `exponentFrom`. -/
structure Layout where
  positionalFrom : Option Int
  exponentFrom : Option Int
  /-- Whole numbers end in `.0`. -/
  pointZero : Bool
  /-- Exponents that are not negative have a `+`. -/
  plusSign : Bool
  nan : String
  infinity : String
  /-- The digits of a number between two equally short and equally near decimals. -/
  tie : Tie

/-- The decimal digits of a natural number. -/
def digits (n : Nat) : String :=
  .ofList (Nat.toDigits 10 n)

def zeros (count : Nat) : String :=
  .ofList (List.replicate count '0')

/-- The digits `ds`, the first at `10 ^ magnitude`, without an exponent. -/
def positional (layout : Layout) (ds : List Char) (magnitude : Int) : String :=
  if magnitude < 0 then
    "0." ++ zeros ((-magnitude).toNat - 1) ++ String.ofList ds
  else if ds.length ≤ magnitude.toNat + 1 then
    String.ofList ds ++ zeros (magnitude.toNat + 1 - ds.length) ++
      (if layout.pointZero then ".0" else "")
  else
    String.ofList (ds.take (magnitude.toNat + 1)) ++ "." ++
      String.ofList (ds.drop (magnitude.toNat + 1))

/-- The digits `ds`, the first at `10 ^ magnitude`, with an exponent. -/
def scientific (layout : Layout) (ds : List Char) (magnitude : Int) : String :=
  String.ofList (ds.take 1) ++
    (if 1 < ds.length then "." ++ String.ofList (ds.drop 1) else "") ++ "e" ++
    (if magnitude < 0 then "-" else if layout.plusSign then "+" else "") ++
    digits magnitude.natAbs

/-- The text of a decimal without its sign. -/
def Layout.magnitudeText (layout : Layout) (d : Decimal) : String :=
  if d.coefficient = 0 then if layout.pointZero then "0.0" else "0"
  else
    let ds := Nat.toDigits 10 d.coefficient
    let magnitude := d.exponent + ds.length - 1
    let small := match layout.positionalFrom with
      | some e => magnitude < e
      | none => false
    let large := match layout.exponentFrom with
      | some e => e ≤ magnitude
      | none => false
    if small || large then scientific layout ds magnitude
    else positional layout ds magnitude

/-- The text of a floating point value. -/
def Layout.write (layout : Layout) : Value → String
  | .nan => layout.nan
  | .infinite negative => (if negative then "-" else "") ++ layout.infinity
  | .finite negative d => (if negative then "-" else "") ++ layout.magnitudeText d

/-- Positions and answers: whole numbers keep `.0`, and an exponent stands from
`1e16` on and below `1e-4`. -/
def report : Layout :=
  { positionalFrom := some (-4), exponentFrom := some 16, pointZero := true, plusSign := false
    nan := "NaN", infinity := "inf", tie := .larger }

/-- Numbers inside a message are never written with an exponent or a closing `.0`. -/
def plain : Layout :=
  { positionalFrom := none, exponentFrom := none, pointZero := false, plusSign := false
    nan := "NaN", infinity := "inf", tie := .larger }

/-- Numbers inside JSON; a number that is not finite is `null`. -/
def json : Layout :=
  { positionalFrom := some (-5), exponentFrom := some 16, pointZero := true, plusSign := true
    nan := "null", infinity := "null", tie := .even }

/-- A number as it stands in a message. -/
def plainText (x : Float) : String :=
  plain.write (.ofFloat plain.tie x)

/-- A number as it stands in a report. -/
def reportText (x : Float) : String :=
  report.write (.ofFloat report.tie x)

end Sortie.Decimal
