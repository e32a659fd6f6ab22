/-!
# The fewest digits that read back

A binary floating point number stands for every real that rounds to it. Its shortest
decimal is the one with the fewest digits among those reals, and the nearest to the number
among these. The search works on exact integers: for one digit, two digits and so on it
tries the two neighbours of the number on that decimal grid. Where both neighbours would do
and are equally near, a `Tie` says which one is taken.
-/

namespace Sortie

/-- The number `coefficient * 10 ^ exponent`. -/
structure Decimal where
  coefficient : Nat
  exponent : Int
  deriving Repr, BEq, DecidableEq, Inhabited

namespace Decimal

/-- Which of two equally near neighbours is taken: the larger one, or the even one. -/
inductive Tie where
  | larger
  | even
  deriving Repr, BEq, DecidableEq, Inhabited

/-- A positive number and the ends of the interval that rounds to it, as numerators over
one denominator. The ends belong to the interval if `closed`. -/
structure Cell where
  value : Nat
  low : Nat
  high : Nat
  unit : Nat
  closed : Bool

/-- The cell of `mantissa * 2 ^ exponent`. Where the next number below is only half as far
away as the next one above, `narrow` moves the lower end in. -/
def Cell.ofBinary (mantissa : Nat) (exponent : Int) (narrow : Bool) : Cell :=
  let quarter := exponent - 2
  let scale := Nat.pow 2 quarter.toNat
  { value := 4 * mantissa * scale
    low := (4 * mantissa - (if narrow then 1 else 2)) * scale
    high := (4 * mantissa + 2) * scale
    unit := Nat.pow 2 (-quarter).toNat
    closed := mantissa % 2 == 0 }

/-- The decimal exponent of the first digit of `value / unit`, for
values above `10 ^ (-400)`. -/
def Cell.magnitude (c : Cell) : Int :=
  if c.unit ≤ c.value then ((Nat.toDigits 10 (c.value / c.unit)).length : Int) - 1
  else ((Nat.toDigits 10 (c.value * Nat.pow 10 400 / c.unit)).length : Int) - 401

/-- The cell measured in units of `10 ^ exponent`. -/
def Cell.inUnits (c : Cell) (exponent : Int) : Cell :=
  let up := Nat.pow 10 (-exponent).toNat
  { c with value := c.value * up, low := c.low * up, high := c.high * up
           unit := c.unit * Nat.pow 10 exponent.toNat }

/-- The whole number `n` of units lies in the cell. -/
def Cell.holds (c : Cell) (n : Nat) : Bool :=
  if c.closed then c.low ≤ n * c.unit && n * c.unit ≤ c.high
  else c.low < n * c.unit && n * c.unit < c.high

/-- The one of `below` and `below + 1` units that is nearer to the value. -/
def Cell.nearer (c : Cell) (tie : Tie) (below : Nat) : Nat :=
  match compare (2 * c.value) ((2 * below + 1) * c.unit), tie with
  | .lt, _ => below
  | .gt, _ => below + 1
  | .eq, .larger => below + 1
  | .eq, .even => if below % 2 = 0 then below else below + 1

/-- The whole number of units nearest to the value, of the two around it,
that lies in the cell. -/
def Cell.wholeInside? (c : Cell) (tie : Tie) : Option Nat :=
  let below := c.value / c.unit
  match c.holds below, c.holds (below + 1) with
  | true, false => some below
  | false, true => some (below + 1)
  | true, true => some (c.nearer tie below)
  | false, false => none

/-- Drops the zeros at the end of a coefficient; `fuel` bounds how many. -/
def trimZeros : Nat → Decimal → Decimal
  | 0, d => d
  | fuel + 1, d =>
    if d.coefficient ≠ 0 ∧ d.coefficient % 10 = 0 then
      trimZeros fuel ⟨d.coefficient / 10, d.exponent + 1⟩
    else d

/-- Tries grids of `digits`, `digits + 1`, … digits, `more` of them, for one that meets the
cell. After the last grid it takes the value cut to that grid. -/
def Cell.search (c : Cell) (tie : Tie) (magnitude : Int) : Nat → Nat → Decimal
  | digits, 0 =>
    let exponent := magnitude - digits + 1
    let scaled := c.inUnits exponent
    ⟨scaled.value / scaled.unit, exponent⟩
  | digits, more + 1 =>
    let exponent := magnitude - digits + 1
    match (c.inUnits exponent).wholeInside? tie with
    | some n => trimZeros digits ⟨n, exponent⟩
    | none => c.search tie magnitude (digits + 1) more

/-- The shortest decimal of a cell. Seventeen digits are enough for
every number of 53 bits. -/
def Cell.shortest (c : Cell) (tie : Tie) : Decimal :=
  c.search tie c.magnitude 1 17

/-- What a floating point number is: not a number, an infinity, or a signed decimal. -/
inductive Value where
  | nan
  | infinite (negative : Bool)
  | finite (negative : Bool) (magnitude : Decimal)
  deriving Repr, BEq, DecidableEq, Inhabited

/-- The number with these fields of a binary interchange format. `width` is the number
of fraction bits, `top` the largest exponent field, and `least` the exponent of the
smallest positive number. -/
def Value.ofFields (tie : Tie) (width top : Nat) (least : Int) (negative : Bool)
    (exponent fraction : Nat) : Value :=
  if exponent = top then
    if fraction = 0 then .infinite negative else .nan
  else if exponent = 0 then
    if fraction = 0 then .finite negative ⟨0, 0⟩
    else .finite negative ((Cell.ofBinary fraction least false).shortest tie)
  else
    .finite negative
      ((Cell.ofBinary (Nat.pow 2 width + fraction) (least + exponent - 1)
        (fraction == 0 && 1 < exponent)).shortest tie)

/-- The number in a word of a binary interchange format: a sign bit, an exponent field up
to `top`, and `width` fraction bits. -/
def Value.ofWord (tie : Tie) (width top : Nat) (least : Int) (word : Nat) : Value :=
  let scale := Nat.pow 2 width
  .ofFields tie width top least (word / scale / (top + 1) == 1) (word / scale % (top + 1))
    (word % scale)

/-- The shortest decimal of a 64-bit number. -/
def Value.ofFloat (tie : Tie) (x : Float) : Value :=
  .ofWord tie 52 2047 (-1074) x.toBits.toNat

/-- The shortest decimal of a 32-bit number. -/
def Value.ofFloat32 (tie : Tie) (x : Float32) : Value :=
  .ofWord tie 23 255 (-149) x.toBits.toNat

end Decimal
end Sortie
