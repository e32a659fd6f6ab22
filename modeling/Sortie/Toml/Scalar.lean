import Sortie.Decimal.Reading
import Sortie.Toml.Basic
import Sortie.Toml.Text
/-!
# Numbers, dates and times

Digits may be grouped by single underscores. A date and a time are kept as they
were written, but for a `T` between them, a `Z` in upper case, and a fraction of a
second without closing zeros.
-/

namespace Sortie.Toml

/-- Takes digits for which `ok` holds. An underscore may stand between two of them. -/
def digitRun (ok : Char → Bool) : List Char → List Char × List Char
  | '_' :: d :: rest =>
    if ok d then
      let (ds, left) := digitRun ok rest
      (d :: ds, left)
    else ([], '_' :: d :: rest)
  | c :: rest =>
    if ok c then
      let (ds, left) := digitRun ok rest
      (c :: ds, left)
    else ([], c :: rest)
  | [] => ([], [])

/-- Takes at least one digit, the first of them without an underscore. -/
def digitRun? (ok : Char → Bool) (cs : List Char) : Option (List Char × List Char) :=
  match cs with
  | c :: _ => if ok c then some (digitRun ok cs) else none
  | [] => none

/-- A whole number of 64 bits with a sign. -/
def whole? (negative : Bool) (n : Nat) : Option Toml :=
  if negative then if n ≤ Decimal.mostSigned64 + 1 then some (.whole (-(n : Int))) else none
  else if n ≤ Decimal.mostSigned64 then some (.whole n) else none

/-- Reads a whole number in base 2, 8 or 16 after its mark. -/
def readRadix? (base : Nat) (cs : List Char) : Option (Toml × List Char) := do
  let ok := fun c => match Json.hexValue? c with
    | some d => d < base
    | none => false
  let (ds, rest) ← digitRun? ok cs
  let n := ds.foldl (fun n c => n * base + (Json.hexValue? c).getD 0) 0
  return (← whole? false n, rest)

def takeSign : List Char → Bool × List Char
  | '-' :: rest => (true, rest)
  | '+' :: rest => (false, rest)
  | cs => (false, cs)

/-- Takes the whole part of a decimal number, which has no leading zero. -/
def wholePart? : List Char → Option (List Char × List Char)
  | '0' :: rest => some (['0'], rest)
  | cs => digitRun? Decimal.isDigit cs

/-- Takes an exponent, if one begins here. -/
def exponentPart? : List Char → Option (Option Int × List Char)
  | e :: rest =>
    if e = 'e' || e = 'E' then do
      let (negative, rest) := takeSign rest
      let (ds, rest) ← digitRun? Decimal.isDigit rest
      let n : Int := Decimal.valueOf ds
      return (some (if negative then -n else n), rest)
    else some (none, e :: rest)
  | [] => some (none, [])

/-- A real number. One too large above zero is refused. -/
def real? (negative : Bool) (units fraction : List Char) (exponent : Int) : Option Toml :=
  let x := Decimal.round (Decimal.valueOf (units ++ fraction)) (exponent - fraction.length)
  if x.isInf && !negative then none else some (.real (Decimal.signed negative x))

/-- Reads a decimal number after its sign. -/
def readDecimal? (negative : Bool) (cs : List Char) : Option (Toml × List Char) := do
  let (units, rest) ← wholePart? cs
  let (fraction, rest) ← match rest with
    | '.' :: rest => digitRun? Decimal.isDigit rest
    | rest => some ([], rest)
  let (exponent, rest) ← exponentPart? rest
  if fraction.isEmpty && exponent.isNone then
    return (← whole? negative (Decimal.valueOf units), rest)
  else return (← real? negative units fraction (exponent.getD 0), rest)

def readNumber? : List Char → Option (Toml × List Char)
  | '0' :: 'x' :: rest => readRadix? 16 rest
  | '0' :: 'o' :: rest => readRadix? 8 rest
  | '0' :: 'b' :: rest => readRadix? 2 rest
  | cs =>
    match takeSign cs with
    | (negative, 'i' :: 'n' :: 'f' :: rest) =>
      some (.real (Decimal.signed negative (1.0 / 0.0)), rest)
    | (_, 'n' :: 'a' :: 'n' :: rest) => some (.real (0.0 / 0.0), rest)
    | (negative, rest) => readDecimal? negative rest

/-! ## Dates and times -/

/-- Takes exactly `count` digits that write a number from `least` to `most`. -/
def field? (count least most : Nat) (cs : List Char) : Option (List Char × List Char) :=
  let ds := cs.take count
  let n := Decimal.valueOf ds
  if ds.length = count && ds.all Decimal.isDigit && least ≤ n && n ≤ most then
    some (ds, cs.drop count)
  else none

def mark? (c : Char) : List Char → Option (List Char)
  | d :: rest => if c = d then some rest else none
  | [] => none

/-- The number of days of a month. -/
def daysIn (year month : Nat) : Nat :=
  if month = 2 then
    if year % 4 = 0 && (year % 100 ≠ 0 || year % 400 = 0) then 29 else 28
  else if month = 4 || month = 6 || month = 9 || month = 11 then 30
  else 31

def readDate? (cs : List Char) : Option (List Char × List Char) := do
  let (year, rest) ← field? 4 0 9999 cs
  let rest ← mark? '-' rest
  let (month, rest) ← field? 2 1 12 rest
  let rest ← mark? '-' rest
  let (day, rest) ← field? 2 1 (daysIn (Decimal.valueOf year) (Decimal.valueOf month)) rest
  return (year ++ '-' :: month ++ '-' :: day, rest)

/-- The digits of a fraction of a second that count, without closing zeros. -/
def trimFraction (ds : List Char) : List Char :=
  ((ds.take 9).reverse.dropWhile (· = '0')).reverse

def readTime? (cs : List Char) : Option (List Char × List Char) := do
  let (hour, rest) ← field? 2 0 23 cs
  let rest ← mark? ':' rest
  let (minute, rest) ← field? 2 0 59 rest
  let rest ← mark? ':' rest
  let (second, rest) ← field? 2 0 60 rest
  let time := hour ++ ':' :: minute ++ ':' :: second
  match rest with
  | '.' :: rest =>
    let ds := rest.takeWhile Decimal.isDigit
    if ds.isEmpty then none
    else
      let fraction := trimFraction ds
      let time := if fraction.isEmpty then time else time ++ '.' :: fraction
      some (time, rest.dropWhile Decimal.isDigit)
  | rest => some (time, rest)

/-- Reads the distance from universal time. -/
def readOffset? : List Char → Option (List Char × List Char)
  | [] => none
  | c :: rest =>
    if c = 'Z' || c = 'z' then some (['Z'], rest)
    else if c = '+' || c = '-' then do
      let (hour, rest) ← field? 2 0 23 rest
      let rest ← mark? ':' rest
      let (minute, rest) ← field? 2 0 59 rest
      let isZero := Decimal.valueOf hour = 0 && Decimal.valueOf minute = 0
      return ((if isZero then '+' else c) :: hour ++ ':' :: minute, rest)
    else none

/-- Reads what may follow a date: a time, and perhaps its distance from universal time. -/
def readTimeOfDate? : List Char → Option (List Char × List Char)
  | [] => none
  | c :: rest =>
    if c = 'T' || c = 't' || c = ' ' then do
      let (time, rest) ← readTime? rest
      match readOffset? rest with
      | some (offset, rest) => return ('T' :: time ++ offset, rest)
      | none => return ('T' :: time, rest)
    else none

/-- Reads a date, a time, or both. -/
def readMoment? (cs : List Char) : Option (Toml × List Char) :=
  match readDate? cs with
  | some (date, rest) =>
    match readTimeOfDate? rest with
    | some (time, rest) => some (.moment (.ofList (date ++ time)), rest)
    | none => some (.moment (.ofList date), rest)
  | none => (readTime? cs).map fun (time, rest) => (.moment (.ofList time), rest)

/-- Reads a value that holds no other value. -/
def readScalar? : List Char → Option (Toml × List Char)
  | 't' :: 'r' :: 'u' :: 'e' :: rest => some (.flag true, rest)
  | 'f' :: 'a' :: 'l' :: 's' :: 'e' :: rest => some (.flag false, rest)
  | cs =>
    match readText? cs with
    | some (s, rest) => some (.text s, rest)
    | none =>
      match readMoment? cs with
      | some found => some found
      | none => readNumber? cs

end Sortie.Toml
