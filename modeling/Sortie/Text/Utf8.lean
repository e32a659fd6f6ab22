/-!
# Reading bytes as UTF-8

One step reads the next character, or the longest run of bytes that could have begun one. A
strict reading refuses such a run, a lossy reading puts U+FFFD in its place.
-/

namespace Sortie.Text.Utf8

/-- A byte that continues a character. -/
def isTail (b : UInt8) : Bool :=
  0x80 ≤ b && b ≤ 0xBF

/-- For a first byte, how many bytes follow it and the least and
greatest value of the second. -/
def lead (b : UInt8) : Option (Nat × UInt8 × UInt8) :=
  if b ≤ 0x7F then some (0, 0x80, 0xBF)
  else if 0xC2 ≤ b && b ≤ 0xDF then some (1, 0x80, 0xBF)
  else if b == 0xE0 then some (2, 0xA0, 0xBF)
  else if b == 0xED then some (2, 0x80, 0x9F)
  else if 0xE1 ≤ b && b ≤ 0xEF then some (2, 0x80, 0xBF)
  else if b == 0xF0 then some (3, 0x90, 0xBF)
  else if 0xF1 ≤ b && b ≤ 0xF3 then some (3, 0x80, 0xBF)
  else if b == 0xF4 then some (3, 0x80, 0x8F)
  else none

/-- The payload bits of a first byte that is followed by `n` more. -/
def leadBits (b : UInt8) : Nat → Nat
  | 0 => b.toNat
  | 1 => b.toNat % 32
  | 2 => b.toNat % 16
  | _ => b.toNat % 8

/-- Takes the `n` bytes still owed, the first of them between `low` and `high`. The result
is the code point if all of them came, and what is left after the last byte that fitted. -/
def finish (code : Nat) : Nat → UInt8 → UInt8 → List UInt8 → Option Nat × List UInt8
  | 0, _, _, rest => (some code, rest)
  | _ + 1, _, _, [] => (none, [])
  | n + 1, low, high, b :: rest =>
    if low ≤ b && b ≤ high then finish (code * 64 + b.toNat % 64) n 0x80 0xBF rest
    else (none, b :: rest)

theorem finish_length_le (code n : Nat) (low high : UInt8) (bytes : List UInt8) :
    (finish code n low high bytes).2.length ≤ bytes.length := by
  induction bytes generalizing code n low high with
  | nil => cases n <;> simp [finish]
  | cons b rest ih =>
    cases n with
    | zero => simp [finish]
    | succ n =>
      unfold finish
      split
      · exact Nat.le_succ_of_le (ih _ _ _ _)
      · simp

/-- The next character, or `none` for bytes that begin no character,
and the bytes after it. -/
def next (b : UInt8) (rest : List UInt8) : Option Char × List UInt8 :=
  match lead b with
  | none => (none, rest)
  | some (n, low, high) =>
    let (code, left) := finish (leadBits b n) n low high rest
    (code.map Char.ofNat, left)

theorem next_length_le (b : UInt8) (rest : List UInt8) : (next b rest).2.length ≤ rest.length := by
  unfold next
  split
  · simp
  · exact finish_length_le _ _ _ _ _

/-- The characters of a byte string, with `none` for each run of bytes that is none. -/
def chars : List UInt8 → List (Option Char)
  | [] => []
  | b :: rest => (next b rest).1 :: chars (next b rest).2
termination_by bytes => bytes.length
decreasing_by exact Nat.lt_succ_of_le (next_length_le b rest)

/-- The text of well-formed UTF-8. -/
def decode? (bytes : List UInt8) : Option String :=
  ((chars bytes).mapM id).map String.ofList

/-- The text of any bytes, with U+FFFD where they are not UTF-8. -/
def decodeLossy (bytes : List UInt8) : String :=
  .ofList ((chars bytes).map fun c => c.getD '\ufffd')

/-- The bytes of a text. -/
def encode (s : String) : List UInt8 :=
  s.toUTF8.toList

end Sortie.Text.Utf8
