import Sortie.Proofs.Json
import Sortie.Proofs.Rounding
/-!
# Written numbers are numbers

Whatever the layout, a decimal is written in the number form of JSON
(`Decimal.isNumber_write`): the digits of its coefficient do not begin with a zero, and a
point stands between digits. So every real number has a well-formed JSON value: a number if
the real number is finite, and `null` if not.
-/

namespace Sortie

namespace Decimal

theorem isDigit_eq (c : Char) : isDigit c = c.isDigit := by
  have same : (('0' ≤ c && c ≤ '9') : Bool) = c.isDigit := rfl
  rw [isDigit, digit?, same]
  cases c.isDigit <;> rfl

theorem isDigit_of_mem_toDigits {n : Nat} {c : Char} (h : c ∈ Nat.toDigits 10 n) :
    isDigit c = true := by
  rw [isDigit_eq]
  exact Nat.isDigit_of_mem_toDigits (by decide) (by decide) h

/-- A number other than zero is written without a zero before it. -/
theorem exists_toDigits_eq_cons {n : Nat} (h : n ≠ 0) :
    ∃ c ds, Nat.toDigits 10 n = c :: ds ∧ c ≠ '0' := by
  induction n using Nat.strongRecOn with
  | _ n ih =>
    rcases Nat.lt_or_ge n 10 with small | large
    · rw [Nat.toDigits_of_lt_base small]
      exact ⟨_, _, rfl, fun zero => h (Nat.digitChar_eq_zero.mp zero)⟩
    · obtain ⟨c, ds, written, nonzero⟩ := ih (n / 10) (by omega) (by omega)
      rw [Nat.toDigits_of_base_le (by decide) large, written]
      exact ⟨c, _, rfl, nonzero⟩

end Decimal

/-! ## The number form -/

namespace Json

theorem allDigits_iff {cs : List Char} :
    allDigits cs = true ↔ cs ≠ [] ∧ ∀ c ∈ cs, Decimal.isDigit c = true := by
  simp [allDigits]

/-- No digit stands at the beginning. -/
def StopsDigits (cs : List Char) : Prop :=
  ∀ c ∈ cs.head?, Decimal.isDigit c = false

theorem takeWhile_digits {ds rest : List Char} (digits : ∀ c ∈ ds, Decimal.isDigit c = true)
    (stops : StopsDigits rest) : (ds ++ rest).takeWhile Decimal.isDigit = ds := by
  rw [List.takeWhile_append_of_pos digits]
  cases rest with
  | nil => rw [List.takeWhile_nil, List.append_nil]
  | cons c rest => rw [List.takeWhile_cons_of_neg (by simp [stops c rfl]), List.append_nil]

theorem dropWhile_digits {ds rest : List Char} (digits : ∀ c ∈ ds, Decimal.isDigit c = true)
    (stops : StopsDigits rest) : (ds ++ rest).dropWhile Decimal.isDigit = rest := by
  rw [List.dropWhile_append_of_pos digits]
  cases rest with
  | nil => rfl
  | cons c rest => rw [List.dropWhile_cons_of_neg (by simp [stops c rfl])]

theorem stopsDigits_of_isExponent {cs : List Char} (h : isExponent cs = true) : StopsDigits cs := by
  cases cs with
  | nil => nofun
  | cons c cs =>
    rintro d hd
    cases hd
    obtain ⟨rfl | rfl, -⟩ := of_isExponent h <;> rfl

theorem isExponent_of_digits {sign ds : List Char} (h : allDigits ds = true)
    (hs : sign = [] ∨ sign = ['+'] ∨ sign = ['-']) : isExponent ('e' :: (sign ++ ds)) = true := by
  obtain rfl | rfl | rfl := hs
  · cases ds with
    | nil => cases h
    | cons d ds =>
      have digit := (allDigits_iff.mp h).2 d List.mem_cons_self
      have plus : d ≠ '+' := by
        rintro rfl
        cases digit
      have minus : d ≠ '-' := by
        rintro rfl
        cases digit
      simpa [isExponent, plus, minus] using h
  · exact h
  · exact h

theorem isNumberTail_of_isExponent {cs : List Char} (h : isExponent cs = true) :
    isNumberTail cs = true := by
  cases cs with
  | nil => rfl
  | cons c cs => obtain ⟨rfl | rfl, -⟩ := of_isExponent h <;> exact h

theorem isNumberTail_point {ds rest : List Char} (h : allDigits ds = true)
    (more : isExponent rest = true) : isNumberTail ('.' :: (ds ++ rest)) = true := by
  obtain ⟨nonempty, digits⟩ := allDigits_iff.mp h
  have stops := stopsDigits_of_isExponent more
  rw [isNumberTail, takeWhile_digits digits stops, dropWhile_digits digits stops, more]
  simpa using nonempty

theorem stopsDigits_of_isNumberTail {cs : List Char} (h : isNumberTail cs = true) :
    StopsDigits cs := by
  unfold isNumberTail at h
  split at h
  · rintro c hc
    cases hc
    rfl
  · exact stopsDigits_of_isExponent h

theorem isUnsignedNumber_of_digits {c : Char} {ds tail : List Char}
    (digits : ∀ d ∈ c :: ds, Decimal.isDigit d = true) (nonzero : c ≠ '0')
    (more : isNumberTail tail = true) : isUnsignedNumber (c :: ds ++ tail) = true := by
  obtain ⟨first, others⟩ := List.forall_mem_cons.mp digits
  rw [List.cons_append, isUnsignedNumber, first,
    dropWhile_digits others (stopsDigits_of_isNumberTail more), more]
  · rfl
  · exact nonzero

theorem isNumber_of_isUnsignedNumber {cs : List Char} (h : isUnsignedNumber cs = true) :
    isNumber cs = true := by
  obtain ⟨c, rest, rfl, digit, -⟩ := of_isUnsignedNumber h
  unfold isNumber
  split
  · rename_i sign
    cases sign
    cases digit
  · exact h

end Json

/-! ## Layouts -/

namespace Decimal

open Json

theorem isDigit_of_mem_zeros {count : Nat} : ∀ d ∈ List.replicate count '0', isDigit d = true := by
  intro d mem
  rw [List.eq_of_mem_replicate mem]
  rfl

theorem allDigits_digits (n : Nat) : allDigits (digits n).toList = true := by
  rw [digits, String.toList_ofList]
  exact allDigits_iff.mpr ⟨Nat.toDigits_ne_nil, fun _ => isDigit_of_mem_toDigits⟩

variable (layout : Layout) {c : Char} {ds : List Char} (digits : ∀ d ∈ c :: ds, isDigit d = true)
  (nonzero : c ≠ '0') (magnitude : Int)
include digits nonzero

theorem isUnsignedNumber_positional :
    isUnsignedNumber (positional layout (c :: ds) magnitude).toList = true := by
  unfold positional
  split
  · -- The zeros before the first digit follow a point.
    let fraction := List.replicate ((-magnitude).toNat - 1) '0' ++ c :: ds
    have all : allDigits fraction = true :=
      allDigits_iff.mpr ⟨by simp [fraction],
        List.forall_mem_append.mpr ⟨isDigit_of_mem_zeros, digits⟩⟩
    have number : isUnsignedNumber ('0' :: '.' :: (fraction ++ [])) = true :=
      isNumberTail_point all rfl
    simpa [zeros, fraction] using number
  split
  · let whole := ds ++ List.replicate (magnitude.toNat + 1 - (c :: ds).length) '0'
    have all : ∀ d ∈ c :: whole, isDigit d = true :=
      List.forall_mem_append.mpr ⟨digits, isDigit_of_mem_zeros⟩
    have tail : isNumberTail (if layout.pointZero then ".0" else "").toList = true := by
      split <;> rfl
    have number := isUnsignedNumber_of_digits all nonzero tail
    simpa [zeros, whole] using number
  · rename_i long
    have whole : ∀ d ∈ c :: ds.take magnitude.toNat, isDigit d = true := fun d mem =>
      digits d (List.mem_of_mem_take (i := magnitude.toNat + 1) mem)
    have fraction : allDigits (ds.drop magnitude.toNat) = true :=
      allDigits_iff.mpr ⟨by simpa using long,
        fun d mem => digits d (List.mem_cons_of_mem _ (List.mem_of_mem_drop mem))⟩
    have tail : isNumberTail ('.' :: (ds.drop magnitude.toNat ++ [])) = true :=
      isNumberTail_point fraction rfl
    have number := isUnsignedNumber_of_digits whole nonzero tail
    simpa using number

theorem isUnsignedNumber_scientific :
    isUnsignedNumber (scientific layout (c :: ds) magnitude).toList = true := by
  let sign := if magnitude < 0 then "-" else if layout.plusSign then "+" else ""
  have signs : sign.toList = [] ∨ sign.toList = ['+'] ∨ sign.toList = ['-'] := by
    dsimp only [sign]
    split
    · exact .inr (.inr rfl)
    split
    · exact .inr (.inl rfl)
    · exact .inl rfl
  have exponent := isExponent_of_digits (allDigits_digits magnitude.natAbs) signs
  have first : ∀ d ∈ [c], isDigit d = true := fun d mem =>
    digits d (by rw [List.mem_singleton.mp mem]; exact List.mem_cons_self)
  cases ds with
  | nil =>
    have number := isUnsignedNumber_of_digits first nonzero (isNumberTail_of_isExponent exponent)
    simpa [scientific, sign] using number
  | cons d ds =>
    have fraction : allDigits (d :: ds) = true :=
      allDigits_iff.mpr ⟨List.cons_ne_nil _ _, fun d mem => digits d (List.mem_cons_of_mem _ mem)⟩
    have number := isUnsignedNumber_of_digits first nonzero (isNumberTail_point fraction exponent)
    simpa [scientific, sign] using number

omit digits nonzero in
theorem isUnsignedNumber_magnitudeText (d : Decimal) :
    isUnsignedNumber (layout.magnitudeText d).toList = true := by
  rw [Layout.magnitudeText]
  by_cases zero : d.coefficient = 0
  · rw [if_pos zero]
    cases layout.pointZero <;> rfl
  · obtain ⟨c, ds, written, first⟩ := exists_toDigits_eq_cons zero
    have digits : ∀ d ∈ c :: ds, isDigit d = true := by
      rw [← written]
      exact fun _ => isDigit_of_mem_toDigits
    have either (magnitude : Int) (b : Bool) :
        isUnsignedNumber (if b then scientific layout (c :: ds) magnitude
          else positional layout (c :: ds) magnitude).toList = true := by
      cases b with
      | true => exact isUnsignedNumber_scientific layout digits first magnitude
      | false => exact isUnsignedNumber_positional layout digits first magnitude
    rw [if_neg zero, written]
    exact either _ _

omit digits nonzero in
/-- A decimal is written as a number in every layout. -/
theorem isNumber_write (negative : Bool) (d : Decimal) :
    isNumber (layout.write (.finite negative d)).toList = true := by
  have magnitude := isUnsignedNumber_magnitudeText layout d
  cases negative with
  | true => simpa [Layout.write, isNumber] using magnitude
  | false => simpa [Layout.write] using isNumber_of_isUnsignedNumber magnitude

end Decimal
/-! ## Finite numbers -/

section Fields

open Float.Model Float.Model.UnpackedFloat

theorem toNat_unpackExponent (b : BitVec 64) :
    (@unpackExponent Format.binary64 b).toNat = b.toNat / 2 ^ 52 % 2048 := by
  simp only [unpackExponent, BitVec.toNat_cast, BitVec.extractLsb_toNat]
  rw [Nat.shiftRight_eq_div_pow]

theorem isFinite_iff (x : Float) :
    x.isFinite = true ↔ x.toBits.toNat / 2 ^ 52 % 2048 ≠ 2047 := by
  have field := toNat_unpackExponent x.toBits.toBitVec
  change (UnpackedFloat.unpack Format.binary64 x.toBits.toBitVec).isFinite = true ↔
    x.toBits.toBitVec.toNat / 2 ^ 52 % 2048 ≠ 2047
  rw [← field]
  unfold UnpackedFloat.unpack
  dsimp only
  split
  · rename_i top
    rw [top]
    split <;> simp [UnpackedFloat.isFinite]
  · rename_i below
    refine iff_of_true ?_ fun top => below (BitVec.eq_of_toNat_eq top)
    split
    · split <;> rfl
    · rfl

end Fields

namespace Decimal.Value

variable (tie : Tie)

theorem exists_ofFields_eq_finite {top exponent : Nat} (h : exponent ≠ top) (width : Nat)
    (least : Int) (negative : Bool) (fraction : Nat) :
    ∃ d, ofFields tie width top least negative exponent fraction = .finite negative d := by
  rw [ofFields, if_neg h]
  split
  · split
    · exact ⟨_, rfl⟩
    · exact ⟨_, rfl⟩
  · exact ⟨_, rfl⟩

theorem exists_ofFloat_eq_finite {x : Float} (h : x.isFinite = true) :
    ∃ negative d, ofFloat tie x = .finite negative d :=
  ⟨_, exists_ofFields_eq_finite tie ((isFinite_iff x).mp h) 52 (-1074) _ _⟩

theorem ofFloat_ne_finite {x : Float} (h : ¬ x.isFinite = true) (negative : Bool) (d : Decimal) :
    ofFloat tie x ≠ .finite negative d := by
  have top : x.toBits.toNat / 2 ^ 52 % 2048 = 2047 := by
    rw [isFinite_iff] at h
    omega
  change ofFields tie 52 2047 (-1074) _ (x.toBits.toNat / 2 ^ 52 % 2048) _ ≠ _
  rw [top, ofFields, if_pos rfl]
  split <;> nofun

end Decimal.Value

namespace Json

theorem exists_real_eq_number {x : Float} (h : x.isFinite = true) :
    ∃ lexeme, real x = .number lexeme := by
  obtain ⟨negative, d, value⟩ := Decimal.Value.exists_ofFloat_eq_finite Decimal.json.tie h
  rw [real, value]
  exact ⟨_, rfl⟩

theorem real_eq_null {x : Float} (h : ¬ x.isFinite = true) : real x = .null := by
  unfold real
  split
  · rename_i value
    exact absurd value (Decimal.Value.ofFloat_ne_finite _ h _ _)
  · rfl

theorem isWellFormed_real (x : Float) : IsWellFormed (real x) := by
  unfold real
  split
  · exact .number (Decimal.isNumber_write ..)
  · exact .null

end Json

end Sortie
