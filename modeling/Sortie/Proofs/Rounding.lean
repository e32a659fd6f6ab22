import Mathlib
import Sortie.Json.Number
/-!
# Numbers in, numbers out

Reading a number rounds its digits and scales them by powers of ten, and arithmetic gives
no number for an infinity times zero, an infinity over an infinity or zero over zero. None
of the three can come up: every power of ten up to `10 ^ 308` is rounded to a number that
is neither zero nor infinite (`isProper_round_one`). So a JSON number is read as a number,
whatever its text (`Json.Number.isNaN_read`).
-/

namespace Sortie

open Float.Model Float.Model.UnpackedFloat

/-! ## Packing -/

/-- Neither zero nor infinite, and a number. -/
def isProper : UnpackedFloat → Bool
  | .finite .. => true
  | _ => false

/-- There is a single value that is no number. -/
theorem eq_of_isNaN {x y : Float} (hx : x.isNaN = true) (hy : y.isNaN = true) : x = y := by
  rw [Float.isNaN_eq_decide_eq_nan, decide_eq_true_iff] at hx hy
  rw [hx, hy]

/-- Packing makes an infinity of a number that is too large, but never
makes it no number. -/
theorem isNaN_unpack_pack {u : UnpackedFloat} (h : u.isNaN = false) :
    (Float.Model.pack u).unpack.isNaN = false := by
  refine eq_false_of_ne_true fun nan => ?_
  have packed : UnpackedFloat.pack Format.binary64 u = packedNaN Format.binary64 :=
    (isNaN_unpack_iff_of_valid valid_pack).mp nan
  have top := congrArg (@unpackExponent Format.binary64) packed
  have fraction := congrArg (@unpackMantissa Format.binary64) packed
  simp only [packedNaN, unpackExponent_packComponents, unpackMantissa_packComponents]
    at top fraction
  cases u with
  | notANumber => cases h
  | infinity s => exact absurd (unpackMantissa_packComponents.symm.trans fraction) (by decide)
  | zero s => exact absurd (unpackMantissa_packComponents.symm.trans fraction) (by decide)
  | finite s m e pos =>
    simp only [UnpackedFloat.pack] at top fraction
    split at top
    · rename_i large
      rw [if_pos large] at fraction
      exact absurd (unpackMantissa_packComponents.symm.trans fraction) (by decide)
    · rename_i inside
      split at top
      · rw [unpackExponent_packComponents] at top
        have field := congrArg BitVec.toNat top
        simp only [BitVec.toNat_ofNat, BitVec.toNat_neg] at field inside
        omega
      · rw [unpackExponent_packComponents] at top
        exact absurd top (by decide)

theorem isProper_unpack_pack (s : Sign) {m : Nat} {e : Int} (pos : 0 < m) (full : m.log2 = 52)
    (least : -1074 ≤ e) (most : e ≤ 971) :
    isProper (Float.Model.pack (.finite s m e pos)).unpack = true := by
  obtain ⟨n, hn⟩ : ∃ n : Nat, n = (e + 1023 + 52).toNat := ⟨_, rfl⟩
  have packed : UnpackedFloat.pack Format.binary64 (.finite s m e pos) =
      packComponents Format.binary64 s (BitVec.ofNat 11 n) (BitVec.ofNat 52 m) := by
    rw [UnpackedFloat.pack, hn]
    change (if 2048 ≤ (e + 1023 + 52).toNat + 1 then _ else if m.log2 + 1 = 53 then _ else _) = _
    rw [if_neg (by omega), if_pos (by omega)]
    rfl
  have field : (BitVec.ofNat 11 n).toNat = n := by
    rw [BitVec.toNat_ofNat, Nat.mod_eq_of_lt (by omega)]
  simp only [Float.Model.unpack, Float.Model.pack, packed, UnpackedFloat.unpack,
    unpackExponent_packComponents]
  rw [if_neg, if_neg]
  · rfl
  · intro bottom
    have : n = 0 := field.symm.trans (congrArg BitVec.toNat bottom)
    omega
  · intro top
    have : n = 2047 := field.symm.trans (congrArg BitVec.toNat top)
    omega

/-! ## Rounding -/

theorem mantissa_shiftRight (em : ExtendedMantissa) (k : Nat) :
    (em >>> k).mantissa = em.mantissa / 2 ^ k := by
  change (Nat.repeat ExtendedMantissa.shiftRightOne k em).mantissa = _
  induction k with
  | zero => simp [Nat.repeat]
  | succ k ih =>
    rw [Nat.repeat, ExtendedMantissa.shiftRightOne, ih, Nat.div_div_eq_div_mul, Nat.pow_succ]

theorem mantissa_ofMantissaAndAccuracy (m : Nat) (a : Accuracy) :
    (ExtendedMantissa.ofMantissaAndAccuracy m a).mantissa = m := by
  rcases a with _ | _ | _ | _ <;> rfl

theorem roundedMantissa_bounds (em : ExtendedMantissa) :
    em.mantissa ≤ em.roundedMantissa ∧ em.roundedMantissa ≤ em.mantissa + 1 := by
  obtain ⟨m, _ | _, _ | _⟩ := em <;>
    simp only [ExtendedMantissa.roundedMantissa, ExtendedMantissa.accuracy,
      Accuracy.roundToNearestEven] <;>
    omega

/-- A mantissa of at least 53 bits is shifted to exactly 53 if its
number is not subnormal. -/
theorem shiftToTargetExponent_normal {m : Nat} {e : Int} (a : Accuracy) (long : 52 ≤ m.log2)
    (normal : -1022 ≤ m.log2 + e) :
    (shiftToTargetExponent Format.binary64 m e a).1.mantissa.log2 = 52 ∧
      (shiftToTargetExponent Format.binary64 m e a).2 = m.log2 + e - 52 := by
  have target : Format.binary64.targetExponent (totalExponent m e) = m.log2 + e - 52 := by
    change max ((m.log2 : Int) + 1 + e - 53) (-1074) = _
    omega
  have shift : (m.log2 + e - 52 - e).toNat = m.log2 - 52 := by omega
  simp only [shiftToTargetExponent, shiftToExponent, target, shift, mantissa_shiftRight,
    mantissa_ofMantissaAndAccuracy]
  refine ⟨?_, by omega⟩
  rw [Nat.log2_eq_log_two, Nat.log_div_base_pow, ← Nat.log2_eq_log_two]
  omega

/-- Rounding may carry into one more bit, which the second shift takes back. -/
theorem isProper_roundWithAccuracy (s : Sign) {m : Nat} {e : Int} (a : Accuracy)
    (long : 52 ≤ m.log2) (least : -1022 ≤ m.log2 + e) (most : m.log2 + e ≤ 1022) :
    isProper (Float.Model.pack (roundWithAccuracy Format.binary64 s m e a)).unpack = true := by
  obtain ⟨full, exponent⟩ := shiftToTargetExponent_normal a long least
  rw [roundWithAccuracy]
  generalize shiftToTargetExponent Format.binary64 m e a = shifted at full exponent ⊢
  obtain ⟨em, e₁⟩ := shifted
  dsimp only at full exponent ⊢
  have rounded : 52 ≤ em.roundedMantissa.log2 ∧ em.roundedMantissa.log2 ≤ 53 := by
    have nonzero : em.mantissa ≠ 0 := fun zero => by simp [zero] at full
    have bounds := (Nat.log2_eq_iff nonzero).1 full
    have near := roundedMantissa_bounds em
    have positive : em.roundedMantissa ≠ 0 := by omega
    have lower := (Nat.le_log2 positive).2 (show 2 ^ 52 ≤ em.roundedMantissa by omega)
    have upper := (Nat.log2_lt positive).2 (show em.roundedMantissa < 2 ^ 54 by omega)
    omega
  obtain ⟨full', exponent'⟩ := shiftToTargetExponent_normal (e := e₁) .exact rounded.1 (by omega)
  generalize shiftToTargetExponent Format.binary64 em.roundedMantissa e₁ .exact = shifted
    at full' exponent' ⊢
  obtain ⟨em', e₂⟩ := shifted
  dsimp only at full' exponent' ⊢
  split
  · rename_i zero
    simp [zero] at full'
  · exact isProper_unpack_pack s _ full' (by omega) (by omega)

theorem isNaN_roundWithAccuracy (s : Sign) (m : Nat) (e : Int) (a : Accuracy) :
    (roundWithAccuracy Format.binary64 s m e a).isNaN = false := by
  simp only [roundWithAccuracy]
  split <;> rfl

/-! ## Arithmetic -/

theorem isNaN_mul_of_proper {u v : UnpackedFloat} (hu : u.isNaN = false) (hv : isProper v = true) :
    (UnpackedFloat.mul Format.binary64 u v).isNaN = false := by
  cases v with
  | finite =>
    cases u with
    | notANumber => cases hu
    | infinity | zero => rfl
    | finite => exact isNaN_roundWithAccuracy ..
  | _ => cases hv

theorem isNaN_div_of_proper {u v : UnpackedFloat} (hu : u.isNaN = false) (hv : isProper v = true) :
    (UnpackedFloat.div Format.binary64 u v).isNaN = false := by
  cases v with
  | finite =>
    cases u with
    | notANumber => cases hu
    | infinity | zero => rfl
    | finite => exact isNaN_roundWithAccuracy ..
  | _ => cases hv

variable {x y : Float}

theorem isNaN_mul (hx : x.isNaN = false) (hy : isProper y.toModel.unpack = true) :
    (x * y).isNaN = false :=
  isNaN_unpack_pack (isNaN_mul_of_proper hx hy)

theorem isNaN_div (hx : x.isNaN = false) (hy : isProper y.toModel.unpack = true) :
    (x / y).isNaN = false :=
  isNaN_unpack_pack (isNaN_div_of_proper hx hy)

theorem isNaN_neg (hx : x.isNaN = false) : (-x).isNaN = false := by
  have number : x.toModel.unpack.isNaN = false := hx
  refine isNaN_unpack_pack ?_
  generalize x.toModel.unpack = u at number
  cases u with
  | notANumber => cases number
  | _ => rfl

/-! ## Decimals -/

theorem isNaN_toFloat (n : UInt64) : n.toFloat.isNaN = false := by
  refine isNaN_unpack_pack ?_
  simp only [UnpackedFloat.ofUInt64, UnpackedFloat.ofNat, UnpackedFloat.ofInt,
    UnpackedFloat.normalize]
  split
  · exact isNaN_roundWithAccuracy ..
  · rfl
  · exact isNaN_roundWithAccuracy ..

theorem isProper_of_mem_exactPowers :
    ∀ p ∈ Float.exactlyRepresentablePowersOfTen.toList, isProper p.toModel.unpack = true := by
  decide +kernel

theorem isNaN_unpackedOfScientific (m : Nat) (e : Int) :
    (UnpackedFloat.ofScientific Format.binary64 m e).isNaN = false := by
  unfold UnpackedFloat.ofScientific
  split
  · rfl
  split
  · rfl
  split
  · rfl
  split
  · exact isNaN_mul_of_proper rfl rfl
  · exact isNaN_div_of_proper rfl rfl

theorem isNaN_ofScientific (m : Nat) (s : Bool) (e : Nat) :
    (Float.ofScientific m s e).isNaN = false := by
  unfold Float.ofScientific
  split
  · rename_i exact
    have bound : e < Float.exactlyRepresentablePowersOfTen.size := Nat.lt_succ_of_le exact.2
    have proper := isProper_of_mem_exactPowers _ (Array.getElem_mem_toList bound)
    cases s with
    | true => exact isNaN_div (isNaN_toFloat _) proper
    | false => exact isNaN_mul (isNaN_toFloat _) proper
  · exact isNaN_unpack_pack (isNaN_unpackedOfScientific ..)

theorem Decimal.isNaN_round (coefficient : Nat) (exponent : Int) :
    (round coefficient exponent).isNaN = false := by
  unfold round
  split
  · decide
  · dsimp only
    split
    · decide +kernel
    split
    · decide
    · exact isNaN_ofScientific ..

theorem isProper_ofScientific_one {k : Nat} (large : 22 < k) (below : k < 308) :
    isProper (Float.ofScientific 1 false k).toModel.unpack = true := by
  -- The mantissa of the exact product has 53 bits more than the power.
  let m := (1 <<< 53) * 10 ^ k
  have product : (Float.ofScientific 1 false k).toModel = Float.Model.pack
      (roundWithAccuracy Format.binary64 (.positive * .positive) m (-53 + 0) .exact) := by
    rw [Float.ofScientific, dif_neg (by omega)]
    change Float.Model.pack (UnpackedFloat.ofScientific Format.binary64 1 k) = _
    rw [UnpackedFloat.ofScientific, dif_neg (by decide), if_neg, if_neg, if_pos (by omega)]
    · rfl
    · change ¬ (k : Int) < -(2 ^ 11 + 0)
      omega
    · change ¬ (k : Int) > 2 ^ 11
      omega
  have positive : 0 < 10 ^ k := Nat.pow_pos (by decide)
  -- The number of bits stays a variable, so that no step computes the power of two.
  obtain ⟨bits, few, bounded⟩ : ∃ bits ≤ 1023, 10 ^ k < 2 ^ bits :=
    ⟨1023, Nat.le_refl _, calc
      10 ^ k ≤ 10 ^ 307 := Nat.pow_le_pow_right (by decide) (by omega)
      _ < 2 ^ 1023 := by decide +kernel⟩
  have nonzero : m ≠ 0 := (Nat.mul_pos (by decide) positive).ne'
  have least : 53 ≤ m.log2 := (Nat.le_log2 nonzero).2 (Nat.le_mul_of_pos_right (2 ^ 53) positive)
  have most : m.log2 < 53 + bits := by
    rw [Nat.log2_lt nonzero, Nat.pow_add]
    exact Nat.mul_lt_mul_of_pos_left bounded (by decide)
  rw [product]
  exact isProper_roundWithAccuracy _ _ (by omega) (by omega) (by omega)

/-- The powers up to `10 ^ 22` are exact, and those above are rounded from the exact
product. Only `10 ^ 308` has as many bits as the largest number. -/
theorem isProper_round_one {k : Nat} (h : k ≤ 308) :
    isProper (Decimal.round 1 k).toModel.unpack = true := by
  have written : Decimal.round 1 k = Float.ofScientific 1 false k := by
    have one : (Nat.toDigits 10 1).length = 1 := rfl
    rw [Decimal.round, if_neg (by decide), one]
    dsimp only
    rw [if_neg (by omega), if_neg (by omega), Int.natAbs_natCast, decide_eq_false (by omega)]
  have exact : ∀ k < 23, isProper (Float.ofScientific 1 false k).toModel.unpack = true := by
    decide +kernel
  rw [written]
  obtain small | rfl | ⟨large, below⟩ : k < 23 ∨ k = 308 ∨ 22 < k ∧ k < 308 := by omega
  · exact exact k small
  · decide +kernel
  · exact isProper_ofScientific_one large below

/-! ## Numbers -/

namespace Json.Number

/-- Every factor and every divisor on the way is a power of ten, and thus proper. -/
theorem isNaN_scale {exponent : Int} {fuel : Nat} {x y : Float} (hx : x.isNaN = false)
    (h : scale x exponent fuel = some y) : y.isNaN = false := by
  induction fuel generalizing x exponent with
  | zero =>
    cases h
    decide
  | succ fuel ih =>
    rw [scale] at h
    split at h
    · rename_i inside
      split at h
      · rename_i up
        have power : isProper (Decimal.round 1 exponent).toModel.unpack = true := by
          have := isProper_round_one inside
          rwa [Int.natAbs_of_nonneg up] at this
        dsimp only at h
        split at h
        · cases h
        · cases h
          exact isNaN_mul hx power
      · cases h
        exact isNaN_div hx (isProper_round_one inside)
    · split at h
      · cases h
        exact hx
      split at h
      · cases h
      · exact ih (isNaN_div hx (isProper_round_one (k := 308) (by decide))) h

theorem isNaN_readUnsigned {cs : List Char} {x : Float} (h : readUnsigned cs = some x) :
    x.isNaN = false := by
  have scaled {e : Option Int} {f : Int → Int} {c : Nat}
      (h : (e.bind fun exponent => scale (Decimal.round c 0) (f exponent) 5) = some x) :
      x.isNaN = false := by
    obtain ⟨exponent, -, h⟩ := Option.bind_eq_some_iff.1 h
    exact isNaN_scale (Decimal.isNaN_round ..) h
  simp only [readUnsigned, Option.bind_eq_bind] at h
  split at h
  · exact scaled h
  · exact scaled h

/-- What a JSON number is read as is a number. -/
theorem isNaN_read {lexeme : String} {x : Float} (h : read lexeme = some x) : x.isNaN = false := by
  unfold read at h
  split at h
  · obtain ⟨y, unsigned, rfl⟩ := Option.map_eq_some_iff.1 h
    exact isNaN_neg (isNaN_readUnsigned unsigned)
  · exact isNaN_readUnsigned h

end Json.Number

end Sortie
