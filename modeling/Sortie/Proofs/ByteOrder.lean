import Sortie.Text.Utf8
/-!
# Texts in the order of their bytes

Texts are ordered by the code points of their characters. UTF-8 keeps this order, so
whoever orders texts by their bytes finds them in the same order (`encode_lt_encode_iff`).
-/

namespace Sortie.Text.Utf8

/-! ## Bytes of a text -/

theorem toList_loop (bytes : ByteArray) (start : Nat) (done : List UInt8) :
    ByteArray.toList.loop bytes start done = done.reverse ++ bytes.data.toList.drop start := by
  fun_induction ByteArray.toList.loop bytes start done with
  | case1 start done inside ih =>
    have bound : start < bytes.data.toList.length := inside
    have next : bytes.get! start = bytes.data.toList[start] :=
      (getElem!_pos bytes.data start inside).trans (Array.getElem_toList inside).symm
    rw [ih, List.drop_eq_getElem_cons bound, next, List.reverse_cons, List.append_assoc,
      List.singleton_append]
  | case2 start done outside =>
    rw [List.drop_eq_nil_of_le (Nat.le_of_not_lt outside), List.append_nil]

theorem encode_eq_flatMap (s : String) : encode s = s.toList.flatMap String.utf8EncodeChar := by
  rw [encode, String.toUTF8_eq_toByteArray, ← String.utf8Encode_toList, ByteArray.toList,
    toList_loop, List.utf8Encode, List.toList_data_toByteArray]
  rfl

/-! ## Bytes of a character -/

theorem ofNat_lt_ofNat_iff {m n : Nat} (hm : m < 256) (hn : n < 256) :
    UInt8.ofNat m < UInt8.ofNat n ↔ m < n := by
  rw [UInt8.lt_iff_toNat_lt, UInt8.toNat_ofNat', UInt8.toNat_ofNat', Nat.mod_eq_of_lt hm,
    Nat.mod_eq_of_lt hn]

/-- A smaller first byte decides. -/
theorem cons_lt_cons_of_lt {m n : Nat} (h : m < n) (hn : n < 256) (us vs : List UInt8) :
    UInt8.ofNat m :: us < UInt8.ofNat n :: vs :=
  List.cons_lt_cons_iff.mpr (.inl ((ofNat_lt_ofNat_iff (Nat.lt_trans h hn) hn).mpr h))

/-- Six more bits in a last byte keep the order that the bytes before it have. -/
theorem append_tail_lt (front : Nat → List UInt8) {m n : Nat} (h : m < n)
    (before : m / 64 < n / 64 → ∀ us vs, front (m / 64) ++ us < front (n / 64) ++ vs)
    (us vs : List UInt8) :
    front (m / 64) ++ UInt8.ofNat (m % 64 + 128) :: us <
      front (n / 64) ++ UInt8.ofNat (n % 64 + 128) :: vs := by
  have order : m / 64 < n / 64 ∨ m / 64 = n / 64 ∧ m % 64 < n % 64 := by omega
  rcases order with sooner | ⟨same, later⟩
  · exact before sooner _ _
  · rw [same]
    exact List.append_left_lt (cons_lt_cons_of_lt (by omega) (by omega) us vs)

theorem two_bytes_lt {m n : Nat} (h : m < n) (hn : n ≤ 2047) (us vs : List UInt8) :
    UInt8.ofNat (m / 64 % 32 + 192) :: UInt8.ofNat (m % 64 + 128) :: us <
      UInt8.ofNat (n / 64 % 32 + 192) :: UInt8.ofNat (n % 64 + 128) :: vs :=
  append_tail_lt (fun k => [UInt8.ofNat (k % 32 + 192)]) h
    (fun lt us vs => cons_lt_cons_of_lt (by omega) (by omega) us vs) us vs

theorem three_bytes_lt {m n : Nat} (h : m < n) (hn : n ≤ 65535) (us vs : List UInt8) :
    UInt8.ofNat (m / 4096 % 16 + 224) :: UInt8.ofNat (m / 64 % 64 + 128) ::
        UInt8.ofNat (m % 64 + 128) :: us <
      UInt8.ofNat (n / 4096 % 16 + 224) :: UInt8.ofNat (n / 64 % 64 + 128) ::
        UInt8.ofNat (n % 64 + 128) :: vs := by
  rw [← Nat.div_div_eq_div_mul m 64 64, ← Nat.div_div_eq_div_mul n 64 64]
  refine append_tail_lt
    (fun k => [UInt8.ofNat (k / 64 % 16 + 224), UInt8.ofNat (k % 64 + 128)]) h ?_ us vs
  intro lt us vs
  exact append_tail_lt (fun k => [UInt8.ofNat (k % 16 + 224)]) lt
    (fun lt us vs => cons_lt_cons_of_lt (by omega) (by omega) us vs) us vs

theorem four_bytes_lt {m n : Nat} (h : m < n) (hn : n < 2097152) (us vs : List UInt8) :
    UInt8.ofNat (m / 262144 % 8 + 240) :: UInt8.ofNat (m / 4096 % 64 + 128) ::
        UInt8.ofNat (m / 64 % 64 + 128) :: UInt8.ofNat (m % 64 + 128) :: us <
      UInt8.ofNat (n / 262144 % 8 + 240) :: UInt8.ofNat (n / 4096 % 64 + 128) ::
        UInt8.ofNat (n / 64 % 64 + 128) :: UInt8.ofNat (n % 64 + 128) :: vs := by
  rw [← Nat.div_div_eq_div_mul m 64 64, ← Nat.div_div_eq_div_mul n 64 64,
    ← Nat.div_div_eq_div_mul m 64 4096, ← Nat.div_div_eq_div_mul n 64 4096]
  refine append_tail_lt (fun k => [UInt8.ofNat (k / 4096 % 8 + 240),
    UInt8.ofNat (k / 64 % 64 + 128), UInt8.ofNat (k % 64 + 128)]) h ?_ us vs
  intro lt us vs
  rw [← Nat.div_div_eq_div_mul _ 64 64, ← Nat.div_div_eq_div_mul _ 64 64]
  refine append_tail_lt
    (fun k => [UInt8.ofNat (k / 64 % 8 + 240), UInt8.ofNat (k % 64 + 128)]) lt ?_ us vs
  intro lt us vs
  exact append_tail_lt (fun k => [UInt8.ofNat (k % 8 + 240)]) lt
    (fun lt us vs => cons_lt_cons_of_lt (by omega) (by omega) us vs) us vs

theorem utf8EncodeChar_append_lt {c d : Char} (h : c < d) (us vs : List UInt8) :
    String.utf8EncodeChar c ++ us < String.utf8EncodeChar d ++ vs := by
  have lt : c.val.toNat < d.val.toNat := h
  have top : d.val.toNat < 1114112 := by
    have valid := d.valid
    rw [UInt32.isValidChar, Nat.isValidChar] at valid
    omega
  unfold String.utf8EncodeChar
  generalize c.val.toNat = m at lt
  generalize d.val.toNat = n at lt top
  dsimp only
  -- a code of more bytes begins with a larger byte
  repeat' split
  all_goals
    first
    | omega
    | exact cons_lt_cons_of_lt (by omega) (by omega) _ _
    | exact two_bytes_lt lt ‹_› us vs
    | exact three_bytes_lt lt ‹_› us vs
    | exact four_bytes_lt lt (by omega) us vs

/-! ## Main result -/

theorem flatMap_utf8EncodeChar_lt {cs ds : List Char} (h : cs < ds) :
    cs.flatMap String.utf8EncodeChar < ds.flatMap String.utf8EncodeChar := by
  induction cs generalizing ds with
  | nil =>
    cases ds with
    | nil => exact absurd h (List.lt_irrefl [])
    | cons d ds =>
      obtain ⟨b, bytes, code⟩ := List.exists_cons_of_ne_nil (String.utf8EncodeChar_ne_nil (c := d))
      rw [List.flatMap_nil, List.flatMap_cons, code]
      exact List.nil_lt_cons b _
  | cons c cs ih =>
    cases ds with
    | nil => exact absurd h (List.not_lt_nil _)
    | cons d ds =>
      rw [List.flatMap_cons, List.flatMap_cons]
      rcases List.cons_lt_cons_iff.mp h with sooner | ⟨rfl, later⟩
      · exact utf8EncodeChar_append_lt sooner _ _
      · exact List.append_left_lt (ih later)

theorem encode_lt_encode {s t : String} (h : s < t) : encode s < encode t := by
  rw [encode_eq_flatMap, encode_eq_flatMap]
  exact flatMap_utf8EncodeChar_lt h

end Sortie.Text.Utf8
