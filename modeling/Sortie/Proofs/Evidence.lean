import Mathlib.Data.List.Basic
import Sortie.Occupancy
/-!
# Evidence is lossless

An occupancy is told to the judge in words, one sentence for each region. Whatever the
regions are called, the words can be read only in one way once the names are known: the
first letter after the opening says which kind of sentence it is, the name has a known
length, and the steps are numbers that each end at a comma or a bracket. So the sentences
determine the rows (`evidence_eq_iff`).
-/

namespace Sortie

/-! ## Numbers in a text -/

theorem Decimal.digits_injective {m n : Nat} (h : Decimal.digits m = Decimal.digits n) : m = n := by
  have same : Nat.toDigits 10 m = Nat.toDigits 10 n := String.ofList_injective h
  calc
    m = Nat.ofDigitChars 10 (Nat.toDigits 10 m) 0 := Nat.ofDigitChars_ten_toDigits.symm
    _ = Nat.ofDigitChars 10 (Nat.toDigits 10 n) 0 := by rw [same]
    _ = n := Nat.ofDigitChars_ten_toDigits

/-- Characters of one class, followed by one that is not in it, end
where that one stands. -/
theorem append_cons_inj {α : Type} {p : α → Bool} {xs ys us vs : List α} {a b : α}
    (hxs : ∀ x ∈ xs, p x = true) (hys : ∀ y ∈ ys, p y = true) (ha : p a = false) (hb : p b = false)
    (h : xs ++ a :: us = ys ++ b :: vs) : xs = ys ∧ a :: us = b :: vs := by
  have hx : (xs ++ a :: us).takeWhile p = xs := by
    rw [List.takeWhile_append_of_pos hxs, List.takeWhile_cons_of_neg (by simp [ha]),
      List.append_nil]
  have hy : (ys ++ b :: vs).takeWhile p = ys := by
    rw [List.takeWhile_append_of_pos hys, List.takeWhile_cons_of_neg (by simp [hb]),
      List.append_nil]
  have same : xs = ys := by rw [← hx, h, hy]
  subst same
  exact ⟨rfl, List.append_cancel_left h⟩

theorem isDigit_of_mem_digits {n : Nat} {c : Char} (h : c ∈ (Decimal.digits n).toList) :
    c.isDigit = true := by
  rw [Decimal.digits, String.toList_ofList] at h
  exact Nat.isDigit_of_mem_toDigits (by decide) (by decide) h

/-- A number ends where something else than a digit stands. -/
theorem Decimal.digits_append_inj {m n : Nat} {us vs : List Char} {a b : Char}
    (ha : a.isDigit = false) (hb : b.isDigit = false)
    (h : (Decimal.digits m).toList ++ a :: us = (Decimal.digits n).toList ++ b :: vs) :
    m = n ∧ a :: us = b :: vs := by
  obtain ⟨same, rest⟩ := append_cons_inj (fun _ => isDigit_of_mem_digits)
    (fun _ => isDigit_of_mem_digits) ha hb h
  exact ⟨Decimal.digits_injective (String.toList_injective same), rest⟩

namespace Occupancy

/-! ## Steps in a text -/

/-- Steps as they stand in a sentence, up to the bracket. -/
def stepsText (steps : List Nat) : List Char :=
  [',', ' '].intercalate (steps.map fun step => (Decimal.digits step).toList)

theorem stepsText_singleton (step : Nat) : stepsText [step] = (Decimal.digits step).toList := by
  simp [stepsText]

theorem stepsText_cons_cons (step next : Nat) (rest : List Nat) :
    stepsText (step :: next :: rest) =
      (Decimal.digits step).toList ++ ',' :: ' ' :: stepsText (next :: rest) := by
  simp [stepsText]

/-- A list of steps that ends at a bracket can be read in one way only. -/
theorem stepsText_append_inj {steps steps' : List Nat} {us vs : List Char}
    (nonempty : steps ≠ []) (nonempty' : steps' ≠ [])
    (h : stepsText steps ++ ']' :: us = stepsText steps' ++ ']' :: vs) :
    steps = steps' ∧ us = vs := by
  induction steps generalizing steps' with
  | nil => exact (nonempty rfl).elim
  | cons step rest ih =>
    obtain ⟨step', rest', rfl⟩ := List.exists_cons_of_ne_nil nonempty'
    rcases rest with _ | ⟨next, rest⟩ <;> rcases rest' with _ | ⟨next', rest'⟩ <;>
      simp only [stepsText_singleton, stepsText_cons_cons, List.append_assoc, List.cons_append] at h
    · obtain ⟨rfl, tail⟩ := Decimal.digits_append_inj rfl rfl h
      exact ⟨rfl, (List.cons.inj tail).2⟩
    · obtain ⟨-, tail⟩ := Decimal.digits_append_inj rfl rfl h
      cases tail
    · obtain ⟨-, tail⟩ := Decimal.digits_append_inj rfl rfl h
      cases tail
    · obtain ⟨rfl, tail⟩ := Decimal.digits_append_inj rfl rfl h
      simp only [List.cons.injEq, true_and] at tail
      obtain ⟨same, tail⟩ := ih (by simp) (by simp) tail
      exact ⟨by rw [same], tail⟩

/-! ## Steps of a row -/

theorem le_of_mem_stepsInside {start step : Nat} {row : List Bool}
    (h : step ∈ stepsInside start row) : start ≤ step := by
  induction row generalizing start with
  | nil => cases h
  | cons inside rest ih =>
    cases inside with
    | true =>
      rcases List.mem_cons.mp h with rfl | h
      · exact Nat.le_refl _
      · exact Nat.le_of_succ_le (ih h)
    | false => exact Nat.le_of_succ_le (ih h)

theorem length_stepsInside (start : Nat) (row : List Bool) :
    (stepsInside start row).length = row.count true := by
  induction row generalizing start with
  | nil => rfl
  | cons inside rest ih => cases inside <;> simp [stepsInside, ih]

/-- Rows of one length that hold the vehicle at the same steps are the same. -/
theorem stepsInside_inj {start : Nat} {row row' : List Bool} (length : row.length = row'.length)
    (h : stepsInside start row = stepsInside start row') : row = row' := by
  induction row generalizing start row' with
  | nil => exact (List.eq_nil_of_length_eq_zero length.symm).symm
  | cons inside rest ih =>
    obtain _ | ⟨inside', rest'⟩ := row'
    · cases length
    · have shorter : rest.length = rest'.length := Nat.succ.inj length
      -- the first step stands in one of the lists only, if it is in one of the rows only
      have later : ∀ row, start ∉ stepsInside (start + 1) row := fun row member =>
        absurd (le_of_mem_stepsInside member) (by omega)
      cases inside <;> cases inside' <;> simp only [stepsInside] at h
      · rw [ih shorter h]
      · exact (later rest (h ▸ List.mem_cons_self)).elim
      · exact (later rest' (h ▸ List.mem_cons_self)).elim
      · rw [ih shorter (List.cons.inj h).2]

/-! ## Sentences -/

/-- The three kinds of sentences, letter by letter. -/
theorem sentence_cases (name : String) (row : List Bool) :
    (stepsInside 0 row = [] ∧ (sentence name row).toList =
      "The drone is never inside the ".toList ++ (name.toList ++ ".\n".toList)) ∨
    (row.count true = row.length ∧ (sentence name row).toList =
      "The drone is always inside the ".toList ++ (name.toList ++ ".\n".toList)) ∨
    (stepsInside 0 row ≠ [] ∧ (sentence name row).toList =
      "The drone is inside the ".toList ++ (name.toList ++ (" at times [".toList ++
        (stepsText (stepsInside 0 row) ++ ']' :: ".\n".toList)))) := by
  unfold sentence
  simp only [List.isEmpty_iff, length_stepsInside]
  split
  · exact .inl ⟨‹_›, by simp⟩
  · split
    · exact .inr (.inl ⟨‹_›, by simp⟩)
    · exact .inr (.inr ⟨‹_›, by simp [stepsText, String.toList_intercalate, Function.comp_def]⟩)

/-- A row that holds the vehicle at every step. -/
theorem eq_replicate_of_count {row : List Bool} (h : row.count true = row.length) :
    row = List.replicate row.length true :=
  List.eq_replicate_of_mem fun b member => (List.count_eq_length.mp h b member).symm

/-- A sentence about a region can be read in one way only, whatever follows it. -/
theorem sentence_append_inj {name : String} {row row' : List Bool} {us vs : List Char}
    (length : row.length = row'.length)
    (h : (sentence name row).toList ++ us = (sentence name row').toList ++ vs) :
    row = row' ∧ us = vs := by
  -- two kinds of sentences differ in the first letter after the opening
  rcases sentence_cases name row with ⟨kind, text⟩ | ⟨kind, text⟩ | ⟨kind, text⟩ <;>
    rcases sentence_cases name row' with ⟨kind', text'⟩ | ⟨kind', text'⟩ | ⟨kind', text'⟩ <;>
    rw [text, text'] at h
  case inl.inl =>
    exact ⟨stepsInside_inj length (kind.trans kind'.symm), List.append_cancel_left h⟩
  case inr.inl.inr.inl =>
    refine ⟨?_, List.append_cancel_left h⟩
    rw [eq_replicate_of_count kind, eq_replicate_of_count kind', length]
  case inr.inr.inr.inr =>
    simp only [List.append_assoc, List.cons_append] at h
    have list := List.append_cancel_left (List.append_cancel_left (List.append_cancel_left h))
    obtain ⟨same, rest⟩ := stepsText_append_inj kind kind' list
    exact ⟨stepsInside_inj length same, List.append_cancel_left rest⟩
  all_goals simp at h

/-! ## Main result -/

theorem length_of_mem_rows {o : Occupancy} {r : String × List Bool} (h : r ∈ o.rows) :
    r.2.length = o.steps := by
  unfold steps
  split
  · rename_i empty
    rw [empty] at h
    cases h
  · rename_i first rest rows
    exact o.aligned r h first (by simp [rows])

/-- Sentences about the same regions, one after the other. -/
theorem rows_of_sentences {steps : Nat} {rows rows' : List (String × List Bool)}
    (names : rows.map Prod.fst = rows'.map Prod.fst) (length : ∀ r ∈ rows, r.2.length = steps)
    (length' : ∀ r ∈ rows', r.2.length = steps)
    (h : (rows.flatMap fun r => (sentence r.1 r.2).toList) =
      rows'.flatMap fun r => (sentence r.1 r.2).toList) : rows = rows' := by
  induction rows generalizing rows' with
  | nil => exact (List.map_eq_nil_iff.mp names.symm).symm
  | cons r rest ih =>
    obtain _ | ⟨r', rest'⟩ := rows'
    · cases names
    · obtain ⟨name, row⟩ := r
      obtain ⟨name', row'⟩ := r'
      rw [List.forall_mem_cons] at length length'
      obtain ⟨rfl, others⟩ := List.cons.inj names
      rw [List.flatMap_cons, List.flatMap_cons] at h
      obtain ⟨rfl, later⟩ := sentence_append_inj (length.1.trans length'.1.symm) h
      rw [ih others length.2 length'.2 later]

theorem toList_evidence (o : Occupancy) :
    o.evidence.toList = o.rows.flatMap fun r => (sentence r.1 r.2).toList := by
  rw [evidence, String.toList_join, List.flatMap_map]

/-- Whatever the regions are called, and whether or not a name stands more than once: among
occupancies with these names and this number of steps, the evidence tells each cell. -/
theorem evidence_eq_iff {o o' : Occupancy} (names : o.regionNames = o'.regionNames)
    (steps : o.steps = o'.steps) : o.evidence = o'.evidence ↔ o.rows = o'.rows := by
  constructor
  · intro same
    refine rows_of_sentences names (fun r => length_of_mem_rows)
      (fun r member => (length_of_mem_rows member).trans steps.symm) ?_
    rw [← toList_evidence, ← toList_evidence, same]
  · intro same
    rw [evidence, evidence, same]

/-- A name that looks like the end of one sentence and the beginning of
another misleads nobody. -/
theorem misleading_names_are_told_apart :
    ∃ o o' : Occupancy,
      o.rows = [("key.\nThe drone is never inside the gate", [false, true]),
        ("gate", [true, false])] ∧
      o'.rows = [("key.\nThe drone is never inside the gate", [false, false]),
        ("gate", [true, true])] ∧
      o.regionNames = o'.regionNames ∧ o.steps = o'.steps ∧
      (o.evidence = o'.evidence ↔ o.rows = o'.rows) ∧ o.evidence ≠ o'.evidence := by
  let o : Occupancy :=
    ⟨[("key.\nThe drone is never inside the gate", [false, true]),
      ("gate", [true, false])], by decide⟩
  let o' : Occupancy :=
    ⟨[("key.\nThe drone is never inside the gate", [false, false]),
      ("gate", [true, true])], by decide⟩
  have names : o.regionNames = o'.regionNames := rfl
  have steps : o.steps = o'.steps := rfl
  have told := evidence_eq_iff names steps
  exact ⟨o, o', rfl, rfl, names, steps, told, told.not.mpr (by decide)⟩

end Occupancy
end Sortie
