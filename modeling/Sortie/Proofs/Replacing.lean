import Mathlib.Data.List.Infix
import Sortie.Text.Search
/-!
# Replacing words

`replaceAll` skips through a text with a counter. Here it is told by what it meets: a
word that stands next is replaced, any other character is kept. A text that is put
together from pieces can be replaced piece by piece, unless a word straddles a border
between them (`replaceAll_flatten`).
-/

namespace Sortie.Text

/-! ## One step -/

variable {word new : List Char}

theorem replaceFrom_length (skipped rest : List Char) :
    replaceFrom word new skipped.length (skipped ++ rest) = replaceAll word new rest := by
  induction skipped with
  | nil => rfl
  | cons c skipped ih => exact ih

/-- A word that stands next is replaced. -/
theorem replaceAll_word_append (nonempty : word ≠ []) (rest : List Char) :
    replaceAll word new (word ++ rest) = new ++ replaceAll word new rest := by
  obtain ⟨c, tail, rfl⟩ := List.exists_cons_of_ne_nil nonempty
  have next : (c :: tail).isPrefixOf (c :: (tail ++ rest)) = true :=
    List.isPrefixOf_iff_prefix.mpr (List.prefix_append (c :: tail) rest)
  show replaceFrom (c :: tail) new 0 (c :: (tail ++ rest)) = _
  rw [replaceFrom, if_pos next]
  exact congrArg _ (replaceFrom_length tail rest)

/-- A character is kept where the word does not stand next. -/
theorem replaceAll_cons {c : Char} {rest : List Char} (other : ¬ word <+: c :: rest) :
    replaceAll word new (c :: rest) = c :: replaceAll word new rest := by
  have next : ¬ word.isPrefixOf (c :: rest) = true := mt List.isPrefixOf_iff_prefix.mp other
  show replaceFrom word new 0 (c :: rest) = _
  rw [replaceFrom, if_neg next]
  rfl

/-- What is met in a text: the word, or a character where the word does not stand. -/
@[elab_as_elim]
theorem replacing_induction {P : List Char → Prop} (nonempty : word ≠ []) (nil : P [])
    (found : ∀ rest, P rest → P (word ++ rest))
    (kept : ∀ c rest, ¬ word <+: c :: rest → P rest → P (c :: rest)) (text : List Char) :
    P text := by
  induction size : text.length using Nat.strongRecOn generalizing text with
  | ind n ih =>
    rcases text with _ | ⟨c, rest⟩
    · exact nil
    · by_cases next : word <+: c :: rest
      · obtain ⟨behind, same⟩ := next
        have shorter : behind.length < n := by
          have lengths := congrArg List.length same
          have some := List.length_pos_of_ne_nil nonempty
          rw [List.length_append] at lengths
          omega
        rw [← same]
        exact found behind (ih behind.length shorter behind rfl)
      · exact kept c rest next (ih rest.length (size ▸ Nat.lt_succ_self _) rest rfl)

theorem occurs_iff {text : List Char} : occurs word text = true ↔ word <:+: text := by
  induction text with
  | nil => simp [occurs]
  | cons c rest ih =>
    rw [occurs, Bool.or_eq_true, ih, List.isPrefixOf_iff_prefix, List.infix_cons_iff]

theorem toList_replace (s word new : String) :
    (replace s word new).toList = replaceAll word.toList new.toList s.toList :=
  String.toList_ofList ..

theorem contains_iff {s word : String} : contains s word = true ↔ word.toList <:+: s.toList :=
  occurs_iff

/-- Where the word does not stand, nothing is replaced. -/
theorem replaceAll_of_not_infix {text : List Char} (absent : ¬ word <:+: text) :
    replaceAll word new text = text := by
  induction text with
  | nil => rfl
  | cons c rest ih =>
    rw [List.infix_cons_iff, not_or] at absent
    rw [replaceAll_cons absent.1, ih absent.2]

/-! ## Borders -/

/-- The word begins in the one text and ends in the other, which follows it. -/
def Straddles (word left right : List Char) : Prop :=
  ∃ front back, word = front ++ back ∧ front ≠ [] ∧ back ≠ [] ∧ front <:+ left ∧ back <+: right

section Straddles

variable {left right : List Char} {c : Char}

/-- No word goes on over a border from a text that is empty. -/
theorem not_straddles_nil : ¬ Straddles word [] right := by
  rintro ⟨front, back, -, begun, -, ends, -⟩
  exact begun (List.suffix_nil.mp ends)

/-- A word straddles no border before which a character stands that is not in it. -/
theorem not_straddles_concat (left : List Char) (foreign : c ∉ word) :
    ¬ Straddles word (left ++ [c]) right := by
  rintro ⟨front, back, rfl, begun, -, ends, -⟩
  obtain ⟨front, last, rfl⟩ := List.eq_nil_or_concat front |>.resolve_left begun
  obtain ⟨before, same⟩ := ends
  rw [List.concat_eq_append, ← List.append_assoc] at same
  obtain rfl : last = c := List.singleton_inj.mp (List.append_inj_right' same rfl)
  exact foreign (by simp)

/-- A word straddles no border behind which a character stands that is not in it. -/
theorem not_straddles_cons (foreign : c ∉ word) : ¬ Straddles word left (c :: right) := by
  rintro ⟨front, back, rfl, -, goesOn, -, begins⟩
  obtain rfl | ⟨back, rfl, -⟩ := List.prefix_cons_iff.mp begins
  · exact goesOn rfl
  · exact foreign (by simp)

/-- A word straddles no border behind a text no end of which begins it. -/
theorem not_straddles_of_tails
    (apart : ∀ tail ∈ left.tails, tail <+: word → tail = [] ∨ tail = word) :
    ¬ Straddles word left right := by
  rintro ⟨front, back, rfl, begun, goesOn, ends, -⟩
  rcases apart front ((List.mem_tails _ _).mpr ends) (List.prefix_append _ _) with none | all
  · exact begun none
  · exact goesOn (List.append_right_eq_self.mp all.symm)

/-- What begins a text put together from two begins the first of them, or
goes on into the second. -/
theorem prefix_append_cases {part : List Char} (h : part <+: left ++ right) :
    part <+: left ∨ ∃ back, back ≠ [] ∧ part = left ++ back ∧ back <+: right := by
  rcases List.prefix_or_prefix_of_prefix h (List.prefix_append left right) with within | ⟨back, rfl⟩
  · exact .inl within
  · by_cases none : back = []
    · exact .inl (by simp [none])
    · exact .inr ⟨back, none, rfl, (List.prefix_append_right_inj left).mp h⟩

/-- If no word straddles the border of two texts, they can be replaced one by one. -/
theorem replaceAll_append (nonempty : word ≠ []) (border : ¬ Straddles word left right) :
    replaceAll word new (left ++ right) =
      replaceAll word new left ++ replaceAll word new right := by
  induction left using replacing_induction nonempty with
  | nil => rfl
  | found rest ih =>
    have later : ¬ Straddles word rest right := by
      rintro ⟨front, back, same, begun, goesOn, ends, begins⟩
      exact border ⟨front, back, same, begun, goesOn, List.suffix_append_of_suffix ends, begins⟩
    rw [List.append_assoc, replaceAll_word_append nonempty, replaceAll_word_append nonempty,
      ih later, List.append_assoc]
  | kept c rest other ih =>
    have later : ¬ Straddles word rest right := by
      rintro ⟨front, back, same, begun, goesOn, ends, begins⟩
      exact border ⟨front, back, same, begun, goesOn, ends.trans (List.suffix_cons c rest), begins⟩
    have next : ¬ word <+: c :: (rest ++ right) := by
      intro next
      have next : word <+: c :: rest ++ right := next
      rcases prefix_append_cases next with within | ⟨back, goesOn, rfl, begins⟩
      · exact other within
      · exact border ⟨_, back, rfl, List.cons_ne_nil _ _, goesOn, List.suffix_rfl, begins⟩
    rw [List.cons_append, replaceAll_cons next, replaceAll_cons other, ih later, List.cons_append]

end Straddles

/-- However these pieces of a text are divided, the word does not straddle the border. -/
def Seamless (word : List Char) (pieces : List (List Char)) : Prop :=
  ∀ front back, pieces = front ++ back → ¬ Straddles word front.flatten back.flatten

theorem Seamless.nil : Seamless word [] := by
  intro front back same
  obtain ⟨rfl, -⟩ := List.append_eq_nil_iff.mp same.symm
  exact not_straddles_nil

theorem seamless_cons {piece : List Char} {pieces : List (List Char)} :
    Seamless word (piece :: pieces) ↔
      ¬ Straddles word piece pieces.flatten ∧ Seamless word pieces := by
  constructor
  · intro h
    refine ⟨?_, fun front back same straddles => h (piece :: front) back (by simp [same]) ?_⟩
    · have first := h [piece] pieces rfl
      rwa [List.flatten_singleton] at first
    · obtain ⟨begun, left, same, nonempty, goesOn, ends, begins⟩ := straddles
      exact ⟨begun, left, same, nonempty, goesOn, List.suffix_append_of_suffix ends, begins⟩
  · rintro ⟨first, later⟩ (_ | ⟨_, front⟩) back same
    · exact not_straddles_nil
    · rintro ⟨begun, left, rfl, nonempty, goesOn, ends, begins⟩
      obtain ⟨rfl, rfl⟩ := List.cons.inj same
      rw [List.flatten_cons] at ends
      -- the word begins behind the first piece or in it
      rcases List.suffix_or_suffix_of_suffix ends (List.suffix_append _ front.flatten) with
        behind | ⟨inside, rfl⟩
      · exact later front back rfl ⟨begun, left, rfl, nonempty, goesOn, behind, begins⟩
      · by_cases none : inside = []
        · subst none
          exact later front back rfl ⟨_, left, rfl, nonempty, goesOn, List.suffix_rfl, begins⟩
        · refine first ⟨inside, front.flatten ++ left, List.append_assoc _ _ _, none, ?_, ?_, ?_⟩
          · simp [goesOn]
          · exact List.suffix_append_self_iff.mp ends
          · show _ <+: (front ++ back).flatten
            rw [List.flatten_append]
            exact (List.prefix_append_right_inj _).mpr begins

/-- A text without straddling words is replaced piece by piece. -/
theorem replaceAll_flatten (nonempty : word ≠ []) {pieces : List (List Char)}
    (seamless : Seamless word pieces) :
    replaceAll word new pieces.flatten = pieces.flatMap (replaceAll word new) := by
  induction pieces with
  | nil => rfl
  | cons piece pieces ih =>
    obtain ⟨first, later⟩ := seamless_cons.mp seamless
    rw [List.flatten_cons, replaceAll_append nonempty first, ih later, List.flatMap_cons]

/-! ## What is left -/

/-- A beginning of a text that holds insertions is a beginning of the text without them, if
it does not hold the character with which they begin. -/
theorem prefix_of_prefix_replaceAll (nonempty : word ≠ []) {c : Char}
    {inserted part text : List Char} (foreign : c ∉ part)
    (next : part <+: replaceAll word (c :: inserted) text) : part <+: text := by
  induction text using replacing_induction nonempty generalizing part with
  | nil => exact next
  | found rest =>
    rw [replaceAll_word_append nonempty, List.cons_append] at next
    obtain rfl | ⟨part, rfl, -⟩ := List.prefix_cons_iff.mp next
    · exact List.nil_prefix
    · exact absurd List.mem_cons_self foreign
  | kept d rest other ih =>
    rw [replaceAll_cons other] at next
    obtain rfl | ⟨tail, rfl, later⟩ := List.prefix_cons_iff.mp next
    · exact List.nil_prefix
    · exact List.cons_prefix_cons.mpr ⟨rfl, ih (mt (List.mem_cons_of_mem d) foreign) later⟩

/-- A word stands behind characters that are not in it. -/
theorem infix_of_infix_append (nonempty : word ≠ []) {front rest : List Char}
    (foreign : ∀ c ∈ front, c ∉ word) (stands : word <:+: front ++ rest) : word <:+: rest := by
  induction front with
  | nil => exact stands
  | cons c front ih =>
    obtain ⟨first, later⟩ := List.forall_mem_cons.mp foreign
    rcases List.infix_cons_iff.mp stands with next | behind
    · obtain rfl | ⟨tail, rfl, -⟩ := List.prefix_cons_iff.mp next
      · exact absurd rfl nonempty
      · exact absurd List.mem_cons_self first
    · exact ih later behind

/-- A word that is replaced by characters that are not in it stands nowhere any more. -/
theorem not_infix_replaceAll (nonempty : word ≠ []) (filled : new ≠ [])
    (foreign : ∀ c ∈ new, c ∉ word) (text : List Char) : ¬ word <:+: replaceAll word new text := by
  induction text using replacing_induction nonempty with
  | nil => exact mt List.infix_nil.mp nonempty
  | found rest ih =>
    rw [replaceAll_word_append nonempty]
    exact fun stands => ih (infix_of_infix_append nonempty foreign stands)
  | kept d rest other ih =>
    rw [replaceAll_cons other, List.infix_cons_iff]
    rintro (next | behind)
    · obtain rfl | ⟨tail, rfl, later⟩ := List.prefix_cons_iff.mp next
      · exact nonempty rfl
      · -- the rest of the word would stand in the text from before
        obtain ⟨c, inserted, rfl⟩ := List.exists_cons_of_ne_nil filled
        have fresh : c ∉ tail := fun member =>
          foreign c List.mem_cons_self (List.mem_cons_of_mem d member)
        have before : tail <+: rest := prefix_of_prefix_replaceAll nonempty fresh later
        exact other (List.cons_prefix_cons.mpr ⟨rfl, before⟩)
    · exact ih behind

end Sortie.Text
