import Sortie.Instructions
import Sortie.Proofs.Evidence
import Sortie.Proofs.Replacing
/-!
# Templates in one pass

A template is filled in by two replacements, and the second one also goes through what the
first one inserted. Here a template is read once, from the left, as letters and
placeholders. No end of a placeholder begins the other one, and what is inserted begins and
ends with characters that are in neither. So the words that are replaced are those that
stood in the template, and those that stand in a name (`Bindings.fill_is_one_pass`).
-/

namespace Sortie

open Text

/-- A word of a template that is to be filled in. -/
inductive Placeholder where
  | objects
  | steps
  deriving DecidableEq

namespace Placeholder

def word : Placeholder → List Char
  | objects => Bindings.objectsWord.toList
  | steps => Bindings.stepsWord.toList

theorem word_ne_nil (p : Placeholder) : p.word ≠ [] := by
  cases p <;> decide

/-- A word straddles no border behind a placeholder. -/
theorem not_straddles (p q : Placeholder) (rest : List Char) : ¬ Straddles p.word q.word rest := by
  apply not_straddles_of_tails
  cases p <;> cases q <;> decide

theorem not_infix_word {p q : Placeholder} (different : p ≠ q) : ¬ p.word <:+: q.word := by
  cases p <;> cases q
  case objects.objects | steps.steps => exact absurd rfl different
  all_goals decide

theorem not_infix_singleton (p : Placeholder) (c : Char) : ¬ p.word <:+: [c] := by
  intro within
  have short := within.length_le
  cases p <;> exact absurd short (by simp [word, Bindings.objectsWord, Bindings.stepsWord])

end Placeholder

/-- A letter of a template, which stands for itself, or a placeholder. -/
inductive TemplatePart where
  | letter (c : Char)
  | placeholder (p : Placeholder)
  deriving DecidableEq

namespace TemplatePart

/-- The parts of a template, in one pass from the left. -/
def ofTemplate : List Char → List TemplatePart
  | 'O' :: 'B' :: 'J' :: 'E' :: 'C' :: 'T' :: 'S' :: rest =>
    placeholder .objects :: ofTemplate rest
  | 'T' :: '_' :: 'M' :: 'A' :: 'X' :: rest => placeholder .steps :: ofTemplate rest
  | c :: rest => letter c :: ofTemplate rest
  | [] => []

/-- A part with these texts in the place of the placeholders. -/
def filled (texts : Placeholder → List Char) : TemplatePart → List Char
  | letter c => [c]
  | placeholder p => texts p

/-- The pieces of a part once these stand in the place of a placeholder. -/
def replaced (p : Placeholder) (pieces : List (List Char)) : TemplatePart → List (List Char)
  | letter c => [[c]]
  | placeholder q => if q = p then pieces else [q.word]

/-! ## The pass -/

theorem ofTemplate_word (p : Placeholder) (rest : List Char) :
    ofTemplate (p.word ++ rest) = placeholder p :: ofTemplate rest := by
  cases p <;> rfl

theorem ofTemplate_letter {c : Char} {rest : List Char}
    (other : ∀ p : Placeholder, ¬ p.word <+: c :: rest) :
    ofTemplate (c :: rest) = letter c :: ofTemplate rest := by
  rw [ofTemplate]
  · rintro behind rfl rfl
    exact other .objects ⟨behind, rfl⟩
  · rintro behind rfl rfl
    exact other .steps ⟨behind, rfl⟩

/-- What is met in a template: a placeholder, or a letter where none stands. -/
@[elab_as_elim]
theorem template_induction {P : List Char → Prop} (nil : P [])
    (placeholder : ∀ (p : Placeholder) rest, P rest → P (p.word ++ rest))
    (letter : ∀ c rest, (∀ p : Placeholder, ¬ p.word <+: c :: rest) → P rest → P (c :: rest))
    (template : List Char) : P template := by
  fun_induction ofTemplate template with
  | case1 rest ih => exact placeholder .objects rest ih
  | case2 rest ih => exact placeholder .steps rest ih
  | case3 c rest objects steps ih =>
    refine letter c rest ?_ ih
    rintro (_ | _) ⟨behind, same⟩
    · obtain ⟨rfl, rfl⟩ := List.cons.inj same
      exact objects behind rfl rfl
    · obtain ⟨rfl, rfl⟩ := List.cons.inj same
      exact steps behind rfl rfl
  | case4 => exact nil

/-- Nothing of a template is lost. -/
theorem flatMap_filled_word (template : List Char) :
    (ofTemplate template).flatMap (filled Placeholder.word) = template := by
  induction template using template_induction with
  | nil => rfl
  | placeholder p rest ih =>
    rw [ofTemplate_word, List.flatMap_cons, ih]
    rfl
  | letter c rest other ih =>
    rw [ofTemplate_letter other, List.flatMap_cons, ih]
    rfl

/-- A placeholder is met wherever it stands. -/
theorem ofTemplate_append_word (before : List Char) (p : Placeholder) (after : List Char) :
    ofTemplate (before ++ (p.word ++ after)) =
      ofTemplate before ++ placeholder p :: ofTemplate after := by
  -- behind its first letter no placeholder can begin another one
  have apart : ∀ q : Placeholder, ∀ tail ∈ q.word.tail.tails,
      tail ≠ [] → ¬ tail <+: p.word ∧ ¬ p.word <+: tail := by
    intro q
    cases p <;> cases q <;> decide
  induction before using template_induction with
  | nil => exact ofTemplate_word p after
  | placeholder q before ih =>
    rw [List.append_assoc, ofTemplate_word, ofTemplate_word, ih, List.cons_append]
  | letter c before other ih =>
    have other' : ∀ q : Placeholder, ¬ q.word <+: c :: (before ++ (p.word ++ after)) := by
      intro q next
      have next : q.word <+: c :: before ++ (p.word ++ after) := next
      rcases prefix_append_cases next with within | ⟨back, goesOn, same, begins⟩
      · exact other q within
      · have ends : back ∈ q.word.tail.tails := by
          rw [List.mem_tails, same]
          exact List.suffix_append before back
        obtain ⟨short, long⟩ := apart q back ends goesOn
        exact (List.prefix_or_prefix_of_prefix begins (List.prefix_append _ _)).elim short long
    rw [List.cons_append, ofTemplate_letter other', ofTemplate_letter other, ih, List.cons_append]

/-! ## Replacing placeholders -/

/-- Replacing one placeholder changes nothing else. -/
theorem replaceAll_template (p : Placeholder) (pieces : List (List Char)) (template : List Char) :
    replaceAll p.word pieces.flatten template =
      ((ofTemplate template).flatMap (replaced p pieces)).flatten := by
  induction template using template_induction with
  | nil => rfl
  | placeholder q rest ih =>
    rw [ofTemplate_word, List.flatMap_cons, List.flatten_append, ← ih]
    by_cases same : q = p
    · subst same
      rw [replaceAll_word_append q.word_ne_nil, replaced, if_pos rfl]
    · rw [replaceAll_append p.word_ne_nil (p.not_straddles q rest),
        replaceAll_of_not_infix (Placeholder.not_infix_word (Ne.symm same)), replaced, if_neg same,
        List.flatten_singleton]
  | letter c rest other ih =>
    rw [ofTemplate_letter other, replaceAll_cons (other p), ih]
    rfl

section Second

variable {p q : Placeholder} {pieces : List (List Char)} {c : Char} {inserted : List Char}

/-- Where the first placeholder was replaced by something that no word straddles, the
second one stands only where it stood before, or within an inserted piece. -/
theorem seamless_template (begins : pieces.flatten = c :: inserted) (foreign : c ∉ q.word)
    (sealed : ∀ more, Seamless q.word more → Seamless q.word (pieces ++ more))
    (template : List Char) :
    Seamless q.word ((ofTemplate template).flatMap (replaced p pieces)) := by
  induction template using template_induction with
  | nil => exact .nil
  | placeholder r rest ih =>
    rw [ofTemplate_word, List.flatMap_cons, replaced]
    split
    · exact sealed _ ih
    · exact seamless_cons.mpr ⟨q.not_straddles r _, ih⟩
  | letter d rest other ih =>
    rw [ofTemplate_letter other, List.flatMap_cons]
    refine seamless_cons.mpr ⟨?_, ih⟩
    rintro ⟨front, back, word, begun, -, ends, follows⟩
    obtain rfl : front = [d] := by
      rcases List.suffix_cons_iff.mp ends with all | none
      · exact all
      · exact absurd (List.suffix_nil.mp none) begun
    have follows : back <+: ((ofTemplate rest).flatMap (replaced p pieces)).flatten := follows
    rw [← replaceAll_template, begins] at follows
    have fresh : c ∉ back := fun member => foreign (word ▸ List.mem_append_right _ member)
    have follows : back <+: rest := prefix_of_prefix_replaceAll p.word_ne_nil fresh follows
    exact other q (word ▸ List.cons_prefix_cons.mpr ⟨rfl, follows⟩)

/-- When the second placeholder is replaced as well, this goes through
what was inserted before. -/
theorem replaceAll_replaceAll_template (begins : pieces.flatten = c :: inserted)
    (foreign : c ∉ q.word)
    (sealed : ∀ more, Seamless q.word more → Seamless q.word (pieces ++ more)) (different : p ≠ q)
    {texts : Placeholder → List Char}
    (through : pieces.flatMap (replaceAll q.word (texts q)) = texts p) (template : List Char) :
    replaceAll q.word (texts q) (replaceAll p.word pieces.flatten template) =
      (ofTemplate template).flatMap (filled texts) := by
  rw [replaceAll_template,
    replaceAll_flatten q.word_ne_nil (seamless_template begins foreign sealed _),
    List.flatMap_assoc]
  refine List.flatMap_congr fun part _ => ?_
  cases part with
  | letter d =>
    rw [replaced, List.flatMap_singleton, replaceAll_of_not_infix (q.not_infix_singleton d)]
    rfl
  | placeholder r =>
    rw [replaced]
    split
    · rename_i same
      rw [same, through]
      rfl
    · rename_i other
      obtain rfl : r = q := by
        cases p <;> cases q <;> cases r <;> first | rfl | contradiction
      have replaces : replaceAll r.word (texts r) (r.word ++ []) = texts r ++ [] :=
        replaceAll_word_append r.word_ne_nil []
      rw [List.append_nil] at replaces
      rw [List.flatMap_singleton, replaces]
      exact List.append_nil _

end Second

end TemplatePart

/-! ## Lists of names -/

namespace Bindings

open TemplatePart (ofTemplate filled replaced)

/-- The pieces of a list behind the first name. -/
def listedBehind : List String → List (List Char)
  | [] => [['\'', ']']]
  | name :: rest => ['\'', ',', ' ', '\''] :: name.toList :: listedBehind rest

/-- A list of names, cut around each name. -/
def listed : List String → List (List Char)
  | [] => [['[', ']']]
  | name :: rest => ['[', '\''] :: name.toList :: listedBehind rest

theorem flatten_listedBehind (name : String) (rest : List String) :
    '\'' :: (name.toList ++ (listedBehind rest).flatten) =
      [',', ' '].intercalate ((name :: rest).map fun n => '\'' :: (n.toList ++ ['\''])) ++
        [']'] := by
  induction rest generalizing name with
  | nil => simp [listedBehind]
  | cons next rest ih =>
    have behind := ih next
    rw [List.map_cons] at behind
    rw [List.map_cons, List.map_cons, List.intercalate_cons_cons, List.append_assoc, ← behind]
    simp [listedBehind]

theorem flatten_listed (b : Bindings) : (listed b.objects).flatten = b.objectsText.toList := by
  have quoted (name : String) :
      ("'" ++ name ++ "'").toList = '\'' :: (name.toList ++ ['\'']) := by simp
  simp only [objectsText, String.toList_append, String.toList_intercalate, List.map_map,
    Function.comp_def, quoted]
  cases b.objects with
  | nil => rfl
  | cons name rest =>
    show '[' :: '\'' :: (name.toList ++ (listedBehind rest).flatten) = _
    rw [flatten_listedBehind]
    rfl

theorem mem_listedBehind {name : String} {rest : List String} (h : name ∈ rest) :
    name.toList ∈ listedBehind rest := by
  induction rest with
  | nil => cases h
  | cons next rest ih =>
    refine List.mem_cons_of_mem _ ?_
    rcases List.mem_cons.mp h with rfl | later
    · exact List.mem_cons_self
    · exact List.mem_cons_of_mem _ (ih later)

theorem mem_listed {name : String} {names : List String} (h : name ∈ names) :
    name.toList ∈ listed names := by
  cases names with
  | nil => cases h
  | cons first rest =>
    refine List.mem_cons_of_mem _ ?_
    rcases List.mem_cons.mp h with rfl | later
    · exact List.mem_cons_self
    · exact List.mem_cons_of_mem _ (mem_listedBehind later)

/-- No word straddles a border around a name. -/
theorem seamless_listedBehind (rest : List String) {more : List (List Char)}
    (sealed : Seamless Placeholder.steps.word more) :
    Seamless Placeholder.steps.word (listedBehind rest ++ more) := by
  induction rest with
  | nil => exact seamless_cons.mpr ⟨not_straddles_concat ['\''] (by decide), sealed⟩
  | cons name rest ih =>
    obtain ⟨tail, begins⟩ : ∃ tail, (listedBehind rest ++ more).flatten = '\'' :: tail := by
      cases rest <;> exact ⟨_, rfl⟩
    have behind : ¬ Straddles Placeholder.steps.word name.toList
        (listedBehind rest ++ more).flatten := by
      rw [begins]
      exact not_straddles_cons (by decide)
    exact seamless_cons.mpr ⟨not_straddles_concat ['\'', ',', ' '] (by decide),
      seamless_cons.mpr ⟨behind, ih⟩⟩

theorem seamless_listed (names : List String) {more : List (List Char)}
    (sealed : Seamless Placeholder.steps.word more) :
    Seamless Placeholder.steps.word (listed names ++ more) := by
  cases names with
  | nil => exact seamless_cons.mpr ⟨not_straddles_concat ['['] (by decide), sealed⟩
  | cons name rest =>
    -- what follows the first name follows any other one as well
    have behind := seamless_listedBehind (name :: rest) sealed
    exact seamless_cons.mpr ⟨not_straddles_concat ['['] (by decide),
      (seamless_cons.mp behind).2⟩

/-- The bindings with the number of steps in each name as well. -/
def renamed (b : Bindings) : Bindings :=
  { b with objects := b.objects.map fun name => replace name stepsWord (Decimal.digits b.steps) }

theorem map_replaceAll_listedBehind (number : String) (rest : List String) :
    (listedBehind rest).map (replaceAll Placeholder.steps.word number.toList) =
      listedBehind (rest.map fun name => replace name stepsWord number) := by
  induction rest with
  | nil => rfl
  | cons name rest ih =>
    have inside : replaceAll Placeholder.steps.word number.toList name.toList =
      (replace name stepsWord number).toList := (toList_replace ..).symm
    rw [listedBehind, List.map_cons, List.map_cons, ih, inside]
    rfl

theorem map_replaceAll_listed (b : Bindings) :
    (listed b.objects).map (replaceAll Placeholder.steps.word (Decimal.digits b.steps).toList) =
      listed b.renamed.objects := by
  show _ = listed (b.objects.map _)
  cases b.objects with
  | nil => rfl
  | cons name rest =>
    have behind := map_replaceAll_listedBehind (Decimal.digits b.steps) (name :: rest)
    exact congrArg (['[', '\''] :: ·) (List.cons.inj behind).2

/-! ## Main result -/

/-- What stands in the place of a placeholder. -/
def text (b : Bindings) : Placeholder → List Char
  | .objects => b.objectsText.toList
  | .steps => (Decimal.digits b.steps).toList

theorem not_mem_word_of_isDigit {c : Char} (digit : c.isDigit = true) (p : Placeholder) :
    c ∉ p.word := by
  have letters : p.word.all (!·.isDigit) = true := by cases p <;> decide
  intro member
  have letter := List.all_eq_true.mp letters c member
  rw [digit] at letter
  cases letter

theorem text_steps_ne_nil (b : Bindings) : b.text .steps ≠ [] := by
  show (Decimal.digits b.steps).toList ≠ []
  rw [Decimal.digits, String.toList_ofList]
  exact Nat.toDigits_ne_nil

/-- No placeholder holds a digit. -/
theorem not_mem_word_of_mem_steps {b : Bindings} {c : Char} (h : c ∈ b.text .steps)
    (p : Placeholder) : c ∉ p.word :=
  not_mem_word_of_isDigit (isDigit_of_mem_digits h) p

theorem text_renamed_steps (b : Bindings) : b.renamed.text .steps = b.text .steps := rfl

theorem toList_fill (b : Bindings) (template : String) :
    (b.fill template).toList = replaceAll Placeholder.steps.word (b.text .steps)
      (replaceAll Placeholder.objects.word (b.text .objects) template.toList) := by
  rw [fill, toList_replace, toList_replace]
  rfl

theorem exists_flatten_listed (b : Bindings) :
    ∃ inserted, (listed b.objects).flatten = '[' :: inserted := by
  cases b.objects <;> exact ⟨_, rfl⟩

/-- The word for the steps straddles no border of the text after the first replacement. -/
theorem seamless_pieces (b : Bindings) (template : List Char) :
    Seamless Placeholder.steps.word
      ((ofTemplate template).flatMap (replaced .objects (listed b.objects))) := by
  obtain ⟨inserted, begins⟩ := b.exists_flatten_listed
  exact TemplatePart.seamless_template begins (by decide) (fun _ => seamless_listed b.objects)
    template

theorem toList_fill_eq (b : Bindings) (template : String) :
    (b.fill template).toList =
      (ofTemplate template.toList).flatMap (filled b.renamed.text) := by
  obtain ⟨inserted, begins⟩ := b.exists_flatten_listed
  have through : (listed b.objects).flatMap
      (replaceAll Placeholder.steps.word (b.renamed.text .steps)) = b.renamed.text .objects := by
    rw [List.flatMap_def, text_renamed_steps]
    exact (congrArg _ b.map_replaceAll_listed).trans b.renamed.flatten_listed
  rw [toList_fill, text, ← flatten_listed]
  exact TemplatePart.replaceAll_replaceAll_template begins (by decide)
    (fun _ => seamless_listed b.objects) (by decide) through template.toList

theorem renamed_of_free {b : Bindings}
    (free : ∀ name ∈ b.objects, contains name stepsWord = false) : b.renamed = b := by
  have same : b.objects.map (fun name => replace name stepsWord (Decimal.digits b.steps)) =
      b.objects := by
    refine (List.map_congr_left fun name member => ?_).trans (List.map_id b.objects)
    have absent : ¬ stepsWord.toList <:+: name.toList := by
      rw [← contains_iff, free name member]
      exact Bool.false_ne_true
    apply String.toList_injective
    rw [toList_replace, replaceAll_of_not_infix absent]
    rfl
  unfold renamed
  rw [same]

/-- If the steps are filled in first, nothing that was inserted is replaced. -/
theorem toList_replace_replace (b : Bindings) (template : String) :
    (replace (replace template stepsWord (Decimal.digits b.steps)) objectsWord
        b.objectsText).toList =
      (ofTemplate template.toList).flatMap (filled b.text) := by
  obtain ⟨c, inserted, number⟩ := List.exists_cons_of_ne_nil b.text_steps_ne_nil
  obtain ⟨front, last, ends⟩ := List.eq_nil_or_concat (b.text .steps) |>.resolve_left
    b.text_steps_ne_nil
  have first : c ∈ b.text .steps := number ▸ List.mem_cons_self
  have final : last ∈ b.text .steps := by simp [ends]
  have sealed : ∀ more, Seamless Placeholder.objects.word more →
      Seamless Placeholder.objects.word ([b.text .steps] ++ more) := by
    intro more sealed
    refine seamless_cons.mpr ⟨?_, sealed⟩
    rw [ends, List.concat_eq_append]
    exact not_straddles_concat _ (not_mem_word_of_mem_steps final .objects)
  have absent : ¬ Placeholder.objects.word <:+: b.text .steps := by
    intro within
    have letter : 'O' ∈ b.text .steps := within.subset (by decide)
    exact not_mem_word_of_mem_steps letter .objects (by decide)
  have through : [b.text .steps].flatMap
      (replaceAll Placeholder.objects.word (b.text .objects)) = b.text .steps := by
    rw [List.flatMap_singleton, replaceAll_of_not_infix absent]
  have begins : [b.text .steps].flatten = c :: inserted := by
    rw [List.flatten_singleton, number]
  have filled := TemplatePart.replaceAll_replaceAll_template begins
    (not_mem_word_of_mem_steps first .objects) sealed (by decide) through template.toList
  rw [List.flatten_singleton] at filled
  rw [toList_replace, toList_replace]
  exact filled

/-- Where the names are to be listed, each of them is. -/
theorem infix_filled_of_mem {b : Bindings} {template : String}
    (lists : contains template objectsWord = true) {name : String} (h : name ∈ b.objects) :
    name.toList <:+: (ofTemplate template.toList).flatMap (filled b.text) := by
  obtain ⟨before, after, same⟩ := contains_iff.mp lists
  have parts : ofTemplate template.toList =
      ofTemplate before ++ .placeholder .objects :: ofTemplate after := by
    rw [← same, List.append_assoc]
    exact TemplatePart.ofTemplate_append_word before .objects after
  have listing : b.objectsText.toList ∈ (ofTemplate template.toList).map (filled b.text) :=
    List.mem_map.mpr ⟨.placeholder .objects, by simp [parts], rfl⟩
  have listed : name.toList <:+: b.objectsText.toList := by
    rw [← flatten_listed]
    exact List.infix_of_mem_flatten (mem_listed h)
  exact listed.trans (List.infix_of_mem_flatten listing)

/-- Filling a template in is one pass over it. The pass loses nothing and meets a
placeholder wherever one stands. The steps are also written where their word stands in the
name of a region; else every character is kept. For the text after the first replacement
is put together from pieces, letters, placeholders and names, and the word of the second
one straddles no border between them. It stands nowhere in the end. If it stands in no
name, each placeholder has its own text, in whatever order they are replaced, and all
names are there as they are. -/
theorem fill_is_one_pass (b : Bindings) (template : String) :
    let pass := ofTemplate template.toList
    let pieces := pass.flatMap (replaced .objects (listed b.objects))
    pass.flatMap (filled Placeholder.word) = template.toList ∧
    (∀ before p after, template.toList = before ++ (p.word ++ after) →
      pass = ofTemplate before ++ .placeholder p :: ofTemplate after) ∧
    b.fill template = .ofList (pass.flatMap (filled b.renamed.text)) ∧
    (replace template objectsWord b.objectsText).toList = pieces.flatten ∧
    Seamless stepsWord.toList pieces ∧
    contains (b.fill template) stepsWord = false ∧
    ((∀ name ∈ b.objects, contains name stepsWord = false) →
      b.fill template = .ofList (pass.flatMap (filled b.text)) ∧
      b.fill template =
        replace (replace template stepsWord (Decimal.digits b.steps)) objectsWord b.objectsText ∧
      (contains template objectsWord = true →
        ∀ name ∈ b.objects, contains (b.fill template) name = true)) := by
  intro pass pieces
  refine ⟨TemplatePart.flatMap_filled_word _, ?_, ?_, ?_, ?_, ?_, fun free => ⟨?_, ?_, ?_⟩⟩
  · intro before p after stands
    show ofTemplate template.toList = _
    rw [stands, TemplatePart.ofTemplate_append_word]
  · rw [← toList_fill_eq, String.ofList_toList]
  · rw [toList_replace, ← flatten_listed]
    exact TemplatePart.replaceAll_template .objects (listed b.objects) template.toList
  · exact b.seamless_pieces template.toList
  · rw [Bool.eq_false_iff, Ne, contains_iff, toList_fill]
    exact not_infix_replaceAll (Placeholder.word_ne_nil .steps) b.text_steps_ne_nil
      (fun _ member => not_mem_word_of_mem_steps member .steps) _
  · rw [← renamed_of_free free, ← toList_fill_eq, String.ofList_toList, renamed_of_free free]
  · apply String.toList_injective
    rw [toList_replace_replace, toList_fill_eq, renamed_of_free free]
  · intro lists name member
    rw [contains_iff, toList_fill_eq, renamed_of_free free]
    exact infix_filled_of_mem lists member

/-- A word that is put together by an insertion is none, a word in a name is one. -/
example : ({ objects := ["T_MAX", "a'b"], steps := 35 } : Bindings).fill "T_OBJECTSMAX T_T_MAXMAX" =
    "T_['35', 'a'b']MAX T_35MAX" := by decide

/-- Both words stand in this template, and neither in a name: each is
filled in by itself. -/
theorem names_are_filled_in :
    let b : Bindings := { objects := ["goal", "rock"], steps := 35 }
    let template := "Regions: OBJECTS. Steps: T_MAX."
    (∀ name ∈ b.objects, contains name stepsWord = false) ∧
      contains template objectsWord = true ∧ contains (b.fill template) "rock" = true ∧
      b.fill template =
        replace (replace template stepsWord (Decimal.digits b.steps)) objectsWord
          b.objectsText := by
  intro b template
  have free : ∀ name ∈ b.objects, contains name stepsWord = false := by decide
  have lists : contains template objectsWord = true := by decide
  obtain ⟨-, -, -, -, -, -, independent⟩ := fill_is_one_pass b template
  obtain ⟨-, order, names⟩ := independent free
  exact ⟨free, lists, names lists "rock" (by decide), order⟩

end Bindings

end Sortie
