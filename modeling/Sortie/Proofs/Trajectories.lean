import Sortie.Proofs.Decimals
import Sortie.Proofs.Solver
import Sortie.Record.Writer
/-!
# Trajectories that are written and read

A trajectory's text is a solver's answer, and it is read as the same trajectory, but
for components that are not finite: these are written as `null` and read as no number.
The main result says that this is so exactly if each finite component by itself is
read back from its own text.
-/

namespace Sortie

/-! ## Texts -/

namespace Text

/-- Blank characters around a text that neither begins nor ends with one are cut off. -/
theorem trimChars_append {before after cs : List Char} {first last : Char}
    (blank : ∀ c ∈ before ++ after, isBlank c = true) (hf : isBlank first = false)
    (hl : isBlank last = false) :
    trimChars (before ++ first :: (cs ++ last :: after)) = first :: (cs ++ [last]) := by
  obtain ⟨hb, ha⟩ := List.forall_mem_append.mp blank
  have tail : ∀ c ∈ after.reverse, isBlank c = true := fun c mem => ha c (List.mem_reverse.mp mem)
  have back : (first :: (cs ++ last :: after)).reverse =
      after.reverse ++ last :: (cs.reverse ++ [first]) := by simp
  rw [trimChars, List.dropWhile_append_of_pos hb, List.dropWhile_cons_of_neg (by simp [hf]), back,
    List.dropWhile_append_of_pos tail, List.dropWhile_cons_of_neg (by simp [hl])]
  simp

end Text

theorem Trajectory.isWellFormed_toJson (t : Trajectory) : t.toJson.IsWellFormed := by
  refine .object fun f mem => ?_
  rw [List.map_singleton, List.mem_singleton] at mem
  subst mem
  refine .array fun j mem => ?_
  obtain ⟨s, -, rfl⟩ := List.mem_map.mp mem
  refine .array fun j mem => ?_
  obtain ⟨x, -, rfl⟩ := List.mem_map.mp mem
  exact Json.isWellFormed_real x

theorem trim_toJson (t : Trajectory) {before after : String}
    (blank : ∀ c ∈ before.toList ++ after.toList, Text.isBlank c = true) :
    Text.trim (before ++ t.toJson.render ++ after) = t.toJson.render := by
  obtain ⟨cs, written⟩ : ∃ cs, t.toJson.write = '\x7b' :: (cs ++ ['\x7d']) := ⟨_, rfl⟩
  rw [Text.trim, Json.render, written]
  simp only [String.toList_append, String.toList_ofList]
  rw [List.append_assoc, List.cons_append, List.append_assoc, List.singleton_append,
    Text.trimChars_append blank rfl rfl]

/-! ## Components -/

/-- The number if it is finite, and else no number. -/
def finiteOrNaN (x : Float) : Float :=
  if x.isFinite then x else 0.0 / 0.0

/-- The state with no number for each component that is not finite. -/
def State.finiteOrNaN (s : State) : State :=
  ⟨Sortie.finiteOrNaN s.x, Sortie.finiteOrNaN s.y, Sortie.finiteOrNaN s.z,
    Sortie.finiteOrNaN s.vx, Sortie.finiteOrNaN s.vy, Sortie.finiteOrNaN s.vz⟩

/-- A component is read back as itself, or as no number if it is not finite. -/
theorem exists_component_iff {x : Float} :
    (∃ c, SolverReply.component? (Json.real x) = some c ∧ StandsFor c (finiteOrNaN x)) ↔
      (x.isFinite = true → (Json.real x).asReal? = some x) := by
  by_cases finite : x.isFinite = true
  · obtain ⟨lexeme, written⟩ := Json.exists_real_eq_number finite
    rw [written, finiteOrNaN, if_pos finite]
    simp only [finite, true_implies]
    constructor
    · rintro ⟨c, component, stands⟩
      obtain ⟨y, read, rfl⟩ := Option.map_eq_some_iff.mp component
      obtain rfl : x = y := stands
      exact read
    · intro read
      exact ⟨some x, Option.map_eq_some_iff.mpr ⟨x, read, rfl⟩, rfl⟩
  · rw [Json.real_eq_null finite, finiteOrNaN, if_neg finite]
    have nan : StandsFor none (0.0 / 0.0) := show (0.0 / 0.0 : Float).isNaN = true by decide
    exact iff_of_true ⟨none, rfl, nan⟩ fun h => absurd h finite

/-- Two steps take each item of a list to its image if they do so with the list. -/
theorem exists_forall₂_iff {α β γ : Type} {R : α → β → Prop} {S : β → γ → Prop} {f : α → γ}
    {xs : List α} :
    (∃ ys, List.Forall₂ R xs ys ∧ List.Forall₂ S ys (xs.map f)) ↔
      ∀ x ∈ xs, ∃ y, R x y ∧ S y (f x) := by
  induction xs with
  | nil => exact iff_of_true ⟨[], .nil, .nil⟩ nofun
  | cons x xs ih =>
    rw [List.forall_mem_cons, ← ih]
    constructor
    · rintro ⟨_, items, images⟩
      cases items with
      | cons first others =>
        cases images with
        | cons first' others' => exact ⟨⟨_, first, first'⟩, _, others, others'⟩
    · rintro ⟨⟨y, first, first'⟩, ys, others, others'⟩
      exact ⟨y :: ys, .cons first others, .cons first' others'⟩

theorem exists_row_iff {s : State} :
    (∃ row, SolverReply.row? s.toJson = some row ∧
      List.Forall₂ StandsFor row s.finiteOrNaN.components) ↔
      ∀ x ∈ s.components, x.isFinite = true → (Json.real x).asReal? = some x := by
  have items (row : List (Option Float)) : SolverReply.row? s.toJson = some row ↔
      List.Forall₂ (fun x c => SolverReply.component? (Json.real x) = some c) s.components row := by
    change (s.components.map Json.real).mapM SolverReply.component? = some row ↔ _
    rw [mapM_eq_some_iff, List.forall₂_map_left_iff]
  have images : s.finiteOrNaN.components = s.components.map finiteOrNaN := rfl
  simp only [items, images, exists_forall₂_iff, exists_component_iff]

theorem exists_rows_iff {t : Trajectory} :
    (∃ rows, SolverReply.rows? (.array (t.states.map State.toJson)) = some rows ∧
      AreStatesOf (t.states.map State.finiteOrNaN) rows) ↔
      ∀ s ∈ t.states, ∀ x ∈ s.components, x.isFinite = true → (Json.real x).asReal? = some x := by
  have items (rows : List (List (Option Float))) :
      SolverReply.rows? (.array (t.states.map State.toJson)) = some rows ↔
        List.Forall₂ (fun s row => SolverReply.row? s.toJson = some row) t.states rows := by
    change (t.states.map State.toJson).mapM SolverReply.row? = some rows ↔ _
    rw [mapM_eq_some_iff, List.forall₂_map_left_iff]
  simp only [items, AreStatesOf, exists_forall₂_iff, exists_row_iff]

/-- The missing parts of the reply are empty. -/
theorem ofJson?_toJson (t : Trajectory) :
    SolverReply.ofJson? t.toJson =
      (SolverReply.rows? (.array (t.states.map State.toJson))).map
        fun rows => ⟨rows, [], none⟩ := by
  rw [Trajectory.toJson]
  generalize Json.array (t.states.map State.toJson) = states
  have found : Json.fields? ["states", "controls", "error"] [(some "states", states)] =
      some [("states", states)] := by
    simp [Json.fields?]
  simp only [Json.record, List.map_cons, List.map_nil, SolverReply.ofJson?, found,
    Option.bind_eq_bind, Option.bind_some]
  cases read : SolverReply.rows? states <;> simp [SolverReply.part?, List.lookup, read]

/-! ## Answers -/

theorem Outcome.read_eq_feasible_iff {text : String} {t : Trajectory} {controls : List Control} :
    read text = .feasible t controls ↔
      ∃ reply, SolverReply.read? text = some reply ∧ reply.outcome = .feasible t controls := by
  unfold read
  split
  · rename_i reply found
    rw [found]
    simp
  · rename_i found
    rw [found]
    exact iff_of_false nofun nofun

/-- A trajectory's text, with blank characters around it, is read as an answer without
controls whose states are those of the trajectory, with no number for each component that
is not finite. The one thing that this takes is that each finite component is read back as
itself from its own text. -/
theorem read_trajectory_iff (t : Trajectory) {before after : String}
    (blank : ∀ c ∈ before.toList ++ after.toList, Text.isBlank c = true) :
    Outcome.read (before ++ t.toJson.render ++ after) =
        .feasible ⟨t.states.map State.finiteOrNaN⟩ [] ↔
      ∀ s ∈ t.states, ∀ x ∈ s.components, x.isFinite = true → (Json.real x).asReal? = some x := by
  have read : SolverReply.read? (before ++ t.toJson.render ++ after) =
      (SolverReply.rows? (.array (t.states.map State.toJson))).map
        fun rows => ⟨rows, [], none⟩ := by
    rw [SolverReply.read?, trim_toJson t blank, Json.read?_render t.isWellFormed_toJson]
    exact ofJson?_toJson t
  rw [Outcome.read_eq_feasible_iff, read, ← exists_rows_iff]
  constructor
  · rintro ⟨reply, found, outcome⟩
    obtain ⟨rows, items, rfl⟩ := Option.map_eq_some_iff.mp found
    exact ⟨rows, items, (SolverReply.outcome_eq_feasible_iff.mp outcome).2.1⟩
  · rintro ⟨rows, found, states⟩
    exact ⟨⟨rows, [], none⟩, Option.map_eq_some_iff.mpr ⟨rows, found, rfl⟩,
      SolverReply.outcome_eq_feasible_iff.mpr ⟨rfl, states, rfl⟩⟩

/-- Both zeros, numbers of every size, what is no number and the
infinities, between blanks. -/
theorem read_trajectory_with_gaps :
    let t : Trajectory :=
      ⟨[⟨-0.0, 0.1, 0.0 / 0.0, 1.0 / 0.0, -1.0 / 0.0, 1e300⟩, .atRest 4.5 (-3.25) 5e-324]⟩
    Outcome.read ("\u3000\u00a0" ++ t.toJson.render ++ "\n") =
      .feasible ⟨t.states.map State.finiteOrNaN⟩ [] :=
  (read_trajectory_iff _ (List.all_eq_true.mp (by decide +kernel))).mpr (by decide +kernel)

-- A reader that rounds twice can miss a number of sixteen digits by one place.
example : (Json.real 90.28571428571429).asReal? ≠ some 90.28571428571429 := by decide +kernel

end Sortie
