import Sortie.Proofs.Verdict
/-!
# Regions without a row

A verdict needs the rows of the regions that its objective refers to. Obstacles and walls
are gone through until one was entered, and what stands behind that one is not looked for.
So a missing region is a fault exactly if it is looked for (`verdict_faults_iff_looksFor`),
and one entered obstacle hides a missing one behind it.
-/

namespace Sortie

namespace Occupancy

variable {o : Occupancy}

/-- The vehicle was inside a region at some step. A region without a
row was never entered. -/
def IsEntered (o : Occupancy) (name : String) : Prop :=
  ∃ row, o.row? name = some row ∧ true ∈ row

/-- A list of regions is gone through as far as this region: none before it was entered. -/
def Reaches (o : Occupancy) (names : List String) (name : String) : Prop :=
  ∃ before after, names = before ++ name :: after ∧ ∀ earlier ∈ before, ¬ o.IsEntered earlier

/-- What is said about a region without a row. -/
def absent (name : String) : Fault :=
  .configuration s!"region '{name}' is not part of the scenario"

/-- What comes of looking for regions, list after list: all that were looked for have rows,
or the fault names one that has none. -/
def LooksInto (o : Occupancy) (lists : List (List String)) {α : Type} : Except Fault α → Prop
  | .ok _ => ∀ names ∈ lists, ∀ name, o.Reaches names name → name ∈ o.regionNames
  | .error fault => ∃ names ∈ lists, ∃ name, o.Reaches names name ∧ name ∉ o.regionNames ∧
    fault = absent name

/-! ## Rows -/

theorem mem_regionNames_of_row? {name : String} {row : List Bool} (h : o.row? name = some row) :
    name ∈ o.regionNames := by
  refine Classical.not_not.mp fun missing => ?_
  cases h.symm.trans (row?_eq_none_iff.mpr missing)

theorem firstEntry_of_row? {name : String} {row : List Bool} (h : o.row? name = some row) :
    o.firstEntry name = .ok (firstStep? row) := by
  rw [firstEntry, Occupancy.row, h]
  rfl

theorem firstEntry_of_absent {name : String} (h : o.row? name = none) :
    o.firstEntry name = .error (absent name) := by
  rw [firstEntry, Occupancy.row, h]
  rfl

theorem isSome_firstStep?_iff (row : List Bool) : (firstStep? row).isSome = true ↔ true ∈ row := by
  simp [firstStep?]

theorem everInside_of_absent {name : String} (h : o.row? name = none) :
    o.everInside name = .error (absent name) := by
  rw [everInside, firstEntry_of_absent h]
  rfl

/-- A region with a row was entered, or it was not. -/
theorem everInside_of_row? {name : String} {row : List Bool} (h : o.row? name = some row) :
    ∃ inside, o.everInside name = .ok inside ∧ (inside = true ↔ o.IsEntered name) := by
  refine ⟨(firstStep? row).isSome, ?_, ?_⟩
  · rw [everInside, firstEntry_of_row? h]
    rfl
  · rw [isSome_firstStep?_iff]
    constructor
    · intro inside
      exact ⟨row, h, inside⟩
    · rintro ⟨other, hother, inside⟩
      cases h.symm.trans hother
      exact inside

/-! ## How far lists are gone through -/

theorem not_reaches_nil (name : String) : ¬ o.Reaches [] name := by
  rintro ⟨before, after, same, -⟩
  cases before <;> cases same

/-- The first region is always looked for; those behind it are, unless it was entered. -/
theorem reaches_cons_iff {first name : String} {rest : List String} :
    o.Reaches (first :: rest) name ↔ name = first ∨ ¬ o.IsEntered first ∧ o.Reaches rest name := by
  constructor
  · rintro ⟨before, after, same, unentered⟩
    cases before with
    | nil =>
      cases same
      exact .inl rfl
    | cons _ before =>
      cases same
      exact .inr ⟨unentered first (by simp), before, after, rfl,
        fun earlier h => unentered earlier (by simp [h])⟩
  · rintro (rfl | ⟨unentered, before, after, rfl, others⟩)
    · exact ⟨[], rest, rfl, nofun⟩
    · exact ⟨first :: before, after, rfl, List.forall_mem_cons.mpr ⟨unentered, others⟩⟩

theorem reaches_singleton_iff {first name : String} : o.Reaches [first] name ↔ name = first := by
  rw [reaches_cons_iff]
  simp [not_reaches_nil]

/-! ## Looking for regions, one after the other -/

theorem LooksInto.ok {α : Type} (a : α) : o.LooksInto [] (.ok a : Except Fault α) :=
  nofun

/-- What is looked for in two steps, the second of them only if the first one went well. -/
theorem LooksInto.bind {α β : Type} {lists : List (List String)} {x : Except Fault α}
    {f : α → Except Fault β} (first : o.LooksInto lists x) (more : List (List String))
    (second : ∀ a, o.LooksInto more (f a)) : o.LooksInto (lists ++ more) (x >>= f) := by
  cases x with
  | error fault =>
    obtain ⟨names, listed, found⟩ := first
    exact ⟨names, List.mem_append_left more listed, found⟩
  | ok a =>
    have second := second a
    show o.LooksInto (lists ++ more) (f a)
    cases result : f a with
    | error fault =>
      rw [result] at second
      obtain ⟨names, listed, found⟩ := second
      exact ⟨names, List.mem_append_right lists listed, found⟩
    | ok b =>
      rw [result] at second
      intro names listed
      rcases List.mem_append.mp listed with listed | listed
      · exact first names listed
      · exact second names listed

theorem looksInto_firstEntry (name : String) : o.LooksInto [[name]] (o.firstEntry name) := by
  cases h : o.row? name with
  | none =>
    rw [firstEntry_of_absent h]
    exact ⟨[name], by simp, name, reaches_singleton_iff.mpr rfl, row?_eq_none_iff.mp h, rfl⟩
  | some row =>
    rw [firstEntry_of_row? h]
    intro names listed other reached
    cases List.mem_singleton.mp listed
    cases reaches_singleton_iff.mp reached
    exact mem_regionNames_of_row? h

theorem looksInto_everInside (name : String) : o.LooksInto [[name]] (o.everInside name) := by
  have looks := looksInto_firstEntry (o := o) name
  unfold everInside
  cases h : o.firstEntry name with
  | error fault =>
    rw [h] at looks
    exact looks
  | ok step =>
    rw [h] at looks
    exact looks

/-- An entered region hides what stands behind it. -/
theorem looksInto_of_entered {first : String} (listed : first ∈ o.regionNames)
    (entered : o.IsEntered first) (rest : List String) {α : Type} (a : α) :
    o.LooksInto [first :: rest] (.ok a : Except Fault α) := by
  intro names hnames name reached
  cases List.mem_singleton.mp hnames
  rcases reaches_cons_iff.mp reached with rfl | ⟨unentered, -⟩
  · exact listed
  · exact (unentered entered).elim

/-- A region that was not entered hides nothing. -/
theorem LooksInto.cons {first : String} {rest : List String} {α : Type} {x : Except Fault α}
    (behind : o.LooksInto [rest] x) (listed : first ∈ o.regionNames)
    (unentered : ¬ o.IsEntered first) : o.LooksInto [first :: rest] x := by
  cases x with
  | error fault =>
    obtain ⟨names, hnames, name, reached, missing, rfl⟩ := behind
    cases List.mem_singleton.mp hnames
    exact ⟨first :: rest, by simp, name, reaches_cons_iff.mpr (.inr ⟨unentered, reached⟩),
      missing, rfl⟩
  | ok a =>
    intro names hnames name reached
    cases List.mem_singleton.mp hnames
    rcases reaches_cons_iff.mp reached with rfl | ⟨-, reached⟩
    · exact listed
    · exact behind rest (by simp) name reached

theorem looksInto_firstEntered (names : List String) :
    o.LooksInto [names] (o.firstEntered names) := by
  induction names with
  | nil =>
    intro names listed name reached
    cases List.mem_singleton.mp listed
    exact (not_reaches_nil name reached).elim
  | cons first rest ih =>
    rw [firstEntered]
    cases h : o.row? first with
    | none =>
      rw [everInside_of_absent h]
      exact ⟨first :: rest, by simp, first, reaches_cons_iff.mpr (.inl rfl),
        row?_eq_none_iff.mp h, rfl⟩
    | some row =>
      have listed : first ∈ o.regionNames := mem_regionNames_of_row? h
      obtain ⟨inside, tells, entered⟩ := everInside_of_row? h
      rw [tells]
      cases inside with
      | true => exact looksInto_of_entered listed (entered.mp rfl) rest (some first)
      | false => exact ih.cons listed fun h => Bool.false_ne_true (entered.mpr h)

end Occupancy

/-! ## What a verdict looks for -/

/-- The lists of regions that a verdict goes through, in this order. -/
def Objective.lists : Objective → List (List String)
  | reachAvoid goal obstacles => [[goal], obstacles]
  | orderedAccess target walls gate key => [[target], walls, [gate], [key]]

/-- A verdict looks for this region: it is the goal, the target, the gate or the key, or an
obstacle or a wall that stands behind no entered one. -/
def Objective.LooksFor (objective : Objective) (o : Occupancy) (name : String) : Prop :=
  ∃ names ∈ objective.lists, o.Reaches names name

theorem Objective.mem_references_of_mem_lists {objective : Objective} {names : List String}
    (listed : names ∈ objective.lists) {name : String} (h : name ∈ names) :
    name ∈ objective.references := by
  cases objective <;>
    simp only [lists, List.mem_cons, List.not_mem_nil, or_false] at listed <;>
    rcases listed with rfl | rfl | rfl | rfl <;> simp_all [references]

theorem Objective.LooksFor.mem_references {objective : Objective} {o : Occupancy} {name : String}
    (h : objective.LooksFor o name) : name ∈ objective.references := by
  obtain ⟨names, listed, before, after, rfl, -⟩ := h
  exact mem_references_of_mem_lists listed (by simp)

namespace Occupancy

theorem looksInto_verdict (o : Occupancy) (objective : Objective) :
    o.LooksInto objective.lists (o.verdict objective) := by
  cases objective with
  | reachAvoid goal obstacles =>
    refine (looksInto_everInside goal).bind [obstacles] fun reached => ?_
    refine (looksInto_firstEntered obstacles).bind [] fun crossed => ?_
    cases reached <;> cases crossed <;> exact .ok _
  | orderedAccess target walls gate key =>
    refine (looksInto_everInside target).bind [walls, [gate], [key]] fun reached => ?_
    refine (looksInto_firstEntered walls).bind [[gate], [key]] fun crossed => ?_
    refine (looksInto_firstEntry gate).bind [[key]] fun gateStep => ?_
    refine (looksInto_firstEntry key).bind [] fun keyStep => ?_
    cases reached <;> cases crossed <;> cases orderFailure? gateStep keyStep <;> exact .ok _

/-! ## Main result -/

/-- A verdict fails exactly if a region that it looks for has no row. The fault then names
such a region, one that the objective refers to. -/
theorem verdict_faults_iff_looksFor (o : Occupancy) (objective : Objective) :
    ((∃ detail, o.verdict objective = .error (.configuration detail)) ↔
      ∃ name, objective.LooksFor o name ∧ name ∉ o.regionNames) ∧
    ∀ fault, o.verdict objective = .error fault →
      ∃ name ∈ objective.references, objective.LooksFor o name ∧ name ∉ o.regionNames ∧
        fault = .configuration s!"region '{name}' is not part of the scenario" := by
  have looks := looksInto_verdict o objective
  cases result : o.verdict objective with
  | ok v =>
    rw [result] at looks
    refine ⟨⟨nofun, ?_⟩, nofun⟩
    rintro ⟨name, ⟨names, listed, reached⟩, missing⟩
    exact (missing (looks names listed name reached)).elim
  | error fault =>
    rw [result] at looks
    obtain ⟨names, listed, name, reached, missing, rfl⟩ := looks
    have lookedFor : objective.LooksFor o name := ⟨names, listed, reached⟩
    refine ⟨⟨fun _ => ⟨name, lookedFor, missing⟩, fun _ => ⟨_, rfl⟩⟩, ?_⟩
    rintro _ ⟨⟩
    exact ⟨name, lookedFor.mem_references, lookedFor, missing, rfl⟩

/-- Not every region that an objective refers to and that has no row is a fault: the chest
is missing here, but the rock before it was entered. -/
theorem entered_obstacle_hides_missing :
    ∃ o, Occupancy.ofRows [("goal", [true]), ("rock", [true])] = .ok o ∧
      o.verdict (.reachAvoid "goal" ["rock", "chest"]) = .ok (.failed (.obstacleCrossed "rock")) ∧
      ¬ ((∃ detail, o.verdict (.reachAvoid "goal" ["rock", "chest"]) =
            .error (.configuration detail)) ↔
          ∃ name ∈ (Objective.reachAvoid "goal" ["rock", "chest"]).references,
            name ∉ o.regionNames) := by
  refine ⟨⟨[("goal", [true]), ("rock", [true])], by decide⟩, rfl, rfl, ?_⟩
  intro claimed
  obtain ⟨detail, fails⟩ := claimed.mpr ⟨"chest", by decide, by decide⟩
  cases fails

end Occupancy
end Sortie
