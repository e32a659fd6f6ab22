import Mathlib.Data.List.Nodup
import Mathlib.Data.Nat.Find
import Sortie.Proofs.Verdict
/-!
# Verdicts in space

A verdict is read off an occupancy, row by row. Here the same rules are said of the
samples of a trajectory and of the boxes that they lie in (`Scenario.Deserves`), without
occupancies, rows or faults. The main result says that a trajectory has exactly the
verdict that it deserves.
-/

namespace Sortie

/-! ## Boxes -/

/-- The point lies in the closed box. -/
structure Region.Holds (r : Region) (p : Point) : Prop where
  x : r.xmin ≤ p.x ∧ p.x ≤ r.xmax
  y : r.ymin ≤ p.y ∧ p.y ≤ r.ymax
  z : r.zmin ≤ p.z ∧ p.z ≤ r.zmax

/-- Some coordinate is not a number. -/
def Point.isNowhere (p : Point) : Bool :=
  p.x.isNaN || p.y.isNaN || p.z.isNaN

theorem Region.contains_iff {r : Region} {p : Point} : r.contains p = true ↔ r.Holds p := by
  simp only [contains, Bool.and_eq_true, decide_eq_true_eq]
  constructor
  · rintro ⟨⟨⟨⟨⟨h1, h2⟩, h3⟩, h4⟩, h5⟩, h6⟩
    exact ⟨⟨h1, h2⟩, ⟨h3, h4⟩, ⟨h5, h6⟩⟩
  · rintro ⟨⟨h1, h2⟩, ⟨h3, h4⟩, ⟨h5, h6⟩⟩
    exact ⟨⟨⟨⟨⟨h1, h2⟩, h3⟩, h4⟩, h5⟩, h6⟩

/-- What is not a number is at most nothing. -/
theorem not_le_of_isNaN {a b : Float} (h : a.isNaN = true) : ¬ a ≤ b := by
  intro le
  have le : (a.toModel.unpack.compare b.toModel.unpack).any (·.isLE) = true := of_decide_eq_true le
  have nan : a.toModel.unpack.isNaN = true := h
  cases unpacked : a.toModel.unpack with
  | notANumber =>
    rw [unpacked] at le
    cases le
  | infinity | zero | finite =>
    rw [unpacked] at nan
    cases nan

theorem Region.Holds.not_isNowhere {r : Region} {p : Point} (h : r.Holds p) :
    p.isNowhere = false := by
  obtain ⟨⟨-, x⟩, ⟨-, y⟩, ⟨-, z⟩⟩ := h
  have number : ∀ {a b : Float}, a ≤ b → a.isNaN = false := fun le =>
    eq_false_of_ne_true fun nan => not_le_of_isNaN nan le
  rw [Point.isNowhere, number x, number y, number z]
  rfl

/-! ## Where a trajectory goes -/

namespace Scenario

variable (s : Scenario) (t : Trajectory)

/-- The sample of this step lies in the region of this name. -/
def InsideAt (name : String) (step : Nat) : Prop :=
  ∃ r ∈ s.regions, r.name = name ∧ ∃ x, t.states[step]? = some x ∧ r.region.Holds x.position

/-- Some sample lies in the region. -/
def Enters (name : String) : Prop :=
  ∃ step, s.InsideAt t name step

/-- This is the first sample in the region. -/
def EntersAt (name : String) (step : Nat) : Prop :=
  s.InsideAt t name step ∧ ∀ earlier < step, ¬ s.InsideAt t name earlier

/-- This is the first of the regions in a list that the trajectory enters at all. -/
def EntersFirst (names : List String) (name : String) : Prop :=
  ∃ before after, names = before ++ name :: after ∧ s.Enters t name ∧
    ∀ other ∈ before, ¬ s.Enters t other

/-- At some step the vehicle is at the gate, has not been at the key so
far, and will be later. -/
def PassesTooEarly (gate key : String) : Prop :=
  ∃ step, s.InsideAt t gate step ∧ (∀ earlier ≤ step, ¬ s.InsideAt t key earlier) ∧
    ∃ later > step, s.InsideAt t key later

/-- The verdict that a trajectory deserves by the places of its samples. -/
inductive Deserves : Verdict → Prop
  | goalMissed {goal : String} {obstacles : List String}
      (objective : s.objective = .reachAvoid goal obstacles) (missed : ¬ s.Enters t goal) :
      Deserves (.failed .goalNotReached)
  | obstacle {goal name : String} {obstacles : List String}
      (objective : s.objective = .reachAvoid goal obstacles) (reached : s.Enters t goal)
      (crossed : s.EntersFirst t obstacles name) :
      Deserves (.failed (.obstacleCrossed name))
  | reached {goal : String} {obstacles : List String}
      (objective : s.objective = .reachAvoid goal obstacles) (reached : s.Enters t goal)
      (clear : ∀ name ∈ obstacles, ¬ s.Enters t name) :
      Deserves .accomplished
  | targetMissed {target gate key : String} {walls : List String}
      (objective : s.objective = .orderedAccess target walls gate key)
      (missed : ¬ s.Enters t target) :
      Deserves (.failed .targetNotReached)
  | wall {target gate key name : String} {walls : List String}
      (objective : s.objective = .orderedAccess target walls gate key)
      (reached : s.Enters t target) (crossed : s.EntersFirst t walls name) :
      Deserves (.failed (.wallCrossed name))
  | tooEarly {target gate key : String} {walls : List String} {gateStep keyStep : Nat}
      (objective : s.objective = .orderedAccess target walls gate key)
      (reached : s.Enters t target) (clear : ∀ name ∈ walls, ¬ s.Enters t name)
      (early : s.PassesTooEarly t gate key) (gateEntry : s.EntersAt t gate gateStep)
      (keyEntry : s.EntersAt t key keyStep) :
      Deserves (.failed (.gateBeforeKey gateStep keyStep))
  | inOrder {target gate key : String} {walls : List String}
      (objective : s.objective = .orderedAccess target walls gate key)
      (reached : s.Enters t target) (clear : ∀ name ∈ walls, ¬ s.Enters t name)
      (inOrder : ¬ s.PassesTooEarly t gate key) :
      Deserves .accomplished

variable {s t}

theorem EntersFirst.enters {names : List String} {name : String}
    (h : s.EntersFirst t names name) : s.Enters t name := by
  obtain ⟨before, after, -, enters, -⟩ := h
  exact enters

theorem Enters.exists_entersAt {name : String} (h : s.Enters t name) :
    ∃ step, s.EntersAt t name step := by
  classical
  exact ⟨Nat.find h, Nat.find_spec h, fun _ before => Nat.find_min h before⟩

/-- The gate is passed too early exactly if it is entered at an earlier
step than the key. -/
theorem EntersAt.passesTooEarly_iff {gate key : String} {gateStep keyStep : Nat}
    (gateEntry : s.EntersAt t gate gateStep) (keyEntry : s.EntersAt t key keyStep) :
    s.PassesTooEarly t gate key ↔ gateStep < keyStep := by
  constructor
  · rintro ⟨step, atGate, notYet, -⟩
    have gateFirst : gateStep ≤ step := Nat.le_of_not_lt fun lt => gateEntry.2 step lt atGate
    have keyLater : step < keyStep := Nat.lt_of_not_le fun le => notYet keyStep le keyEntry.1
    omega
  · intro lt
    refine ⟨gateStep, gateEntry.1, ?_, keyStep, lt, keyEntry.1⟩
    intro earlier le
    exact keyEntry.2 earlier (by omega)

theorem PassesTooEarly.enters {gate key : String} (h : s.PassesTooEarly t gate key) :
    s.Enters t gate ∧ s.Enters t key := by
  obtain ⟨step, atGate, -, later, -, atKey⟩ := h
  exact ⟨⟨step, atGate⟩, ⟨later, atKey⟩⟩

theorem entersFirst_or_clear (names : List String) :
    (∃ name, s.EntersFirst t names name) ∨ ∀ name ∈ names, ¬ s.Enters t name := by
  induction names with
  | nil => exact .inr nofun
  | cons name rest ih =>
    by_cases enters : s.Enters t name
    · exact .inl ⟨name, [], rest, rfl, enters, nofun⟩
    · rcases ih with ⟨found, before, after, rfl, entered, clear⟩ | clear
      · refine .inl ⟨found, name :: before, after, rfl, entered, ?_⟩
        exact List.forall_mem_cons.mpr ⟨enters, clear⟩
      · exact .inr (List.forall_mem_cons.mpr ⟨enters, clear⟩)

/-- Each trajectory deserves some verdict. -/
theorem exists_deserves (s : Scenario) (t : Trajectory) : ∃ v, s.Deserves t v := by
  cases objective : s.objective with
  | reachAvoid goal obstacles =>
    by_cases reached : s.Enters t goal
    · rcases entersFirst_or_clear (s := s) (t := t) obstacles with ⟨name, crossed⟩ | clear
      · exact ⟨_, .obstacle objective reached crossed⟩
      · exact ⟨_, .reached objective reached clear⟩
    · exact ⟨_, .goalMissed objective reached⟩
  | orderedAccess target walls gate key =>
    by_cases reached : s.Enters t target
    · rcases entersFirst_or_clear (s := s) (t := t) walls with ⟨name, crossed⟩ | clear
      · exact ⟨_, .wall objective reached crossed⟩
      · by_cases early : s.PassesTooEarly t gate key
        · obtain ⟨gateStep, gateEntry⟩ := early.enters.1.exists_entersAt
          obtain ⟨keyStep, keyEntry⟩ := early.enters.2.exists_entersAt
          exact ⟨_, .tooEarly objective reached clear early gateEntry keyEntry⟩
        · exact ⟨_, .inOrder objective reached clear early⟩
    · exact ⟨_, .targetMissed objective reached⟩

/-! ## What occupancies tell -/

/-- The row of a region is its own: no other region has its name. -/
theorem row_occupancy {r : NamedRegion} (h : r ∈ s.regions) :
    (s.occupancy t).row r.name = .ok (t.positions.map r.region.contains) := by
  have named : r.name ∈ (s.occupancy t).regionNames := by
    rw [regionNames_occupancy]
    exact List.mem_map_of_mem h
  obtain ⟨row, hrow⟩ := Occupancy.row_of_mem named
  have found : (s.occupancy t).row? r.name = some row := by
    rw [Occupancy.row] at hrow
    split at hrow
    · cases hrow
      assumption
    · cases hrow
  obtain ⟨before, after, rows, -⟩ := List.lookup_eq_some_iff.mp found
  have listed : (r.name, row) ∈ (s.occupancy t).rows := by simp [rows]
  obtain ⟨other, hother, same⟩ := List.mem_map.mp listed
  obtain ⟨name, rfl⟩ := Prod.mk.inj same
  cases List.inj_on_of_nodup_map s.nodup_names hother h name
  exact hrow

theorem insideAt_iff {r : NamedRegion} (h : r ∈ s.regions) {step : Nat} :
    s.InsideAt t r.name step ↔ (t.positions.map r.region.contains)[step]? = some true := by
  have held : (t.positions.map r.region.contains)[step]? = some true ↔
      ∃ x, t.states[step]? = some x ∧ r.region.Holds x.position := by
    simp [Trajectory.positions, Region.contains_iff]
  rw [held]
  constructor
  · rintro ⟨other, hother, name, inside⟩
    cases List.inj_on_of_nodup_map s.nodup_names hother h name
    exact inside
  · exact fun inside => ⟨r, h, rfl, inside⟩

end Scenario

namespace Occupancy

theorem firstStep?_eq_some {row : List Bool} {step : Nat} (inside : row[step]? = some true)
    (first : ∀ earlier < step, row[earlier]? ≠ some true) : firstStep? row = some step := by
  obtain ⟨bound, holds⟩ := List.getElem?_eq_some_iff.mp inside
  refine List.findIdx?_eq_some_iff_getElem.mpr ⟨bound, holds, fun earlier lt held => ?_⟩
  exact first earlier lt (List.getElem?_eq_some_iff.mpr ⟨by omega, held⟩)

theorem firstStep?_eq_none {row : List Bool} (outside : ∀ step : Nat, row[step]? ≠ some true) :
    firstStep? row = none := by
  refine List.findIdx?_eq_none_iff.mpr fun cell hcell => ?_
  obtain ⟨step, hstep⟩ := List.mem_iff_getElem?.mp hcell
  cases cell with
  | false => rfl
  | true => exact absurd hstep (outside step)

end Occupancy

namespace Scenario

variable {s : Scenario} {t : Trajectory}

/-- A declared name is that of some region. -/
theorem exists_region {name : String} (declared : name ∈ s.regionNames) :
    ∃ r ∈ s.regions, r.name = name :=
  List.mem_map.mp declared

theorem EntersAt.firstEntry {name : String} {step : Nat} (h : s.EntersAt t name step) :
    (s.occupancy t).firstEntry name = .ok (some step) := by
  obtain ⟨r, hr, rfl, -⟩ := h.1
  have first := Occupancy.firstStep?_eq_some ((insideAt_iff hr).mp h.1)
    fun earlier lt inside => h.2 earlier lt ((insideAt_iff hr).mpr inside)
  rw [Occupancy.firstEntry, row_occupancy hr, Except.map, first]

theorem firstEntry_of_not_enters {name : String} (declared : name ∈ s.regionNames)
    (h : ¬ s.Enters t name) : (s.occupancy t).firstEntry name = .ok none := by
  obtain ⟨r, hr, rfl⟩ := exists_region declared
  have never := Occupancy.firstStep?_eq_none
    fun step inside => h ⟨step, (insideAt_iff (t := t) hr).mpr inside⟩
  rw [Occupancy.firstEntry, row_occupancy hr, Except.map, never]

theorem firstEntry_eq_none_iff {name : String} (declared : name ∈ s.regionNames) :
    (s.occupancy t).firstEntry name = .ok none ↔ ¬ s.Enters t name := by
  constructor
  · intro none enters
    obtain ⟨step, entry⟩ := enters.exists_entersAt
    cases none.symm.trans entry.firstEntry
  · exact firstEntry_of_not_enters declared

theorem firstEntry_eq_some_iff {name : String} (declared : name ∈ s.regionNames) {step : Nat} :
    (s.occupancy t).firstEntry name = .ok (some step) ↔ s.EntersAt t name step := by
  constructor
  · intro first
    by_cases enters : s.Enters t name
    · obtain ⟨step', entry⟩ := enters.exists_entersAt
      cases first.symm.trans entry.firstEntry
      exact entry
    · cases first.symm.trans (firstEntry_of_not_enters declared enters)
  · exact EntersAt.firstEntry

theorem Enters.everInside {name : String} (h : s.Enters t name) :
    (s.occupancy t).everInside name = .ok true := by
  obtain ⟨step, entry⟩ := h.exists_entersAt
  rw [Occupancy.everInside, entry.firstEntry]
  rfl

theorem everInside_of_not_enters {name : String} (declared : name ∈ s.regionNames)
    (h : ¬ s.Enters t name) : (s.occupancy t).everInside name = .ok false := by
  rw [Occupancy.everInside, firstEntry_of_not_enters declared h]
  rfl

theorem firstEntered_of_clear {names : List String}
    (declared : ∀ name ∈ names, name ∈ s.regionNames)
    (clear : ∀ name ∈ names, ¬ s.Enters t name) :
    (s.occupancy t).firstEntered names = .ok none := by
  induction names with
  | nil => rfl
  | cons name rest ih =>
    rw [List.forall_mem_cons] at declared clear
    rw [Occupancy.firstEntered, everInside_of_not_enters declared.1 clear.1]
    exact ih declared.2 clear.2

theorem EntersFirst.firstEntered {names : List String} {name : String}
    (declared : ∀ name ∈ names, name ∈ s.regionNames) (h : s.EntersFirst t names name) :
    (s.occupancy t).firstEntered names = .ok (some name) := by
  obtain ⟨before, after, rfl, enters, clear⟩ := h
  induction before with
  | nil =>
    rw [List.nil_append, Occupancy.firstEntered, enters.everInside]
    rfl
  | cons other rest ih =>
    rw [List.cons_append, List.forall_mem_cons] at declared
    rw [List.forall_mem_cons] at clear
    rw [List.cons_append, Occupancy.firstEntered, everInside_of_not_enters declared.1 clear.1]
    exact ih declared.2 clear.2

/-- If both are entered, it is the order of their first steps that counts. -/
theorem orderFailure?_of_entersAt {gate key : String} {gateStep keyStep : Nat}
    (gateEntry : s.EntersAt t gate gateStep) (keyEntry : s.EntersAt t key keyStep)
    (inOrder : ¬ s.PassesTooEarly t gate key) :
    Occupancy.orderFailure? (some gateStep) (some keyStep) = none := by
  rw [gateEntry.passesTooEarly_iff keyEntry] at inOrder
  exact if_neg inOrder

/-- The occupancy shows no failure of order if the gate is not passed too early. -/
theorem exists_entries_in_order {gate key : String} (gateDeclared : gate ∈ s.regionNames)
    (keyDeclared : key ∈ s.regionNames) (inOrder : ¬ s.PassesTooEarly t gate key) :
    ∃ gateStep keyStep, (s.occupancy t).firstEntry gate = .ok gateStep ∧
      (s.occupancy t).firstEntry key = .ok keyStep ∧
      Occupancy.orderFailure? gateStep keyStep = none := by
  by_cases gateEntered : s.Enters t gate
  · obtain ⟨gateStep, gateEntry⟩ := gateEntered.exists_entersAt
    by_cases keyEntered : s.Enters t key
    · obtain ⟨keyStep, keyEntry⟩ := keyEntered.exists_entersAt
      exact ⟨_, _, gateEntry.firstEntry, keyEntry.firstEntry,
        orderFailure?_of_entersAt gateEntry keyEntry inOrder⟩
    · exact ⟨_, _, gateEntry.firstEntry, firstEntry_of_not_enters keyDeclared keyEntered, rfl⟩
  · obtain ⟨keyStep, hkey⟩ := Occupancy.firstEntry_of_mem (o := s.occupancy t)
      (by rw [regionNames_occupancy]; exact keyDeclared)
    exact ⟨_, keyStep, firstEntry_of_not_enters gateDeclared gateEntered, hkey, rfl⟩

/-- The verdict on reaching and avoiding, once the two rows are known. -/
theorem verdict_of_reachAvoid {goal : String} {obstacles : List String} {reached : Bool}
    {crossed : Option String} (objective : s.objective = .reachAvoid goal obstacles)
    (hreached : (s.occupancy t).everInside goal = .ok reached)
    (hcrossed : (s.occupancy t).firstEntered obstacles = .ok crossed) :
    s.verdict t = .ok (match reached, crossed with
      | false, _ => .failed .goalNotReached
      | true, some name => .failed (.obstacleCrossed name)
      | true, none => .accomplished) := by
  rw [verdict, objective]
  simp only [Occupancy.verdict, hreached, hcrossed, Bind.bind, Except.bind]
  cases reached <;> cases crossed <;> rfl

/-- The verdict on access in order, once the rows are known. -/
theorem verdict_of_orderedAccess {target gate key : String} {walls : List String} {reached : Bool}
    {crossed : Option String} {gateStep keyStep : Option Nat}
    (objective : s.objective = .orderedAccess target walls gate key)
    (hreached : (s.occupancy t).everInside target = .ok reached)
    (hcrossed : (s.occupancy t).firstEntered walls = .ok crossed)
    (hgate : (s.occupancy t).firstEntry gate = .ok gateStep)
    (hkey : (s.occupancy t).firstEntry key = .ok keyStep) :
    s.verdict t = .ok (match reached, crossed, Occupancy.orderFailure? gateStep keyStep with
      | false, _, _ => .failed .targetNotReached
      | true, some name, _ => .failed (.wallCrossed name)
      | true, none, some reason => .failed reason
      | true, none, none => .accomplished) := by
  rw [verdict, objective]
  simp only [Occupancy.verdict, hreached, hcrossed, hgate, hkey, Bind.bind, Except.bind]
  cases reached <;> cases crossed <;> cases Occupancy.orderFailure? gateStep keyStep <;> rfl

theorem Deserves.verdict_eq {v : Verdict} (h : s.Deserves t v) : s.verdict t = .ok v := by
  have declared := s.declared
  have listed : ∀ {name}, name ∈ s.regionNames → name ∈ (s.occupancy t).regionNames := by
    rw [regionNames_occupancy]
    exact id
  cases h with
  | goalMissed objective missed =>
    rw [objective, Objective.references, List.forall_mem_cons] at declared
    obtain ⟨crossed, hcrossed⟩ := Occupancy.firstEntered_of_subset
      fun name hname => listed (declared.2 name hname)
    exact verdict_of_reachAvoid objective (everInside_of_not_enters declared.1 missed) hcrossed
  | obstacle objective reached crossed =>
    rw [objective, Objective.references, List.forall_mem_cons] at declared
    exact verdict_of_reachAvoid objective reached.everInside (crossed.firstEntered declared.2)
  | reached objective reached clear =>
    rw [objective, Objective.references, List.forall_mem_cons] at declared
    exact verdict_of_reachAvoid objective reached.everInside
      (firstEntered_of_clear declared.2 clear)
  | targetMissed objective missed =>
    simp only [objective, Objective.references, List.forall_mem_cons] at declared
    obtain ⟨htarget, hgate, hkey, hwalls⟩ := declared
    obtain ⟨crossed, hcrossed⟩ := Occupancy.firstEntered_of_subset
      fun name hname => listed (hwalls name hname)
    obtain ⟨gateStep, hgateStep⟩ := Occupancy.firstEntry_of_mem (listed hgate)
    obtain ⟨keyStep, hkeyStep⟩ := Occupancy.firstEntry_of_mem (listed hkey)
    exact verdict_of_orderedAccess objective (everInside_of_not_enters htarget missed) hcrossed
      hgateStep hkeyStep
  | wall objective reached crossed =>
    simp only [objective, Objective.references, List.forall_mem_cons] at declared
    obtain ⟨-, hgate, hkey, hwalls⟩ := declared
    obtain ⟨gateStep, hgateStep⟩ := Occupancy.firstEntry_of_mem (listed hgate)
    obtain ⟨keyStep, hkeyStep⟩ := Occupancy.firstEntry_of_mem (listed hkey)
    exact verdict_of_orderedAccess objective reached.everInside (crossed.firstEntered hwalls)
      hgateStep hkeyStep
  | tooEarly objective reached clear early gateEntry keyEntry =>
    simp only [objective, Objective.references, List.forall_mem_cons] at declared
    obtain ⟨-, -, -, hwalls⟩ := declared
    have lt := (gateEntry.passesTooEarly_iff keyEntry).mp early
    have verdict := verdict_of_orderedAccess objective reached.everInside
      (firstEntered_of_clear hwalls clear) gateEntry.firstEntry keyEntry.firstEntry
    rw [Occupancy.orderFailure?, if_pos lt] at verdict
    exact verdict
  | inOrder objective reached clear inOrder =>
    simp only [objective, Objective.references, List.forall_mem_cons] at declared
    obtain ⟨-, hgate, hkey, hwalls⟩ := declared
    obtain ⟨gateStep, keyStep, hgateStep, hkeyStep, unfailed⟩ :=
      exists_entries_in_order hgate hkey inOrder
    have verdict := verdict_of_orderedAccess objective reached.everInside
      (firstEntered_of_clear hwalls clear) hgateStep hkeyStep
    rw [unfailed] at verdict
    exact verdict

/-! ## Main result -/

theorem verdict_eq_ok_iff {v : Verdict} : s.verdict t = .ok v ↔ s.Deserves t v := by
  constructor
  · intro same
    obtain ⟨w, deserved⟩ := exists_deserves s t
    cases same.symm.trans deserved.verdict_eq
    exact deserved
  · exact Deserves.verdict_eq

/-- A gate or a key that is never entered, or both entered at once, are
no failure of order. -/
theorem not_passesTooEarly {gate key : String}
    (h : ¬ s.Enters t gate ∨ ¬ s.Enters t key ∨
      ∃ step, s.EntersAt t gate step ∧ s.EntersAt t key step) :
    ¬ s.PassesTooEarly t gate key := by
  intro early
  rcases h with never | never | ⟨step, gateEntry, keyEntry⟩
  · exact never early.enters.1
  · exact never early.enters.2
  · exact Nat.lt_irrefl step ((gateEntry.passesTooEarly_iff keyEntry).mp early)

/-- A trajectory always has a verdict, and it is the one that it deserves by where its
samples lie. No failure of order is reported unless gate and key are both entered, at
different steps, and a sample without a proper place is in no region. -/
theorem verdict_is_deserved (s : Scenario) (t : Trajectory) :
    (∃ v, s.verdict t = .ok v) ∧ (∀ v, s.verdict t = .ok v ↔ s.Deserves t v) ∧
      (∀ target walls gate key, s.objective = .orderedAccess target walls gate key →
        (¬ s.Enters t gate ∨ ¬ s.Enters t key ∨
          ∃ step, s.EntersAt t gate step ∧ s.EntersAt t key step) →
        ∀ gateStep keyStep, s.verdict t ≠ .ok (.failed (.gateBeforeKey gateStep keyStep))) ∧
      ∀ step x, t.states[step]? = some x → x.position.isNowhere = true →
        ∀ name, ¬ s.InsideAt t name step := by
  refine ⟨s.exists_verdict t, fun v => verdict_eq_ok_iff, ?_, ?_⟩
  · intro target walls gate key objective harmless gateStep keyStep same
    cases verdict_eq_ok_iff.mp same with
    | tooEarly objective' _ _ early =>
      cases objective.symm.trans objective'
      exact not_passesTooEarly harmless early
  · rintro step x sample nowhere name ⟨r, -, -, x', sample', holds⟩
    cases sample.symm.trans sample'
    cases nowhere.symm.trans holds.not_isNowhere

end Scenario
end Sortie
