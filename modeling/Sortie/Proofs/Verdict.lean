import Sortie.Verdict
/-!
# Verdicts of checked scenarios

An objective of a checked scenario refers to declared regions only, and an occupancy has a
row for each declared region. So the verdict of a trajectory is never a fault.
-/

namespace Sortie

namespace Occupancy

theorem row?_eq_none_iff {o : Occupancy} {name : String} :
    o.row? name = none ↔ name ∉ o.regionNames := by
  rw [row?, List.lookup_eq_none_iff, regionNames, List.mem_map]
  constructor
  · rintro other ⟨entry, listed, rfl⟩
    simpa using other entry listed
  · intro absent entry listed
    simpa using fun same : name = entry.1 => absent ⟨entry, listed, same.symm⟩

theorem row_of_mem {o : Occupancy} {name : String} (h : name ∈ o.regionNames) :
    ∃ r, o.row name = .ok r := by
  cases hrow : o.row? name with
  | none => exact absurd h (row?_eq_none_iff.mp hrow)
  | some r => exact ⟨r, by rw [row, hrow]⟩

theorem firstEntry_of_mem {o : Occupancy} {name : String} (h : name ∈ o.regionNames) :
    ∃ step, o.firstEntry name = .ok step := by
  obtain ⟨r, hr⟩ := row_of_mem h
  exact ⟨firstStep? r, by rw [firstEntry, hr]; rfl⟩

theorem everInside_of_mem {o : Occupancy} {name : String} (h : name ∈ o.regionNames) :
    ∃ inside, o.everInside name = .ok inside := by
  obtain ⟨step, hstep⟩ := firstEntry_of_mem h
  exact ⟨step.isSome, by rw [everInside, hstep]; rfl⟩

theorem firstEntered_of_subset {o : Occupancy} {names : List String}
    (h : ∀ name ∈ names, name ∈ o.regionNames) :
    ∃ entered, o.firstEntered names = .ok entered := by
  induction names with
  | nil => exact ⟨none, rfl⟩
  | cons name rest ih =>
    obtain ⟨inside, hinside⟩ := everInside_of_mem (h name (by simp))
    obtain ⟨entered, hentered⟩ := ih (fun n hn => h n (by simp [hn]))
    cases inside with
    | true => exact ⟨some name, by rw [firstEntered, hinside]; rfl⟩
    | false => exact ⟨entered, by rw [firstEntered, hinside]; exact hentered⟩

/-- An occupancy with a row for each region that an objective refers to has a verdict. -/
theorem verdict_of_references {o : Occupancy} {objective : Objective}
    (h : ∀ name ∈ objective.references, name ∈ o.regionNames) :
    ∃ v, o.verdict objective = .ok v := by
  cases objective with
  | reachAvoid goal obstacles =>
    simp only [Objective.references, List.forall_mem_cons] at h
    obtain ⟨reached, hreached⟩ := everInside_of_mem h.1
    obtain ⟨crossed, hcrossed⟩ := firstEntered_of_subset h.2
    simp only [verdict, hreached, hcrossed, Bind.bind, Except.bind]
    cases reached <;> cases crossed <;> exact ⟨_, rfl⟩
  | orderedAccess target walls gate key =>
    simp only [Objective.references, List.forall_mem_cons] at h
    obtain ⟨htarget, hgate, hkey, hwalls⟩ := h
    obtain ⟨reached, hreached⟩ := everInside_of_mem htarget
    obtain ⟨crossed, hcrossed⟩ := firstEntered_of_subset hwalls
    obtain ⟨gateStep, hgateStep⟩ := firstEntry_of_mem hgate
    obtain ⟨keyStep, hkeyStep⟩ := firstEntry_of_mem hkey
    simp only [verdict, hreached, hcrossed, hgateStep, hkeyStep, Bind.bind, Except.bind]
    cases reached <;> cases crossed <;> cases orderFailure? gateStep keyStep <;> exact ⟨_, rfl⟩

end Occupancy

/-- The verdict, told by the first entry into each region. -/
def Objective.verdictOf (entry : String → Option Nat) : Objective → Verdict
  | .reachAvoid goal obstacles =>
    if (entry goal).isNone then .failed .goalNotReached
    else match obstacles.find? fun name => (entry name).isSome with
      | some name => .failed (.obstacleCrossed name)
      | none => .accomplished
  | .orderedAccess target walls gate key =>
    if (entry target).isNone then .failed .targetNotReached
    else match walls.find? (fun name => (entry name).isSome), entry gate, entry key with
      | some name, _, _ => .failed (.wallCrossed name)
      | none, some gateStep, some keyStep =>
        if gateStep < keyStep then .failed (.gateBeforeKey gateStep keyStep) else .accomplished
      | none, _, _ => .accomplished

namespace Occupancy

variable {o : Occupancy} {entry : String → Option Nat}

theorem everInside_of_entry {name : String} (h : o.firstEntry name = .ok (entry name)) :
    o.everInside name = .ok (entry name).isSome := by
  rw [everInside, h]
  rfl

theorem firstEntered_of_entries {names : List String}
    (h : ∀ name ∈ names, o.firstEntry name = .ok (entry name)) :
    o.firstEntered names = .ok (names.find? fun name => (entry name).isSome) := by
  induction names with
  | nil => rfl
  | cons name rest ih =>
    rw [List.forall_mem_cons] at h
    rw [firstEntered, everInside_of_entry h.1, List.find?_cons]
    cases entered : (entry name).isSome with
    | true => rfl
    | false => exact ih h.2

/-- Nothing but the first entries counts. -/
theorem verdict_of_entries {objective : Objective}
    (h : ∀ name ∈ objective.references, o.firstEntry name = .ok (entry name)) :
    o.verdict objective = .ok (objective.verdictOf entry) := by
  cases objective with
  | reachAvoid goal obstacles =>
    simp only [Objective.references, List.forall_mem_cons] at h
    simp only [verdict, everInside_of_entry h.1, firstEntered_of_entries h.2, Bind.bind,
      Except.bind, Objective.verdictOf]
    cases entry goal <;> cases obstacles.find? fun name => (entry name).isSome <;> rfl
  | orderedAccess target walls gate key =>
    simp only [Objective.references, List.forall_mem_cons] at h
    obtain ⟨htarget, hgate, hkey, hwalls⟩ := h
    simp only [verdict, everInside_of_entry htarget, firstEntered_of_entries hwalls, hgate, hkey,
      Bind.bind, Except.bind, Objective.verdictOf]
    cases entry target with
    | none => rfl
    | some step =>
      cases walls.find? fun name => (entry name).isSome with
      | some name => rfl
      | none =>
        rcases entry gate with _ | gateStep
        · rfl
        · rcases entry key with _ | keyStep
          · rfl
          · by_cases early : gateStep < keyStep <;> simp [orderFailure?, early] <;> rfl

end Occupancy

theorem Scenario.regionNames_occupancy (s : Scenario) (t : Trajectory) :
    (s.occupancy t).regionNames = s.toDescription.regionNames := by
  simp [occupancy, Occupancy.ofTrajectory, Occupancy.regionNames, Description.regionNames]

/-- A trajectory always has a verdict in a checked scenario. -/
theorem Scenario.exists_verdict (s : Scenario) (t : Trajectory) : ∃ v, s.verdict t = .ok v := by
  refine Occupancy.verdict_of_references fun name hname => ?_
  rw [regionNames_occupancy]
  exact s.declared name hname

end Sortie
