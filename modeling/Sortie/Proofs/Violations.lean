import Sortie.Proofs.Geometry
import Sortie.Scenario.Catalogue
/-!
# Violations stay

A trajectory that is flown on along more legs keeps its samples, so what it has entered
stays entered, and at the same step. A goal that is missed may still be reached; a crossed
wall, or a gate passed before the key, can not be made good (`violations_are_irrevocable`).
A gate passed while the key has never been reached is no failure yet, but becomes one with
the first leg that reaches the key.
-/

namespace Sortie

/-- Only the first sample of each leg is left out. -/
theorem Trajectory.states_foldl_append {t : Trajectory} (flown : t.states ≠ [])
    (legs : List Trajectory) :
    (legs.foldl append t).states = t.states ++ legs.flatMap (·.states.tail) := by
  induction legs generalizing t with
  | nil => simp
  | cons leg rest ih =>
    have longer : (t.append leg).states ≠ [] := by
      rw [append_states flown]
      simp [flown]
    rw [List.foldl_cons, ih longer, append_states flown, List.flatMap_cons, List.append_assoc]

/-- The regions that an objective forbids. -/
def Objective.forbidden : Objective → List String
  | reachAvoid _ obstacles => obstacles
  | orderedAccess _ walls _ _ => walls

namespace Scenario

variable {s : Scenario} {t t' : Trajectory} {name : String} {step : Nat}

/-! ## Places that stay -/

theorem InsideAt.lt_length (h : s.InsideAt t name step) : step < t.length := by
  obtain ⟨r, -, -, x, sample, -⟩ := h
  exact (List.getElem?_eq_some_iff.mp sample).1

theorem Enters.flown (h : s.Enters t name) : t.states ≠ [] := by
  obtain ⟨step, inside⟩ := h
  exact List.ne_nil_of_length_pos (Nat.zero_lt_of_lt inside.lt_length)

section

variable (kept : t.states <+: t'.states)

include kept

/-- What is added comes after the steps that were flown. -/
theorem insideAt_extended_iff (bound : step < t.length) :
    s.InsideAt t' name step ↔ s.InsideAt t name step := by
  obtain ⟨more, same⟩ := kept
  rw [InsideAt, InsideAt, ← same, List.getElem?_append_left bound]

theorem InsideAt.extended (h : s.InsideAt t name step) : s.InsideAt t' name step :=
  (insideAt_extended_iff kept h.lt_length).mpr h

theorem Enters.extended (h : s.Enters t name) : s.Enters t' name := by
  obtain ⟨step, inside⟩ := h
  exact ⟨step, inside.extended kept⟩

/-- A region that was entered is not entered for the first time again. -/
theorem EntersAt.extended (h : s.EntersAt t name step) : s.EntersAt t' name step := by
  refine ⟨h.1.extended kept, fun earlier lt inside => h.2 earlier lt ?_⟩
  exact (insideAt_extended_iff kept (Nat.lt_trans lt h.1.lt_length)).mp inside

/-- A key that was not reached before the gate comes too late. -/
theorem passesTooEarly_of_extended {gate key : String} (passed : s.Enters t gate)
    (unreached : ¬ s.Enters t key) (reached : s.Enters t' key) : s.PassesTooEarly t' gate key := by
  obtain ⟨step, atGate⟩ := passed
  obtain ⟨later, atKey⟩ := reached
  have notYet : ∀ earlier < t.length, ¬ s.InsideAt t' key earlier := fun earlier bound inside =>
    unreached ⟨earlier, (insideAt_extended_iff kept bound).mp inside⟩
  have bound : step < t.length := atGate.lt_length
  refine ⟨step, atGate.extended kept, fun earlier le => notYet earlier (by omega), later, ?_, atKey⟩
  exact Nat.lt_of_lt_of_le bound (Nat.le_of_not_lt fun lt => notYet later lt atKey)

end

theorem EntersAt.unique {step' : Nat} (h : s.EntersAt t name step) (h' : s.EntersAt t name step') :
    step = step' := by
  rcases Nat.lt_trichotomy step step' with lt | rfl | lt
  · exact (h'.2 step lt h.1).elim
  · rfl
  · exact (h.2 step' lt h'.1).elim

/-! ## Verdicts on violations -/

/-- Who crosses a forbidden region fails, and not for the order of gate and key. -/
theorem Deserves.of_crossed {v : Verdict} (deserved : s.Deserves t v)
    (crossed : ∃ name ∈ s.objective.forbidden, s.Enters t name) :
    ∃ reason, v = .failed reason ∧
      ∀ gateStep keyStep, reason ≠ .gateBeforeKey gateStep keyStep := by
  obtain ⟨name, forbidden, enters⟩ := crossed
  cases deserved with
  | goalMissed | obstacle | targetMissed | wall => exact ⟨_, rfl, nofun⟩
  | reached objective _ clear =>
    rw [objective] at forbidden
    exact (clear name forbidden enters).elim
  | tooEarly objective _ clear | inOrder objective _ clear =>
    rw [objective] at forbidden
    exact (clear name forbidden enters).elim

/-- Who passes the gate too early fails, and if it is for that, then at
the first entries. -/
theorem Deserves.of_passesTooEarly {v : Verdict} {target gate key : String} {walls : List String}
    (deserved : s.Deserves t v) (objective : s.objective = .orderedAccess target walls gate key)
    (early : s.PassesTooEarly t gate key) :
    ∃ reason, v = .failed reason ∧ ∀ gateStep keyStep, reason = .gateBeforeKey gateStep keyStep →
      s.EntersAt t gate gateStep ∧ s.EntersAt t key keyStep := by
  cases deserved with
  | goalMissed objective' | obstacle objective' | reached objective' =>
    cases objective.symm.trans objective'
  | targetMissed | wall => exact ⟨_, rfl, nofun⟩
  | tooEarly objective' _ _ _ gateEntry keyEntry =>
    cases objective.symm.trans objective'
    refine ⟨_, rfl, ?_⟩
    rintro _ _ ⟨⟩
    exact ⟨gateEntry, keyEntry⟩
  | inOrder objective' _ _ inOrder =>
    cases objective.symm.trans objective'
    exact (inOrder early).elim

/-- The verdict that the target and the walls alone decide. -/
inductive DecidedByWalls (s : Scenario) (t : Trajectory) (target : String) (walls : List String) :
    Verdict → Prop
  | targetMissed (missed : ¬ s.Enters t target) :
      DecidedByWalls s t target walls (.failed .targetNotReached)
  | wall {name : String} (reached : s.Enters t target) (crossed : s.EntersFirst t walls name) :
      DecidedByWalls s t target walls (.failed (.wallCrossed name))
  | reached (reached : s.Enters t target) (clear : ∀ name ∈ walls, ¬ s.Enters t name) :
      DecidedByWalls s t target walls .accomplished

theorem deserves_iff_decidedByWalls {v : Verdict} {target gate key : String} {walls : List String}
    (objective : s.objective = .orderedAccess target walls gate key)
    (inOrder : ¬ s.PassesTooEarly t gate key) :
    s.Deserves t v ↔ s.DecidedByWalls t target walls v := by
  constructor
  · intro deserved
    cases deserved with
    | goalMissed objective' | obstacle objective' | reached objective' =>
      cases objective.symm.trans objective'
    | targetMissed objective' missed =>
      cases objective.symm.trans objective'
      exact .targetMissed missed
    | wall objective' reached crossed =>
      cases objective.symm.trans objective'
      exact .wall reached crossed
    | tooEarly objective' _ _ early =>
      cases objective.symm.trans objective'
      exact (inOrder early).elim
    | inOrder objective' reached clear =>
      cases objective.symm.trans objective'
      exact .reached reached clear
  · intro decided
    cases decided with
    | targetMissed missed => exact .targetMissed objective missed
    | wall reached crossed => exact .wall objective reached crossed
    | reached reached clear => exact .inOrder objective reached clear inOrder

/-! ## Main result -/

/-- However a trajectory is flown on, a forbidden region that it crossed fails it, and so
does a gate that it entered before the key; if this order is what is reported, it is with
the same two steps. A gate without the key counts for nothing until some leg reaches the
key, and from then on fails it. -/
theorem violations_are_irrevocable (s : Scenario) (t : Trajectory) (legs : List Trajectory) :
    let flown := legs.foldl Trajectory.append t
    ((∃ name ∈ s.objective.forbidden, s.Enters t name) →
      ∃ reason, s.verdict flown = .ok (.failed reason) ∧
        ∀ gateStep keyStep, reason ≠ .gateBeforeKey gateStep keyStep) ∧
    ∀ target walls gate key, s.objective = .orderedAccess target walls gate key →
      (∀ gateStep keyStep, s.EntersAt t gate gateStep → s.EntersAt t key keyStep →
        gateStep < keyStep →
        ∃ reason, s.verdict flown = .ok (.failed reason) ∧
          ∀ gateStep' keyStep', reason = .gateBeforeKey gateStep' keyStep' →
            gateStep' = gateStep ∧ keyStep' = keyStep) ∧
      (s.Enters t gate → ¬ s.Enters t key →
        (∀ v, s.verdict t = .ok v ↔ s.DecidedByWalls t target walls v) ∧
        ((∃ leg ∈ legs, ∃ x ∈ leg.states.tail, ∃ r ∈ s.regions,
            r.name = key ∧ r.region.Holds x.position) →
          ∃ reason, s.verdict flown = .ok (.failed reason))) := by
  intro flown
  have way : ∀ {name}, s.Enters t name →
      flown.states = t.states ++ legs.flatMap (·.states.tail) := fun enters =>
    Trajectory.states_foldl_append enters.flown legs
  have kept : ∀ {name}, s.Enters t name → t.states <+: flown.states := fun enters =>
    ⟨_, (way enters).symm⟩
  obtain ⟨v, verdict⟩ := s.exists_verdict flown
  have deserved : s.Deserves flown v := verdict_eq_ok_iff.mp verdict
  rw [verdict]
  refine ⟨?_, fun target walls gate key objective => ⟨?_, fun passed unreached => ⟨?_, ?_⟩⟩⟩
  · rintro ⟨name, forbidden, enters⟩
    obtain ⟨reason, rfl, other⟩ :=
      deserved.of_crossed ⟨name, forbidden, enters.extended (kept enters)⟩
    exact ⟨reason, rfl, other⟩
  · intro gateStep keyStep gateEntry keyEntry lt
    have stays := kept ⟨gateStep, gateEntry.1⟩
    have gateEntry := gateEntry.extended stays
    have keyEntry := keyEntry.extended stays
    obtain ⟨reason, rfl, steps⟩ := deserved.of_passesTooEarly objective
      ((gateEntry.passesTooEarly_iff keyEntry).mpr lt)
    refine ⟨reason, rfl, fun gateStep' keyStep' same => ?_⟩
    obtain ⟨gateEntry', keyEntry'⟩ := steps gateStep' keyStep' same
    exact ⟨gateEntry'.unique gateEntry, keyEntry'.unique keyEntry⟩
  · intro v
    rw [verdict_eq_ok_iff]
    exact deserves_iff_decidedByWalls objective fun early => unreached early.enters.2
  · rintro ⟨leg, hleg, x, sample, r, hr, named, holds⟩
    have flew : x ∈ flown.states := by
      rw [way passed]
      exact List.mem_append_right _ (List.mem_flatMap.mpr ⟨leg, hleg, sample⟩)
    obtain ⟨step, hstep⟩ := List.mem_iff_getElem?.mp flew
    have reached : s.Enters flown key := ⟨step, r, hr, named, x, hstep, holds⟩
    obtain ⟨reason, rfl, -⟩ := deserved.of_passesTooEarly objective
      (passesTooEarly_of_extended (kept passed) passed unreached reached)
    exact ⟨reason, rfl⟩

end Scenario

namespace Catalogue

/-- The treasure hunt, checked. -/
def hunt : Scenario where
  toDescription := treasureHunt
  nodup_names := by decide
  declared := by decide
  duration_pos := by decide

/-- From the start into the door. -/
def intoDoor : Trajectory :=
  ⟨[.atRest 3 (-4) 0.5, .atRest 0.25 (-2) 1]⟩

/-- From the door to the key, and then to the chest. -/
def keyAndChest : List Trajectory :=
  [⟨[.atRest 0.25 (-2) 1, .atRest 4 4 1.5]⟩, ⟨[.atRest 4 4 1.5, .atRest (-4) (-4) 0.5]⟩]

/-- The chest alone was missing while the key had not been reached; with
the key it is too late. -/
theorem hunt_for_late_key_fails :
    hunt.verdict intoDoor = .ok (.failed .targetNotReached) ∧
      ∃ reason, hunt.verdict (keyAndChest.foldl Trajectory.append intoDoor) =
        .ok (.failed reason) := by
  have passed : hunt.EntersAt intoDoor "door" 1 :=
    (Scenario.firstEntry_eq_some_iff (by decide)).mp rfl
  have unreached : ¬ hunt.Enters intoDoor "door_key" :=
    (Scenario.firstEntry_eq_none_iff (by decide)).mp rfl
  obtain ⟨-, access⟩ := Scenario.violations_are_irrevocable hunt intoDoor keyAndChest
  obtain ⟨-, late⟩ := access _ _ _ _ rfl
  obtain ⟨decided, fails⟩ := late ⟨1, passed.1⟩ unreached
  have missed : ¬ hunt.Enters intoDoor "chest" :=
    (Scenario.firstEntry_eq_none_iff (by decide)).mp rfl
  refine ⟨(decided _).mpr (.targetMissed missed), fails ?_⟩
  refine ⟨⟨[.atRest 0.25 (-2) 1, .atRest 4 4 1.5]⟩, by simp [keyAndChest], .atRest 4 4 1.5, by simp,
    ⟨"door_key", ⟨3.75, 4.75, 3.75, 4.75, 1, 2⟩⟩, by simp [hunt, treasureHunt], rfl, ?_⟩
  exact Region.contains_iff.mp (by decide)

end Catalogue
end Sortie
