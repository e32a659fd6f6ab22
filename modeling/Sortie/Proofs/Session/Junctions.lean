import Sortie.Proofs.Geometry
import Sortie.Proofs.Session.Endings
import Sortie.Proofs.Session.Legs
/-!
# Where legs meet

Each leg begins where the one before it ended, and its first sample is left out when it is
flown. If the solver keeps to where it was asked to begin, nothing is lost by this: from
the step at which a leg begins, the mission is in the same regions as the leg, step by
step. The main result reads the first entries of a whole mission, and thus its verdict, off
the occupancies of its legs.
-/

namespace Sortie

open Session Float.Model

/-! ## Places -/

/-- The same number, or both are none. The two zeros are the same number. -/
def SameNumber (a b : Float) : Prop :=
  a = b ∨ (a == b) = true

/-- The same place, coordinate by coordinate. -/
structure Point.SamePlace (p q : Point) : Prop where
  x : SameNumber p.x q.x
  y : SameNumber p.y q.y
  z : SameNumber p.z q.z

/-- What compares as equal is the same or two zeros. -/
theorem eq_or_zeros_of_compare {u v : UnpackedFloat} (h : u.compare v = some .eq) :
    u = v ∨ ∃ s t, u = .zero s ∧ v = .zero t := by
  cases u with
  | notANumber => cases h
  | infinity s =>
    cases v with
    | infinity t => cases s <;> cases t <;> first | exact .inl rfl | cases h
    | notANumber | zero | finite => cases s <;> cases h
  | zero s =>
    cases v with
    | zero t => exact .inr ⟨s, t, rfl, rfl⟩
    | notANumber => cases h
    | infinity t | finite t => cases t <;> cases h
  | finite s m e =>
    cases v with
    | notANumber | zero => cases s <;> cases h
    | infinity t => cases s <;> cases t <;> cases h
    | finite t m' e' =>
      have same : s = t ∧ (compare e e').then (compare m m') = .eq := by
        cases s <;> cases t
        · exact ⟨rfl, Ordering.swap_eq_eq.mp (Option.some.inj h)⟩
        · cases h
        · cases h
        · exact ⟨rfl, Option.some.inj h⟩
      obtain ⟨rfl, compared⟩ := same
      obtain ⟨exponents, mantissas⟩ := Ordering.then_eq_eq.mp compared
      cases Std.LawfulEqOrd.compare_eq_iff_eq.mp exponents
      cases Std.LawfulEqOrd.compare_eq_iff_eq.mp mantissas
      exact .inl rfl

theorem compare_congr {u v : UnpackedFloat} (h : u.compare v = some .eq) (w : UnpackedFloat) :
    w.compare u = w.compare v ∧ u.compare w = v.compare w := by
  rcases eq_or_zeros_of_compare h with rfl | ⟨s, t, rfl, rfl⟩
  · exact ⟨rfl, rfl⟩
  · cases w with
    | notANumber | zero => exact ⟨rfl, rfl⟩
    | infinity r | finite r => cases r <;> exact ⟨rfl, rfl⟩

theorem le_iff_compare {a b : Float} :
    a ≤ b ↔ (a.toModel.unpack.compare b.toModel.unpack).any (·.isLE) = true :=
  ⟨of_decide_eq_true, decide_eq_true⟩

theorem SameNumber.le_congr {a b : Float} (h : SameNumber a b) (c : Float) :
    (c ≤ a ↔ c ≤ b) ∧ (a ≤ c ↔ b ≤ c) := by
  rcases h with rfl | equal
  · exact ⟨.rfl, .rfl⟩
  · have equal : a.toModel.unpack.compare b.toModel.unpack = some .eq := eq_of_beq equal
    obtain ⟨right, left⟩ := compare_congr equal c.toModel.unpack
    rw [le_iff_compare, le_iff_compare, le_iff_compare, le_iff_compare, right, left]
    exact ⟨.rfl, .rfl⟩

/-- No box tells the two apart. -/
theorem Point.SamePlace.contains_eq {p q : Point} (h : p.SamePlace q) (r : Region) :
    r.contains p = r.contains q := by
  simp only [Region.contains, (h.x.le_congr _).1, (h.x.le_congr _).2, (h.y.le_congr _).1,
    (h.y.le_congr _).2, (h.z.le_congr _).1, (h.z.le_congr _).2]

/-! ## Where legs begin -/

/-- Each leg that the solver found begins where the solver was asked to begin. -/
def BeginAsAsked (log : List Event) : Prop :=
  ∀ request outcome leg controls, .solverAsked request outcome ∈ log →
    outcome.checked = .feasible leg controls →
    ∀ first, leg.states.head? = some first → first.position.SamePlace request.start.position

/-- Each leg begins where those before it ended. -/
def Joined (x0 : State) (legs : List Trajectory) : Prop :=
  ∀ flown leg more, legs = flown ++ leg :: more → ∃ start first,
    StartsAfter x0 flown start ∧ leg.states.head? = some first ∧
      first.position.SamePlace start.position

theorem modifyLast_eq_append {legs before after : List FoundLeg} {l : FoundLeg}
    (f : FoundLeg → FoundLeg) (same : ∀ l, (f l).leg = l.leg)
    (h : legs.modifyLast f = before ++ l :: after) :
    ∃ l' after', legs = before ++ l' :: after' ∧ l'.leg = l.leg := by
  rcases List.eq_nil_or_concat legs with rfl | ⟨init, last, rfl⟩
  · simp [List.modifyLast, List.modifyLast.go] at h
  · rw [List.concat_eq_append, List.modifyLast_concat] at h
    rw [List.concat_eq_append]
    rcases List.eq_nil_or_concat after with rfl | ⟨after', last', rfl⟩
    · obtain ⟨rfl, hlast⟩ := List.append_inj' h rfl
      cases hlast
      exact ⟨last, [], rfl, (same last).symm⟩
    · rw [List.concat_eq_append, ← List.cons_append, ← List.append_assoc] at h
      obtain ⟨rfl, -⟩ := List.append_inj' h rfl
      exact ⟨l, after' ++ [last], by simp, rfl⟩

/-- What an event notes about legs: it finds the next one, or the legs
stay the same ones. -/
theorem FoundLeg.note_eq_append {rules : Rules} {legs before after : List FoundLeg} {l : FoundLeg}
    {e : Event} (h : note rules legs e = before ++ l :: after) :
    (legs = before ∧ ∃ request outcome controls, e = .solverAsked request outcome ∧
      outcome.checked = .feasible l.leg controls) ∨
    ∃ l' after', legs = before ++ l' :: after' ∧ l'.leg = l.leg := by
  cases e with
  | printed line => exact .inr ⟨l, after, h, rfl⟩
  | modelAsked purpose messages reply =>
    cases purpose with
    | conversation | repair => exact .inr ⟨l, after, h, rfl⟩
    | judgement => exact .inr (modifyLast_eq_append (withReply reply) (fun _ => rfl) h)
  | operatorAsked prompt line =>
    rw [note] at h
    split at h
    · exact .inr (modifyLast_eq_append (withWord line) (fun _ => rfl) h)
    · exact .inr ⟨l, after, h, rfl⟩
  | solverAsked request outcome =>
    simp only [note] at h
    split at h
    · rename_i leg controls checked
      rcases List.eq_nil_or_concat after with rfl | ⟨after', last, rfl⟩
      · obtain ⟨rfl, hl⟩ := List.append_inj' h rfl
        cases hl
        exact .inl ⟨rfl, request, outcome, controls, rfl, checked⟩
      · rw [List.concat_eq_append, ← List.cons_append, ← List.append_assoc] at h
        obtain ⟨rfl, -⟩ := List.append_inj' h rfl
        exact .inr ⟨l, after', rfl, rfl⟩
    · exact .inr ⟨l, after, h, rfl⟩

/-- A leg was found when the legs before it were all that had been found. -/
theorem exists_solve_of_foundLegs {rules : Rules} {log : List Event} {before after : List FoundLeg}
    {l : FoundLeg} (h : foundLegs rules log = before ++ l :: after) :
    ∃ earlier request outcome controls rest,
      log = earlier ++ .solverAsked request outcome :: rest ∧
      outcome.checked = .feasible l.leg controls ∧ foundLegs rules earlier = before := by
  induction log using List.reverseRecOn generalizing l after with
  | nil => simp [foundLegs] at h
  | append_singleton log e ih =>
    -- either the last event found the leg, or it was there before
    rw [foundLegs_concat] at h
    rcases FoundLeg.note_eq_append h with
      ⟨found, request, outcome, controls, rfl, checked⟩ | ⟨l', after', found, same⟩
    · exact ⟨log, request, outcome, controls, [], rfl, checked, found⟩
    · obtain ⟨earlier, request, outcome, controls, rest, rfl, checked, first⟩ := ih found
      exact ⟨earlier, request, outcome, controls, rest ++ [e], by simp, same ▸ checked, first⟩

theorem exists_found_of_accepted {rules : Rules} {legs : List FoundLeg} {leg : Trajectory}
    {flown more : List Trajectory} (h : accepted rules legs = flown ++ leg :: more) :
    ∃ before l after, legs = before ++ l :: after ∧ l.leg = leg ∧
      accepted rules before = flown := by
  obtain ⟨front, back, split, rfl, hback⟩ := List.map_eq_append_iff.mp h
  obtain ⟨l, back', rfl, rfl, -⟩ := List.map_eq_cons_iff.mp hback
  obtain ⟨before, rest, rfl, hbefore, hrest⟩ := List.filter_eq_append_iff.mp split
  obtain ⟨skipped, after, rfl, refused, -, -⟩ := List.filter_eq_cons_iff.mp hrest
  refine ⟨before ++ skipped, l, after, by simp, rfl, ?_⟩
  have none : skipped.filter (·.isAccepted rules) = [] :=
    List.filter_eq_nil_iff.mpr fun l hl => refused l hl
  rw [accepted, List.filter_append, hbefore, none, List.append_nil]

/-- If the solver begins as it was asked to, each accepted leg begins where
those before it ended. -/
theorem joined_acceptedLegs {mission : Mission} {answers : List Answer}
    (asked : BeginAsAsked (Session.after mission answers).log) :
    Joined mission.scenario.start
      (acceptedLegs mission.rules (Session.after mission answers).log) := by
  intro flown leg more split
  obtain ⟨before, l, after, found, rfl, rfl⟩ := exists_found_of_accepted split
  obtain ⟨earlier, request, outcome, controls, rest, hlog, checked, rfl⟩ :=
    exists_solve_of_foundLegs found
  obtain ⟨-, each⟩ := (Invariant.asksToGoOn mission).after answers
  have starts := each earlier _ rest hlog request outcome rfl
  rw [show (Juncture.waiting (Session.after mission answers)).session.mission = mission from
    mission_after mission answers] at starts
  obtain ⟨first, hfirst⟩ :=
    Option.isSome_iff_exists.mp (List.isSome_head?.mpr (Outcome.checked_feasible checked))
  refine ⟨request.start, first, starts, hfirst, ?_⟩
  exact asked request outcome l.leg controls (by rw [hlog]; simp) checked first hfirst

/-! ## Steps -/

/-- The number of steps that legs take: the step of a mission at which
the next leg begins. -/
def stepsAlong : List Trajectory → Nat
  | [] => 0
  | leg :: rest => (leg.length - 1) + stepsAlong rest

theorem stepsAlong_concat (legs : List Trajectory) (leg : Trajectory) :
    stepsAlong (legs ++ [leg]) = stepsAlong legs + (leg.length - 1) := by
  induction legs with
  | nil => exact Nat.add_comm _ 0
  | cons first rest ih => rw [List.cons_append, stepsAlong, ih, stepsAlong, Nat.add_assoc]

theorem length_route (x0 : State) (legs : List Trajectory) :
    (route x0 legs).length = 1 + stepsAlong legs := by
  induction legs using List.reverseRecOn with
  | nil => rfl
  | append_singleton legs leg ih =>
    rw [route_concat, List.length_append, ih, stepsAlong_concat, List.length_tail]
    exact Nat.add_assoc ..

namespace Joined

variable {x0 : State} {legs : List Trajectory}

theorem front {more : List Trajectory} (h : Joined x0 (legs ++ more)) : Joined x0 legs := by
  rintro flown leg rest rfl
  exact h flown leg (rest ++ more) (by simp)

theorem samples (h : Joined x0 legs) : ∀ leg ∈ legs, 0 < leg.length := by
  intro leg hleg
  obtain ⟨flown, more, split⟩ := List.append_of_mem hleg
  obtain ⟨start, first, -, hfirst, -⟩ := h flown leg more split
  rw [Trajectory.length, List.length_pos_iff]
  rintro none
  rw [none] at hfirst
  cases hfirst

/-- A mission ends in the same regions as its last leg. -/
theorem contains_getLast? (h : Joined x0 legs) {start x : State}
    (starts : StartsAfter x0 legs start) (last : (route x0 legs).getLast? = some x) (r : Region) :
    r.contains x.position = r.contains start.position := by
  induction legs using List.reverseRecOn generalizing start with
  | nil =>
    obtain rfl : start = x0 := starts
    cases last
    rfl
  | append_singleton flown leg ih =>
    rw [startsAfter_concat] at starts
    rw [getLast?_route_concat] at last
    split at last
    · cases starts.symm.trans last
      rfl
    · rename_i short
      -- the only sample of the leg is where the leg began, and is not flown
      obtain ⟨start', first, starts', hfirst, same⟩ := h flown leg [] rfl
      have only : first = start := by
        rw [Trajectory.length] at short
        rw [Trajectory.last?] at starts
        generalize leg.states = states at short starts hfirst
        rcases states with _ | ⟨only, _ | ⟨second, rest⟩⟩
        · cases hfirst
        · cases hfirst
          cases starts
          rfl
        · exact absurd (by simp) short
      rw [ih h.front starts' last, ← only, same.contains_eq]

/-- From the step at which a leg begins, the mission is in the same regions as the leg. -/
theorem exists_sample (h : Joined x0 legs) {flown more : List Trajectory} {leg : Trajectory}
    (split : legs = flown ++ leg :: more) {step : Nat} {x : State}
    (sample : leg.states[step]? = some x) :
    ∃ y, (route x0 legs)[stepsAlong flown + step]? = some y ∧
      ∀ r : Region, r.contains y.position = r.contains x.position := by
  have way : route x0 legs =
      route x0 flown ++ (leg.states.tail ++ more.flatMap (·.states.tail)) := by
    simp [route, split]
  have length := length_route x0 flown
  rw [way]
  cases step with
  | zero =>
    -- the first sample of a leg is left out, and the last one flown
    -- before it stands in for it
    obtain ⟨start, first, starts, hfirst, same⟩ := h flown leg more split
    obtain ⟨y, last⟩ : ∃ y, (route x0 flown).getLast? = some y :=
      ⟨_, List.getLast?_eq_some_getLast (by simp [route])⟩
    have flownJoined : Joined x0 flown := by
      rw [split] at h
      exact h.front
    refine ⟨y, ?_, fun r => ?_⟩
    · rw [List.getElem?_append_left (by omega), ← last, List.getLast?_eq_getElem?, length]
      congr 1
      omega
    · rw [List.head?_eq_getElem?, sample] at hfirst
      cases hfirst
      rw [flownJoined.contains_getLast? starts last r, same.contains_eq]
  | succ step =>
    obtain ⟨bound, -⟩ := List.getElem?_eq_some_iff.mp sample
    refine ⟨x, ?_, fun _ => rfl⟩
    rw [List.getElem?_append_right (by omega),
      List.getElem?_append_left (by rw [List.length_tail]; omega), List.getElem?_tail, ← sample]
    congr 1
    omega

end Joined

/-- Each step of a mission belongs to a leg. -/
theorem exists_leg_of_step {legs : List Trajectory} (samples : ∀ leg ∈ legs, 0 < leg.length)
    (flew : legs ≠ []) {step : Nat} (bound : step ≤ stepsAlong legs) :
    ∃ flown leg more step', legs = flown ++ leg :: more ∧ step' < leg.length ∧
      step = stepsAlong flown + step' := by
  induction legs using List.reverseRecOn with
  | nil => exact absurd rfl flew
  | append_singleton flown leg ih =>
    -- a step at a junction counts for the later leg, as its first one
    rw [stepsAlong_concat] at bound
    have positive := samples leg (by simp)
    rcases Nat.lt_or_ge step (stepsAlong flown) with before | within
    · have flewBefore : flown ≠ [] := by
        rintro rfl
        exact Nat.not_lt_zero step before
      obtain ⟨first, leg', more, step', rfl, hstep', rfl⟩ :=
        ih (fun l hl => samples l (by simp [hl])) flewBefore (Nat.le_of_lt before)
      exact ⟨first, leg', more ++ [leg], step', by simp, hstep', rfl⟩
    · exact ⟨flown, leg, [], step - stepsAlong flown, rfl, by omega, by omega⟩

/-! ## First entries -/

namespace Scenario

/-- The first entry of a mission into a region, told by the occupancies of its legs: that
of the first leg that enters the region, counted from the step at which this leg begins. If
none does, nothing but the start is left. -/
inductive EntryAlong (s : Scenario) (r : NamedRegion) (legs : List Trajectory) : Option Nat → Prop
  | leg {flown more : List Trajectory} {leg : Trajectory} {step : Nat}
      (split : legs = flown ++ leg :: more)
      (before : ∀ l ∈ flown, (s.occupancy l).firstEntry r.name = .ok none)
      (entered : (s.occupancy leg).firstEntry r.name = .ok (some step)) :
      EntryAlong s r legs (some (stepsAlong flown + step))
  | start (never : ∀ l ∈ legs, (s.occupancy l).firstEntry r.name = .ok none)
      (inside : r.region.contains s.start.position = true) : EntryAlong s r legs (some 0)
  | never (never : ∀ l ∈ legs, (s.occupancy l).firstEntry r.name = .ok none)
      (outside : r.region.contains s.start.position = false) : EntryAlong s r legs none

variable {s : Scenario} {legs : List Trajectory} {t : Trajectory}

theorem exists_entryAlong {r : NamedRegion} (hr : r ∈ s.regions) (legs : List Trajectory) :
    ∃ entry, s.EntryAlong r legs entry := by
  classical
  have declared : r.name ∈ s.regionNames := List.mem_map_of_mem hr
  cases found : legs.find? fun l => s.Enters l r.name with
  | some leg =>
    obtain ⟨enters, flown, more, split, others⟩ := List.find?_eq_some_iff_append.mp found
    obtain ⟨step, entry⟩ := (of_decide_eq_true enters).exists_entersAt
    refine ⟨_, .leg split (fun l hl => ?_) entry.firstEntry⟩
    exact firstEntry_of_not_enters declared (by simpa using others l hl)
  | none =>
    have never : ∀ l ∈ legs, (s.occupancy l).firstEntry r.name = .ok none := fun l hl =>
      firstEntry_of_not_enters declared (by simpa using List.find?_eq_none.mp found l hl)
    cases inside : r.region.contains s.start.position with
    | true => exact ⟨_, .start never inside⟩
    | false => exact ⟨_, .never never inside⟩

section Joined

variable (joined : Joined s.start legs) (way : t.states = route s.start legs)

include joined way

/-- The mission visits the regions of a leg from the step at which the leg begins. -/
theorem insideAt_along {flown more : List Trajectory} {leg : Trajectory}
    (split : legs = flown ++ leg :: more) {step : Nat} (bound : step < leg.length) (name : String) :
    s.InsideAt t name (stepsAlong flown + step) ↔ s.InsideAt leg name step := by
  have sample : leg.states[step]? = some leg.states[step] := List.getElem?_eq_getElem bound
  obtain ⟨y, hy, same⟩ := joined.exists_sample split sample
  rw [← way] at hy
  constructor
  · rintro ⟨r, hr, named, x, hx, holds⟩
    cases hx.symm.trans hy
    rw [← Region.contains_iff, same, Region.contains_iff] at holds
    exact ⟨r, hr, named, _, sample, holds⟩
  · rintro ⟨r, hr, named, x, hx, holds⟩
    cases hx.symm.trans sample
    rw [← Region.contains_iff, ← same, Region.contains_iff] at holds
    exact ⟨r, hr, named, y, hy, holds⟩

/-- Wherever the mission is inside a region, so is the leg that it is flying. -/
theorem exists_leg_insideAt (flew : legs ≠ []) {name : String} {step : Nat}
    (inside : s.InsideAt t name step) : ∃ leg ∈ legs, s.Enters leg name := by
  have bound : step ≤ stepsAlong legs := by
    obtain ⟨r, -, -, x, sample, -⟩ := inside
    obtain ⟨bound, -⟩ := List.getElem?_eq_some_iff.mp sample
    rw [way, length_route] at bound
    omega
  obtain ⟨flown, leg, more, step', split, bound', rfl⟩ :=
    exists_leg_of_step joined.samples flew bound
  exact ⟨leg, by simp [split], step', (insideAt_along joined way split bound' name).mp inside⟩

theorem entersAt_along {flown more : List Trajectory} {leg : Trajectory}
    (split : legs = flown ++ leg :: more) {name : String}
    (before : ∀ l ∈ flown, ¬ s.Enters l name) {step : Nat} (entry : s.EntersAt leg name step) :
    s.EntersAt t name (stepsAlong flown + step) := by
  have samples := joined.samples
  have within : ∀ {step}, s.InsideAt leg name step → step < leg.length := by
    rintro step ⟨r, -, -, x, sample, -⟩
    exact (List.getElem?_eq_some_iff.mp sample).1
  refine ⟨(insideAt_along joined way split (within entry.1) name).mpr entry.1, ?_⟩
  intro earlier lt inside
  rcases Nat.lt_or_ge earlier (stepsAlong flown) with sooner | later
  · -- the step belongs to a leg that does not enter the region
    have flewBefore : flown ≠ [] := by
      rintro rfl
      exact Nat.not_lt_zero earlier sooner
    obtain ⟨first, leg', rest, step', rfl, bound, rfl⟩ :=
      exists_leg_of_step (fun l hl => samples l (by simp [split, hl])) flewBefore
        (Nat.le_of_lt sooner)
    have split' : legs = first ++ leg' :: (rest ++ leg :: more) := by simp [split]
    exact before leg' (by simp)
      ⟨step', (insideAt_along joined way split' bound name).mp inside⟩
  · obtain ⟨step', rfl⟩ := Nat.exists_eq_add_of_le later
    have lt' : step' < step := by omega
    have bound : step' < leg.length := Nat.lt_trans lt' (within entry.1)
    exact entry.2 step' lt' ((insideAt_along joined way split bound name).mp inside)

/-- The occupancy of a mission has the first entries that those of its legs tell. -/
theorem EntryAlong.firstEntry {r : NamedRegion} (hr : r ∈ s.regions) {entry : Option Nat}
    (h : s.EntryAlong r legs entry) : (s.occupancy t).firstEntry r.name = .ok entry := by
  have declared : r.name ∈ s.regionNames := List.mem_map_of_mem hr
  cases h with
  | leg split before entered =>
    refine (entersAt_along joined way split (fun l hl => ?_) ?_).firstEntry
    · exact (firstEntry_eq_none_iff declared).mp (before l hl)
    · exact (firstEntry_eq_some_iff declared).mp entered
  | start never inside =>
    have atStart : s.InsideAt t r.name 0 :=
      ⟨r, hr, rfl, s.start, by rw [way]; rfl, Region.contains_iff.mp inside⟩
    exact EntersAt.firstEntry ⟨atStart, fun _ => nofun⟩
  | never never outside =>
    refine firstEntry_of_not_enters declared ?_
    rintro ⟨step, inside⟩
    rcases List.eq_nil_or_concat legs with rfl | ⟨front, last, rfl⟩
    · -- without a leg the mission is its start
      rw [insideAt_iff hr, Trajectory.positions, way] at inside
      cases step with
      | zero =>
        have inside : some (r.region.contains s.start.position) = some true := inside
        rw [outside] at inside
        cases inside
      | succ step => cases inside
    · obtain ⟨leg, hleg, enters⟩ := exists_leg_insideAt joined way (by simp) inside
      exact (firstEntry_eq_none_iff declared).mp (never leg hleg) enters

end Joined

end Scenario

/-! ## Main result -/

/-- A solver that begins where it is asked to begin loses nothing of the accepted legs: the
mission has a sample for each of their steps, and from the step at which a leg begins it
visits the regions that the leg visits. The first entry of the mission into each region is
told by the occupancies of the legs, and the final verdict by these first entries. -/
theorem mission_told_by_legs (mission : Mission) (answers : List Answer)
    (asked : BeginAsAsked (Session.after mission answers).log) :
    let s := Session.after mission answers
    let flight := s.result.trajectory
    let legs := acceptedLegs mission.rules s.log
    flight.length = 1 + stepsAlong legs ∧
    (∀ flown leg more, legs = flown ++ leg :: more → ∀ step < leg.length, ∀ name,
      mission.scenario.InsideAt flight name (stepsAlong flown + step) ↔
        mission.scenario.InsideAt leg name step) ∧
    (∀ r ∈ mission.scenario.regions, ∀ entry,
      (mission.scenario.occupancy flight).firstEntry r.name = .ok entry ↔
        mission.scenario.EntryAlong r legs entry) ∧
    ∃ entry : String → Option Nat,
      (∀ r ∈ mission.scenario.regions, mission.scenario.EntryAlong r legs (entry r.name)) ∧
      s.result.verdict = some (mission.scenario.objective.verdictOf entry) := by
  intro s flight legs
  have joined : Joined mission.scenario.start legs := joined_acceptedLegs asked
  have way : flight.states = route mission.scenario.start legs := by
    have flown : Flown s legs := flown_after mission answers
    rw [← show s.mission = mission from mission_after mission answers]
    exact flown.trajectory
  have told : ∀ r ∈ mission.scenario.regions, ∀ entry,
      (mission.scenario.occupancy flight).firstEntry r.name = .ok entry ↔
        mission.scenario.EntryAlong r legs entry := by
    intro r hr entry
    constructor
    · intro first
      obtain ⟨entry', along⟩ := Scenario.exists_entryAlong hr legs
      cases first.symm.trans (along.firstEntry joined way hr)
      exact along
    · exact Scenario.EntryAlong.firstEntry joined way hr
  refine ⟨?_, fun flown leg more split step bound name => ?_, told, ?_⟩
  · rw [Trajectory.length, way, length_route]
  · exact Scenario.insideAt_along joined way split bound name
  · let entry (name : String) : Option Nat :=
      ((mission.scenario.occupancy flight).firstEntry name).toOption.join
    have first : ∀ name ∈ mission.scenario.regionNames,
        (mission.scenario.occupancy flight).firstEntry name = .ok (entry name) := by
      intro name declared
      obtain ⟨step, hstep⟩ := Occupancy.firstEntry_of_mem (o := mission.scenario.occupancy flight)
        (by rw [Scenario.regionNames_occupancy]; exact declared)
      simp only [entry, hstep]
      rfl
    refine ⟨entry, fun r hr => (told r hr _).mp (first r.name (List.mem_map_of_mem hr)), ?_⟩
    have verdict : mission.scenario.verdict flight =
        .ok (mission.scenario.objective.verdictOf entry) :=
      Occupancy.verdict_of_entries fun name hname =>
        first name (mission.scenario.declared name hname)
    obtain ⟨v, hv, same⟩ := result_verdict s
    rw [show s.mission = mission from mission_after mission answers] at same
    cases same.symm.trans verdict
    exact hv

/-- A leg of three samples away from the start. -/
def outward : Trajectory :=
  ⟨[.atRest 0 0 0, .atRest 1 1 0.5, .atRest 2 2 0.5]⟩

/-- A leg from there to the goal. -/
def inward : Trajectory :=
  ⟨[.atRest 2 2 0.5, .atRest 4.5 4.5 0.5]⟩

/-- Two tasks, and a leg for each. -/
def detour : List Answer :=
  [.line (.ok (some "Go.")), .reply (.ok "<away>"), .outcome (.feasible outward []),
    .line (.ok (some "On.")), .reply (.ok "<goal>"), .outcome (.feasible inward [])]

/-- The second leg enters the goal at its step 1, and the mission at step 3. -/
theorem detour_enters_goal :
    let s := Session.after (openMission .unchecked) detour
    BeginAsAsked s.log ∧
      (openRoom.occupancy s.result.trajectory).firstEntry "goal" = .ok (some 3) := by
  intro s
  let asks (solve : SolveRequest × Outcome) : State × Outcome := (solve.1.start, solve.2)
  have solves : (s.log.filterMap Event.solve?).map asks =
      [(.atRest 0 0 0, .feasible outward []), (.atRest 2 2 0.5, .feasible inward [])] := rfl
  have asked : BeginAsAsked s.log := by
    intro request outcome leg controls found checked first hfirst
    have solved : (request, outcome) ∈ s.log.filterMap Event.solve? :=
      List.mem_filterMap.mpr ⟨_, found, rfl⟩
    have solved : (request.start, outcome) ∈ (s.log.filterMap Event.solve?).map asks :=
      List.mem_map_of_mem solved
    simp only [solves, List.mem_cons, List.not_mem_nil, or_false, Prod.mk.injEq] at solved
    rcases solved with ⟨start, rfl⟩ | ⟨start, rfl⟩
    · cases checked
      cases hfirst
      exact start ▸ ⟨.inl rfl, .inl rfl, .inl rfl⟩
    · cases checked
      cases hfirst
      exact start ▸ ⟨.inl rfl, .inl rfl, .inl rfl⟩
  have legs : acceptedLegs Rules.unchecked s.log = [outward] ++ inward :: [] := rfl
  have goal : ⟨"goal", ⟨4, 5, 4, 5, 0, 1⟩⟩ ∈ openRoom.regions := List.mem_singleton.mpr rfl
  have before : ∀ l ∈ [outward], (openRoom.occupancy l).firstEntry "goal" = .ok none := by
    intro l hl
    cases List.mem_singleton.mp hl
    rfl
  have along : openRoom.EntryAlong ⟨"goal", ⟨4, 5, 4, 5, 0, 1⟩⟩ (acceptedLegs Rules.unchecked s.log)
      (some (stepsAlong [outward] + 1)) := .leg legs before rfl
  obtain ⟨-, -, told, -⟩ := mission_told_by_legs (openMission .unchecked) detour asked
  exact ⟨asked, (told _ goal _).mpr along⟩

end Sortie
