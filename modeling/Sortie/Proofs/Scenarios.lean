import Mathlib.Data.List.Nodup
import Sortie.Proofs.Bench
import Sortie.Proofs.ByteOrder
import Sortie.Proofs.Geometry
/-!
# Checked scenarios

A description is a scenario if its regions have different names, its objective refers to
declared regions only, and there is time to fly; else the first thing wrong with it is
reported (`Description.Refused`). As the names are different, it is the same to look a
region up in the list of declarations or among the regions by name, so the solver is sent
the regions that the model was told of and that verdicts look for
(`checked_regions_reach_solver`).
-/

namespace Sortie

/-! ## What is wrong with a description -/

/-- What is wrong with a description: of several faults, the one that is reported. -/
inductive Description.Refused (d : Description) : Fault → Prop
  | repeated {before after : List String} {name : String}
      (names : d.regionNames = before ++ name :: after) (again : name ∈ before)
      (first : before.Nodup) :
      Refused d (.configuration s!"scenario '{d.name}' declares region '{name}' twice")
  | undeclared {before after : List String} {name : String} (distinct : d.regionNames.Nodup)
      (references : d.objective.references = before ++ name :: after)
      (first : ∀ other ∈ before, other ∈ d.regionNames) (missing : name ∉ d.regionNames) :
      Refused d (.configuration s!"scenario '{d.name}' has no region named '{name}'")
  | duration (distinct : d.regionNames.Nodup)
      (declared : ∀ name ∈ d.objective.references, name ∈ d.regionNames)
      (short : ¬ 0 < d.duration) :
      Refused d (.configuration
        s!"scenario '{d.name}' has non-positive duration {Decimal.plainText d.duration}")

/-- The search stops at the first name that was there before. -/
theorem firstRepeated?_eq_some {seen before after : List String} {name : String}
    (fresh : ∀ other ∈ before, other ∉ seen) (first : before.Nodup)
    (again : name ∈ seen ∨ name ∈ before) :
    firstRepeated? seen (before ++ name :: after) = some name := by
  induction before generalizing seen with
  | nil =>
    have again : name ∈ seen := by simpa using again
    simp [firstRepeated?, again]
  | cons other rest ih =>
    rw [List.forall_mem_cons] at fresh
    rw [List.nodup_cons] at first
    rw [List.cons_append, firstRepeated?, if_neg (by simpa using fresh.1)]
    refine ih (fun later hlater => ?_) first.2 ?_
    · rw [List.mem_cons, not_or]
      refine ⟨?_, fresh.2 later hlater⟩
      rintro rfl
      exact first.1 hlater
    · rw [List.mem_cons] at again ⊢
      rcases again with seen | rfl | later
      · exact .inl (.inr seen)
      · exact .inl (.inl rfl)
      · exact .inr later

/-- Among names that are not all different, one is the first to stand there again. -/
theorem exists_repeated {names : List String} (h : ¬ names.Nodup) :
    ∃ before name after, names = before ++ name :: after ∧ name ∈ before ∧ before.Nodup := by
  induction names using List.reverseRecOn with
  | nil => exact absurd List.nodup_nil h
  | append_singleton names last ih =>
    by_cases distinct : names.Nodup
    · refine ⟨names, last, [], rfl, ?_, distinct⟩
      by_contra fresh
      exact h (List.nodup_append.mpr ⟨distinct, by simp, by
        rintro name hname _ hlast rfl
        exact fresh (List.mem_singleton.mp hlast ▸ hname)⟩)
    · obtain ⟨before, name, after, rfl, again, first⟩ := ih distinct
      exact ⟨before, name, after ++ [last], by simp, again, first⟩

theorem find?_undeclared {declared before after : List String} {name : String}
    (first : ∀ other ∈ before, other ∈ declared) (missing : name ∉ declared) :
    (before ++ name :: after).find? (fun other => !declared.contains other) = some name :=
  List.find?_eq_some_iff_append.mpr
    ⟨by simpa using missing, before, after, rfl, fun other h => by simpa using first other h⟩

namespace Scenario

variable {d : Description}

theorem check_of_refused {fault : Fault} (h : d.Refused fault) : check d = .error fault := by
  unfold check
  cases h with
  | @repeated before after name names again first =>
    have repeats : ¬ d.regionNames.Nodup := by
      rw [names, List.nodup_middle, List.nodup_cons]
      exact fun distinct => distinct.1 (List.mem_append_left after again)
    rw [dif_neg repeats, names, firstRepeated?_eq_some (by simp) first (.inr again)]
    rfl
  | @undeclared before after name distinct references first missing =>
    have lacking : ¬ ∀ name ∈ d.objective.references, name ∈ d.regionNames := fun declared =>
      missing (declared name (by simp [references]))
    rw [dif_pos distinct, dif_neg lacking, references, find?_undeclared first missing]
    rfl
  | duration distinct declared short =>
    rw [dif_pos distinct, dif_pos declared, dif_neg short]

/-- Something is wrong with each description that is no scenario. -/
theorem exists_refused (h : ¬ (d.regionNames.Nodup ∧
    (∀ name ∈ d.objective.references, name ∈ d.regionNames) ∧ 0 < d.duration)) :
    ∃ fault, d.Refused fault := by
  by_cases distinct : d.regionNames.Nodup
  · by_cases declared : ∀ name ∈ d.objective.references, name ∈ d.regionNames
    · exact ⟨_, .duration distinct declared fun positive => h ⟨distinct, declared, positive⟩⟩
    · obtain ⟨name, found⟩ : ∃ name,
          d.objective.references.find? (fun name => !d.regionNames.contains name) = some name := by
        rw [← Option.isSome_iff_exists, List.find?_isSome]
        simpa using declared
      obtain ⟨missing, before, after, references, first⟩ :=
        List.find?_eq_some_iff_append.mp found
      exact ⟨_, .undeclared distinct references (fun other h => by simpa using first other h)
        (by simpa using missing)⟩
  · obtain ⟨before, name, after, names, again, first⟩ := exists_repeated distinct
    exact ⟨_, .repeated names again first⟩

theorem exists_check_iff : (∃ s, check d = .ok s) ↔ d.regionNames.Nodup ∧
    (∀ name ∈ d.objective.references, name ∈ d.regionNames) ∧ 0 < d.duration := by
  constructor
  · rintro ⟨s, checked⟩
    obtain rfl := toDescription_of_check checked
    exact ⟨s.nodup_names, s.declared, s.duration_pos⟩
  · rintro ⟨distinct, declared, positive⟩
    exact ⟨⟨d, distinct, declared, positive⟩, by
      rw [check, dif_pos distinct, dif_pos declared, dif_pos positive]⟩

theorem check_eq_error_iff {fault : Fault} : check d = .error fault ↔ d.Refused fault := by
  constructor
  · intro fails
    have invalid : ¬ ∃ s, check d = .ok s := by
      rintro ⟨s, checked⟩
      cases fails.symm.trans checked
    obtain ⟨reported, refused⟩ := exists_refused (mt exists_check_iff.mpr invalid)
    cases fails.symm.trans (check_of_refused refused)
    exact refused
  · exact check_of_refused

end Scenario

/-- What is not a number is not above anything. -/
theorem not_lt_of_isNaN {a b : Float} (h : b.isNaN = true) : ¬ a < b := by
  intro lt
  have lt : (a.toModel.unpack.compare b.toModel.unpack == some .lt) = true := of_decide_eq_true lt
  have nan : b.toModel.unpack.isNaN = true := h
  cases unpacked : b.toModel.unpack with
  | notANumber =>
    rw [unpacked] at lt
    cases other : a.toModel.unpack with
    | notANumber => rw [other] at lt; cases lt
    | infinity sign | zero sign | finite sign => rw [other] at lt; cases sign <;> cases lt
  | infinity | zero | finite =>
    rw [unpacked] at nan
    cases nan

/-! ## Regions by name -/

namespace SolveRequest

/-- The names in these entries ascend. -/
def Ascends (entries : List (String × Region)) : Prop :=
  entries.Pairwise fun a b => a.1 < b.1

variable {name : String} {region : Region} {entries : List (String × Region)}

theorem mem_insert {entry : String × Region} (h : entry ∈ insert name region entries) :
    entry = (name, region) ∨ entry ∈ entries := by
  induction entries with
  | nil => exact .inl (List.mem_singleton.mp h)
  | cons first rest ih =>
    obtain ⟨n, r⟩ := first
    rw [insert] at h
    split at h
    · exact List.mem_cons.mp h
    · split at h
      · rcases List.mem_cons.mp h with same | later
        · exact .inl same
        · exact .inr (List.mem_cons_of_mem _ later)
      · rcases List.mem_cons.mp h with rfl | later
        · exact .inr List.mem_cons_self
        · exact (ih later).imp id (List.mem_cons_of_mem _)

theorem Ascends.insert (h : Ascends entries) (name : String) (region : Region) :
    Ascends (insert name region entries) := by
  induction entries with
  | nil => exact List.pairwise_singleton _ _
  | cons first rest ih =>
    obtain ⟨n, r⟩ := first
    obtain ⟨below, later⟩ := List.pairwise_cons.mp h
    rw [SolveRequest.insert]
    split
    · rename_i before
      refine List.pairwise_cons.mpr ⟨fun entry hentry => ?_, h⟩
      rcases List.mem_cons.mp hentry with rfl | hentry
      · exact before
      · exact String.lt_trans before (below entry hentry)
    · split
      · rename_i same
        subst same
        exact List.pairwise_cons.mpr ⟨below, later⟩
      · rename_i notBefore other
        refine List.pairwise_cons.mpr ⟨fun entry hentry => ?_, ih later⟩
        rcases mem_insert hentry with rfl | hentry
        · refine String.not_le.mp fun le => other ?_
          exact String.le_antisymm le (String.not_lt.mp notBefore)
        · exact below entry hentry

/-- A region with a new name takes no other one's place. -/
theorem insert_perm (fresh : name ∉ entries.map Prod.fst) :
    (insert name region entries).Perm ((name, region) :: entries) := by
  induction entries with
  | nil => exact .refl _
  | cons first rest ih =>
    obtain ⟨n, r⟩ := first
    rw [List.map_cons, List.mem_cons, not_or] at fresh
    rw [insert]
    split
    · exact .refl _
    · rw [if_neg fresh.1]
      exact ((ih fresh.2).cons _).trans (.swap ..)

theorem ascends_foldl_insert (h : Ascends entries) (regions : List NamedRegion) :
    Ascends (regions.foldl (fun done r => insert r.name r.region done) entries) := by
  induction regions generalizing entries with
  | nil => exact h
  | cons r rest ih => exact ih (h.insert r.name r.region)

theorem foldl_insert_perm {regions : List NamedRegion}
    (distinct : (entries.map Prod.fst ++ regions.map NamedRegion.name).Nodup) :
    (regions.foldl (fun done r => insert r.name r.region done) entries).Perm
      (entries ++ regions.map fun r => (r.name, r.region)) := by
  induction regions generalizing entries with
  | nil => simp
  | cons r rest ih =>
    rw [List.map_cons, List.nodup_middle, List.nodup_cons] at distinct
    have fresh : r.name ∉ entries.map Prod.fst := fun h => distinct.1 (List.mem_append_left _ h)
    have inserted : (insert r.name r.region entries).Perm ((r.name, r.region) :: entries) :=
      insert_perm fresh
    have distinct' :
        ((insert r.name r.region entries).map Prod.fst ++ rest.map NamedRegion.name).Nodup := by
      rw [((inserted.map Prod.fst).append_right _).nodup_iff]
      exact List.nodup_cons.mpr distinct
    rw [List.foldl_cons]
    refine (ih distinct').trans ((inserted.append_right _).trans ?_)
    rw [List.map_cons]
    exact List.perm_middle.symm

theorem ascends_byName (regions : List NamedRegion) : Ascends (byName regions) :=
  ascends_foldl_insert .nil regions

theorem byName_perm {regions : List NamedRegion}
    (distinct : (regions.map NamedRegion.name).Nodup) :
    (byName regions).Perm (regions.map fun r => (r.name, r.region)) :=
  foldl_insert_perm distinct

end SolveRequest

/-- Where each name stands once, what is found is what is listed. -/
theorem lookup_eq_some_iff_mem {α : Type} {entries : List (String × α)} {name : String} {a : α}
    (distinct : (entries.map Prod.fst).Nodup) :
    entries.lookup name = some a ↔ (name, a) ∈ entries := by
  constructor
  · intro found
    obtain ⟨before, after, rfl, -⟩ := List.lookup_eq_some_iff.mp found
    simp
  · intro listed
    obtain ⟨before, after, rfl⟩ := List.append_of_mem listed
    rw [List.map_append, List.map_cons, List.nodup_middle, List.nodup_cons] at distinct
    refine List.lookup_eq_some_iff.mpr ⟨before, after, rfl, fun entry hentry => ?_⟩
    rw [bne_iff_ne]
    rintro rfl
    exact distinct.1 (List.mem_append_left _ (List.mem_map.mpr ⟨entry, hentry, rfl⟩))

theorem Description.region?_eq_some_iff {d : Description} (distinct : d.regionNames.Nodup)
    {name : String} {region : Region} :
    d.region? name = some region ↔ ∃ r ∈ d.regions, r.name = name ∧ r.region = region := by
  rw [region?, Option.map_eq_some_iff]
  constructor
  · rintro ⟨r, found, same⟩
    have named := List.find?_some found
    exact ⟨r, List.mem_of_find?_eq_some found, eq_of_beq named, same⟩
  · rintro ⟨r, listed, rfl, rfl⟩
    obtain ⟨other, found⟩ : ∃ other, d.regions.find? (·.name == r.name) = some other :=
      Option.isSome_iff_exists.mp (List.find?_isSome.mpr ⟨r, listed, beq_self_eq_true _⟩)
    have named := List.find?_some found
    cases List.inj_on_of_nodup_map distinct (List.mem_of_find?_eq_some found) listed
      (eq_of_beq named)
    exact ⟨r, found, rfl⟩

/-! ## Main result -/

/-- The regions in a request are those of the scenario. -/
structure SolveRequest.HoldsRegionsOf (request : SolveRequest) (s : Scenario) : Prop where
  /-- Each declared region is there once, under its name. -/
  each : request.regions.Perm (s.regions.map fun r => (r.name, r.region))
  /-- The names ascend by their bytes. -/
  ascends : (request.regions.map fun entry => Text.Utf8.encode entry.1).Pairwise (· < ·)
  /-- A name stands for the same region as in the scenario, or for none as there. -/
  lookup : ∀ name, request.regions.lookup name = s.region? name

theorem SolveRequest.holdsRegionsOf_new (spec : Specification) (s : Scenario) (start : State)
    (dt : Float) (dynamics : Dynamics) : (new spec s start dt dynamics).HoldsRegionsOf s := by
  have each : (byName s.regions).Perm (s.regions.map fun r => (r.name, r.region)) :=
    byName_perm s.nodup_names
  have names : ((byName s.regions).map Prod.fst).Perm s.regionNames := by
    have mapped := each.map Prod.fst
    rw [List.map_map] at mapped
    exact mapped
  refine ⟨each, ?_, fun name => Option.ext fun region => ?_⟩
  · exact List.pairwise_map.mpr
      ((ascends_byName s.regions).imp fun lt => Text.Utf8.encode_lt_encode lt)
  · rw [show (new spec s start dt dynamics).regions = byName s.regions from rfl,
      lookup_eq_some_iff_mem (names.nodup_iff.mpr s.nodup_names), each.mem_iff,
      Description.region?_eq_some_iff s.nodup_names, List.mem_map]
    simp only [Prod.mk.injEq]

/-- A session asks the solver with the regions of its scenario. -/
theorem Session.holdsRegionsOf_of_query {s : Session} {request : SolveRequest}
    (asks : s.query = some (.solver request)) : request.HoldsRegionsOf s.mission.scenario := by
  unfold query at asks
  split at asks <;> cases asks
  exact SolveRequest.holdsRegionsOf_new ..

/-- A description is a scenario exactly if its regions have different names, those that its
objective refers to are among them, and it has time, which is not so if the time is no
number; else the first repeated name is reported, or the first undeclared one, or the time.
Every request to solve something in a scenario, and so each one that a session makes, holds
its regions: none is lost, takes another one's place or changes its name. The names filled
into the instructions are the same ones. -/
theorem checked_regions_reach_solver (d : Description) :
    ((∃ s, Scenario.check d = .ok s) ↔ d.regionNames.Nodup ∧
      (∀ name ∈ d.objective.references, name ∈ d.regionNames) ∧ 0 < d.duration) ∧
    (d.duration.isNaN = true → ¬ 0 < d.duration) ∧
    (∀ fault, Scenario.check d = .error fault ↔ d.Refused fault) ∧
    ∀ s, Scenario.check d = .ok s → s.toDescription = d ∧
      ∀ request : SolveRequest,
        ((∃ spec start dt dynamics, request = .new spec s start dt dynamics) ∨
          ∃ mission answers, mission.scenario = s ∧
            (Session.after mission answers).query = some (.solver request)) →
        request.HoldsRegionsOf s ∧
        ∃ objects : List String, objects.Perm (request.regions.map Prod.fst) ∧
          ∀ (settings : Settings) (files : Files), settings.instructions files s =
            s.horizon settings.dt >>= fun horizon =>
              Instructions.load files settings.promptsDirectory settings.conversationFile
                { objects, steps := horizon.steps } := by
  refine ⟨Scenario.exists_check_iff, not_lt_of_isNaN, fun _ => Scenario.check_eq_error_iff,
    fun s checked => ⟨Scenario.toDescription_of_check checked, fun request asked => ?_⟩⟩
  have holds : request.HoldsRegionsOf s := by
    rcases asked with ⟨spec, start, dt, dynamics, rfl⟩ | ⟨mission, answers, rfl, asks⟩
    · exact SolveRequest.holdsRegionsOf_new ..
    · rw [← mission_after mission answers]
      exact Session.holdsRegionsOf_of_query asks
  refine ⟨holds, s.regionNames, ?_, fun settings files => rfl⟩
  have names := holds.each.map Prod.fst
  rw [List.map_map] at names
  exact names.symm

/-- A room whose regions are not named in the order of their names. -/
def foreignRoom : Description where
  name := "foreign room"
  regions := [⟨"😀", ⟨1, 2, 1, 2, 0, 1⟩⟩, ⟨"ﬀ", ⟨2, 3, 2, 3, 0, 1⟩⟩, ⟨"goal", ⟨4, 5, 4, 5, 0, 1⟩⟩]
  objective := .reachAvoid "goal" ["ﬀ"]
  start := .atRest 0 0 0
  duration := 30
  task := "Reach the goal."

/-- Letters beyond the first 65536 come last, as their bytes do. -/
theorem foreign_names_reach_solver : ∃ s, Scenario.check foreignRoom = .ok s ∧
    let request := SolveRequest.new ⟨"finally goal"⟩ s s.start 0.5 .standard
    request.regions.map Prod.fst = ["goal", "ﬀ", "😀"] ∧ request.HoldsRegionsOf s := by
  obtain ⟨valid, -, -, reach⟩ := checked_regions_reach_solver foreignRoom
  obtain ⟨s, checked⟩ := valid.mpr ⟨by decide, by decide, by decide⟩
  obtain ⟨described, holds⟩ := reach s checked
  refine ⟨s, checked, ?_, (holds _ (.inl ⟨_, _, _, _, rfl⟩)).1⟩
  show (SolveRequest.byName s.regions).map Prod.fst = _
  rw [described]
  decide

end Sortie
