import Sortie.Program.Bench
import Sortie.Proofs.Session.Completion
import Sortie.Proofs.Settings
/-!
# What the benchmark counts

The benchmark flies its mission several times and keeps two tallies by two tests on
each result: whether the task is done, and whether there was a fault. Each run is a
session of its own that begins afresh, goes on without an operator and ends, with one
leg or with a fault before any leg. As no scenario at hand is done where it starts,
no run passes both tests.
-/

namespace Sortie

open Session

/-! ## The scenarios at hand -/

theorem Scenario.toDescription_of_check {d : Description} {s : Scenario} (h : check d = .ok s) :
    s.toDescription = d := by
  unfold check at h
  split at h
  · split at h
    · split at h
      · cases h
        rfl
      · cases h
    · cases h
  · cases h

theorem Catalogue.mem_all_of_find {name : String} {s : Scenario} (h : find name = .ok s) :
    s.toDescription ∈ all := by
  unfold find at h
  split at h
  · rename_i found
    rw [Scenario.toDescription_of_check h]
    exact List.mem_of_find?_eq_some found
  · cases h

/-- No scenario at hand is done where it starts. -/
theorem Catalogue.verdict_start {name : String} {s : Scenario} (h : find name = .ok s) :
    ∃ reason, s.verdict (.startingAt s.start) = .ok (.failed reason) := by
  have described := mem_all_of_find h
  unfold Scenario.verdict Scenario.occupancy
  generalize s.toDescription = d at described ⊢
  rcases List.mem_cons.mp described with rfl | described
  · exact ⟨.goalNotReached, rfl⟩
  · cases List.mem_singleton.mp described
    exact ⟨.targetNotReached, rfl⟩

theorem Settings.of_mission {settings : Settings} {files : Files} {mission : Mission}
    (h : settings.mission files none none = .ok mission) :
    Catalogue.find settings.scenario = .ok mission.scenario ∧ mission.rules = settings.rules := by
  unfold Settings.mission at h
  obtain ⟨scenario, found, h⟩ := ok_of_bind h
  obtain ⟨instructions, -, h⟩ := ok_of_bind h
  cases h
  exact ⟨found, rfl⟩

/-! ## Runs on a host -/

namespace Host

variable {σ : Type} (host : Host (StateM σ)) (w : World (StateM σ))

/-- What is printed on the way is not seen by the session. -/
theorem runBy_follow : w.RunBy (host.follow w) where
  done _ := rfl
  ended questions s ending finished := by
    cases questions with
    | zero => rfl
    | succ questions => rw [follow, finished]
  asks questions s q env goesOn asks := by
    rw [follow, goesOn]
    simp only [step, asks, bind_assoc, pure_bind]
    exact ⟨_, rfl⟩

/-- The limits in range allow for fewer questions than a host has patience for. -/
theorem questions_le_patience {settings : Settings} (h : settings.InRange) :
    let r := settings.rules
    1 + r.repairsPermitted + r.judgementsPermitted +
      (r.maxReplies + r.repairsPermitted + 2 * r.judgementsPermitted) ≤ patience := by
  intro r
  have replies : r.maxReplies ≤ 18446744073709551615 := h.maxReplies
  have repairs : r.repairsPermitted ≤ 4294967295 := by
    unfold Rules.repairsPermitted
    split
    · exact h.repairLimit
    · exact Nat.zero_le _
  have judgements : r.judgementsPermitted ≤ 4294967295 := by
    unfold Rules.judgementsPermitted
    split
    · exact h.judgeLimit
    · exact Nat.zero_le _
  unfold patience
  omega

/-- A session that is run on a host without an operator has been given
answers until it was over. -/
theorem exists_run_eq_after {mission : Mission} (automated : mission.rules.automated = true)
    (confirms : mission.rules.confirms = false) {settings : Settings} (range : settings.InRange)
    (same : mission.rules = settings.rules) (env : σ) :
    ∃ answers, Fitting mission answers ∧
      ((host.run w mission).run env).1 = Session.after mission answers ∧
      (Session.after mission answers).stage.ending?.isSome = true := by
  obtain ⟨answers, fitting, ends, finished⟩ :=
    (host.runBy_follow w).exists_eq_after mission patience
      ((host.printNew (begin mission) 0).run env).2
  refine ⟨answers, fitting, ends, ?_⟩
  rcases finished with finished | length
  · exact finished
  · cases ending : (Session.after mission answers).stage.ending? with
    | some how => rfl
    | none =>
      -- as long as it goes on it has had fewer answers than its limits allow for
      have few := fitting.length_lt automated confirms ending
      rw [same] at few
      exact absurd few (Nat.not_lt.mpr (length ▸ questions_le_patience range))

end Host

/-! ## The runs of the benchmark -/

namespace Program

variable {σ : Type} (host : Host (StateM σ)) (w : World (StateM σ)) (mission : Mission) (runs : Nat)

/-- The last `left` of `runs` runs, one session after the other. -/
def sessions : Nat → StateM σ (List Session)
  | 0 => return []
  | left + 1 => do
    let s ← host.run w mission
    printLines host [runLine (runs - left) runs s.result]
    return s :: (← sessions left)

/-- The score with the results of these sessions. -/
def Score.addAll (score : Score) (flown : List Session) : Score :=
  flown.foldl (fun score s => score.add s.result) score

/-- The benchmark flies the sessions and adds up their results. -/
theorem flyRuns_eq (left : Nat) (score : Score) :
    flyRuns host w (.ok mission) runs left score =
      return .ok (score.addAll (← sessions host w mission runs left)) := by
  induction left generalizing score with
  | zero => rfl
  | succ left ih =>
    simp only [flyRuns, sessions, ih, bind_assoc, pure_bind]
    rfl

theorem length_sessions (left : Nat) (env : σ) :
    ((sessions host w mission runs left).run env).1.length = left := by
  induction left generalizing env with
  | zero => rfl
  | succ left ih => exact congrArg (· + 1) (ih _)

/-- Each of the sessions is one that was run from its beginning. -/
theorem forall_sessions {P : Session → Prop} (run : ∀ env, P ((host.run w mission).run env).1)
    (left : Nat) (env : σ) : ∀ s ∈ ((sessions host w mission runs left).run env).1, P s := by
  induction left generalizing env with
  | zero =>
    intro s hs
    cases hs
  | succ left ih => exact List.forall_mem_cons.mpr ⟨run env, ih _⟩

/-- What a run of the benchmark is: a session of its own, which ends complete with
exactly one leg or aborted where it started, and whose task is done only if it is
complete without a fault. -/
structure RunsAlone (mission : Mission) (s : Session) : Prop where
  afresh : ∃ answers, Fitting mission answers ∧ s = answers.foldl resume (begin mission)
  ends : (s.result.status = .completed ∧ (acceptedLegs mission.rules s.log).length = 1) ∨
    (s.result.status = .aborted ∧ acceptedLegs mission.rules s.log = [] ∧
      s.result.trajectory = .startingAt mission.scenario.start)
  accomplished : s.result.isAccomplished = true →
    s.result.status = .completed ∧ s.result.fault = none

theorem RunsAlone.of_ended {mission : Mission} (automated : mission.rules.automated = true)
    (confirms : mission.rules.confirms = false)
    (undone : ∃ reason, mission.scenario.verdict (.startingAt mission.scenario.start) =
      .ok (.failed reason))
    {answers : List Answer} (fitting : Fitting mission answers)
    (ended : (Session.after mission answers).stage.ending?.isSome = true) :
    RunsAlone mission (Session.after mission answers) := by
  have ends := automated_ending automated confirms answers ended
  constructor
  · exact ⟨answers, fitting, rfl⟩
  · rcases ends with ⟨completed, legs⟩ | ⟨fault, aborted, legs, stays⟩
    · exact .inl ⟨status_of_ended completed, legs⟩
    · exact .inr ⟨status_of_ended aborted, legs, stays⟩
  · intro accomplished
    rcases ends with ⟨completed, -⟩ | ⟨fault, aborted, -, stays⟩
    · refine ⟨status_of_ended completed, ?_⟩
      rw [result_fault, completed]
      rfl
    · -- a mission that has not left the start is not done
      obtain ⟨v, result, verdict⟩ := result_verdict (Session.after mission answers)
      obtain ⟨reason, undone⟩ := undone
      rw [mission_after, show (Session.after mission answers).result.trajectory = _ from stays,
        undone] at verdict
      cases verdict
      rw [SessionResult.isAccomplished, result] at accomplished
      cases accomplished

/-- A run that is counted twice would be done and have a fault. -/
theorem RunsAlone.counts_once {mission : Mission} {s : Session} (h : RunsAlone mission s) :
    s.result.isAccomplished.toNat + s.result.fault.isSome.toNat ≤ 1 := by
  cases accomplished : s.result.isAccomplished with
  | false => exact (Nat.zero_add _).symm ▸ Bool.toNat_le _
  | true =>
    rw [(h.accomplished accomplished).2]
    exact Nat.le_refl 1

theorem Score.addAll_le (score : Score) {flown : List Session}
    (once : ∀ s ∈ flown, s.result.isAccomplished.toNat + s.result.fault.isSome.toNat ≤ 1) :
    (score.addAll flown).accomplished + (score.addAll flown).aborted ≤
      score.accomplished + score.aborted + flown.length := by
  induction flown generalizing score with
  | nil => exact Nat.le_refl _
  | cons s flown ih =>
    rw [List.forall_mem_cons] at once
    have rest := ih (score.add s.result) once.2
    have first := once.1
    simp only [Score.add] at rest
    show ((score.add s.result).addAll flown).accomplished +
      ((score.add s.result).addAll flown).aborted ≤ _
    simp only [Score.add, List.length_cons]
    omega

/-! ## Main result -/

/-- The benchmark with settings from anywhere that name a scenario at hand, on any host and
in any world, which may go on from one run to the next. Its score is that of as many
sessions as runs. Each of them begins with full budgets and with nothing said but its
instructions and its task; it ends complete with exactly one leg, or aborted where it
started; and it is never counted twice. -/
theorem benchmark_counts_apart {σ : Type} (host : Host (StateM σ)) (w : World (StateM σ))
    (initial : σ) (files : Files) (env : Environment) (path : Option String) (runs : Nat)
    {mission : Mission}
    (assembled : Settings.mission
      { settingsOr .oneShot files env path with automated := true, confirms := false }
      files none none = .ok mission) :
    let flown := ((sessions host w mission runs runs).run initial).1
    let score := Score.addAll {} flown
    ((flyRuns host w (.ok mission) runs runs {}).run initial).1 = .ok score ∧
      flown.length = runs ∧
      (∀ s ∈ flown, RunsAlone mission s ∧
        ¬ (s.result.isAccomplished = true ∧ s.result.fault.isSome = true)) ∧
      score.accomplished + score.aborted ≤ runs ∧
      (begin mission).conversation.messages =
        [.system mission.instructions.conversation, .user mission.scenario.task] ∧
      (begin mission).repair.budget = .ofLimit mission.rules.repairLimit ∧
      (begin mission).judge.budget =
        .ofLimit (if mission.rules.judges then mission.rules.judgeLimit else 0) := by
  intro flown score
  obtain ⟨found, rules⟩ := Settings.of_mission assembled
  have automated : mission.rules.automated = true := congrArg Rules.automated rules
  have confirms : mission.rules.confirms = false := congrArg Rules.confirms rules
  have loaded := Settings.InRange.oneShot.settingsOr files env path
  have range : Settings.InRange
      { settingsOr .oneShot files env path with automated := true, confirms := false } :=
    ⟨loaded.maxReplies, loaded.repairLimit, loaded.judgeLimit⟩
  have alone : ∀ s ∈ flown, RunsAlone mission s := by
    -- whatever the runs before it have left behind in `env`
    refine forall_sessions host w mission runs (fun env => ?_) runs initial
    obtain ⟨answers, fitting, ends, ended⟩ :=
      host.exists_run_eq_after w automated confirms range rules env
    rw [ends]
    exact .of_ended automated confirms (Catalogue.verdict_start found) fitting ended
  have length : flown.length = runs := length_sessions host w mission runs runs initial
  have once := Score.addAll_le {} fun s hs => (alone s hs).counts_once
  refine ⟨?_, length, fun s hs => ⟨alone s hs, ?_⟩, ?_, begin_afresh automated⟩
  · rw [flyRuns_eq]
    rfl
  · rintro ⟨accomplished, fault⟩
    rw [((alone s hs).accomplished accomplished).2] at fault
    cases fault
  · rw [length] at once
    exact (Nat.zero_add runs) ▸ once

/-- A host that prints nothing and counts nothing. -/
def muteHost : Host (StateM Nat) where
  send _ _ := pure (.unreachable "no network")
  start _ _ := pure (.notStarted "no solver")
  ask _ := pure (.ok none)
  print _ := pure ()
  spend _ := pure ()
  spent := pure {}

/-- The model writes a specification and accepts the leg to the goal, and is
never heard of again. -/
def fadingWorld : World (StateM Nat) where
  model _ := fun calls =>
    (if calls < 2 then .ok "<goal> <accepted>" else .error "no answer", calls + 1)
  solver _ := pure (.feasible ⟨[.atRest (-3.5) (-3.5) 0.5, .atRest 4.5 4.5 4.5]⟩ [])
  operator := noOperator

/-- Every file is there, and nothing is written in any. -/
def blankFiles : Files :=
  fun _ => .ok []

/-- The usual settings give a mission, and each of two runs of it is
counted once at most. -/
theorem fading_runs_count_once :
    ∃ mission,
      Settings.mission
        { settingsOr .oneShot blankFiles [] none with automated := true, confirms := false }
        blankFiles none none = .ok mission ∧
      let flown := ((sessions muteHost fadingWorld mission 2 2).run 0).1
      flown.length = 2 ∧ (∀ s ∈ flown, RunsAlone mission s) ∧
        (Score.addAll {} flown).accomplished + (Score.addAll {} flown).aborted ≤ 2 := by
  cases assembled : Settings.mission
    { settingsOr .oneShot blankFiles [] none with automated := true, confirms := false }
    blankFiles none none with
  | error fault =>
    have found : (Settings.mission
      { settingsOr .oneShot blankFiles [] none with automated := true, confirms := false }
      blankFiles none none).isOk = true := by decide +kernel
    rw [assembled] at found
    cases found
  | ok mission =>
    obtain ⟨-, length, alone, counts, -⟩ :=
      benchmark_counts_apart muteHost fadingWorld 0 blankFiles [] none 2 assembled
    exact ⟨mission, rfl, length, fun s hs => (alone s hs).1, counts⟩

end Program

end Sortie
