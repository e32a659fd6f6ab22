import Sortie.Proofs.Session.Bounds
import Sortie.Proofs.Session.Checks
import Sortie.Proofs.Session.Endings
/-!
# Sessions that fly by themselves

An automated session whose operator has no last word is complete with the first leg that it
flies. So it has flown exactly one leg when it is complete, and none when it is aborted: no
fault follows a leg, and the trajectory of an aborted session is where it started.
-/

namespace Sortie

open Session

/-! ## The beginning -/

/-- Reading a reply says nothing and attempts nothing. -/
theorem readReply_keeps (s : Session) : s.readReply.conversation = s.conversation ∧
    s.readReply.repair = s.repair ∧ s.readReply.judge = s.judge := by
  unfold readReply
  split <;> exact ⟨rfl, rfl, rfl⟩

/-- An automated turn puts the task to the model, and no more. -/
theorem beginTurn_keeps {s t : Session} (instructed : s.instruct = t)
    (notDue : t.feedbackDue = false) (automated : t.rules.automated = true) :
    s.beginTurn.conversation = t.putTask.conversation ∧ s.beginTurn.repair = t.repair ∧
      s.beginTurn.judge = t.judge := by
  unfold beginTurn
  rw [instructed]
  simp only [notDue, automated, Bool.false_eq_true, if_false, if_true]
  split
  · exact readReply_keeps t.putTask
  · exact ⟨rfl, rfl, rfl⟩

/-- The instructions are the first thing that is said, whether they are printed or not. -/
theorem exists_instruct_new (mission : Mission) : ∃ log, (Session.new mission).instruct =
    { (Session.new mission).push (.system mission.instructions.conversation) with log } := by
  unfold instruct
  rw [if_pos (show (Session.new mission).conversation.isEmpty = true from rfl)]
  split <;> exact ⟨_, rfl⟩

/-- An automated session begins with full budgets, and with nothing said but its
instructions and its task. -/
theorem begin_afresh {mission : Mission} (automated : mission.rules.automated = true) :
    let s := begin mission
    let r := mission.rules
    s.conversation.messages =
        [.system mission.instructions.conversation, .user mission.scenario.task] ∧
      s.repair.budget = .ofLimit r.repairLimit ∧
      s.judge.budget = .ofLimit (if r.judges then r.judgeLimit else 0) := by
  intro s r
  obtain ⟨log, instructed⟩ := exists_instruct_new mission
  obtain ⟨conversation, repair, judge⟩ := beginTurn_keeps instructed rfl automated
  refine ⟨congrArg Conversation.messages conversation, congrArg (·.budget) repair, ?_⟩
  refine (congrArg (·.budget) judge).trans ?_
  show (if r.judges then _ else Judge.disabled).budget = _
  split <;> rfl

/-! ## The end -/

/-- How often the session has come to its end with a leg. -/
def Stage.completions : Stage → Nat
  | ended .completed => 1
  | _ => 0

/-- How often the session comes to its end with a leg that is past its check,
if it flies by itself. -/
def Juncture.completions : Juncture → Nat
  | settled s _ accepted => (accepted || (s.rules.automated && !s.rules.judges)).toNat
  | waiting s => s.stage.completions
  | _ => 0

/-- The session flies one leg if it completes, and none before. -/
def Juncture.FliesOnce (p : Juncture) : Prop :=
  (accepted p.session.rules p.pastLegs).length = p.completions

/-- Without a word of the operator no answer completes the session. -/
theorem Hears.completions {s : Session} {e : Event} {p : Juncture} (h : Hears s e p)
    (unattended : s.stage.isAttended = false) :
    p.completions = (Juncture.waiting s).completions := by
  show _ = s.stage.completions
  cases h with
  | taskFailed stage | taskLeft stage | taskPut stage | wordFailed stage | wordMissing stage
  | wordGiven stage | wordUnclear stage =>
    rw [stage] at unattended
    cases unattended
  | replyFailed stage | feedbackReply stage | automatedReply stage | nudged stage
  | nudgedLast stage | interactiveReply stage | askedAgain stage | askedLast stage | solved stage
  | unsolvedRepair stage | unsolvedAbort stage | unsolvedRefine stage | repairFailed stage
  | repaired stage | unrepaired stage | judgementFailed stage | approved stage
  | turnedDown stage =>
    rw [stage]
    rfl

/-- What is settled by itself is flown at the end. -/
theorem Move.completions {p q : Juncture} (equipped : Equipped p.session)
    (unattended : Unattended p) (step : Move p q) (unsettled : q.isSettled = false) :
    q.completions = p.completions := by
  cases step with
  | settle => cases unsettled
  | flyOn interactive => cases interactive.symm.trans unattended.automated
  | @complete s leg accepted automated flies =>
    show 1 = (accepted || (s.rules.automated && !s.rules.judges)).toNat
    rcases flies with rfl | skips
    · rfl
    · -- a session without a judge flies every leg that is settled
      have judges : s.rules.judges = false := equipped.judges.symm.trans skips
      rw [automated, judges]
      exact congrArg Bool.toNat (Bool.or_true _).symm
  | @refuse s leg stays =>
    show 0 = (false || (s.rules.automated && !s.rules.judges)).toNat
    rcases stays with interactive | enabled
    · cases interactive.symm.trans unattended.automated
    · have judges : s.rules.judges = true := equipped.judges.symm.trans enabled
      rw [judges]
      exact congrArg Bool.toNat (Bool.and_false _).symm
  | _ => rfl

theorem Hears.fliesOnce {s : Session} {e : Event} {p : Juncture}
    (unattended : Unattended (.waiting s)) (flown : (Juncture.waiting s).FlownSoFar)
    (h : (Juncture.waiting s).FliesOnce) (step : Hears s e p) : p.FliesOnce := by
  have h : (accepted s.rules (Juncture.waiting s).pastLegs).length = _ := h
  have rules : p.session.rules = s.rules := congrArg Mission.rules step.mission
  show (accepted p.session.rules p.pastLegs).length = p.completions
  rw [rules, step.completions unattended.attended, ← h]
  rcases step.pastLegs flown with same | ⟨l, ends, more⟩
  · rw [same]
  · rw [more]
    cases ends with
    | word _ confirms => cases confirms.symm.trans unattended.confirms
    | failure =>
      rw [accepted_concat, FoundLeg.isAccepted_withReply_error]
      rfl

theorem Move.fliesOnce {p q : Juncture} (equipped : Equipped p.session) (unattended : Unattended p)
    (flown : p.FlownSoFar) (h : p.FliesOnce) (step : Move p q) : q.FliesOnce := by
  have rules : q.session.rules = p.session.rules := congrArg Mission.rules step.mission
  have h : (accepted p.session.rules p.pastLegs).length = p.completions := h
  show (accepted q.session.rules q.pastLegs).length = q.completions
  rcases step.pastLegs flown with ⟨same, unsettled⟩ |
    ⟨s, leg, accepts, l, rfl, rfl, -, -, flies, more⟩
  · rw [rules, same, h, step.completions equipped unattended unsettled]
  · have h : (accepted s.rules (Juncture.judged s leg accepts).pastLegs).length = 0 := h
    show (accepted s.rules _).length = (accepts || (s.rules.automated && !s.rules.judges)).toNat
    rw [more, accepted_concat, flies]
    cases (accepts || (s.rules.automated && !s.rules.judges)) with
    | false => exact h
    | true =>
      rw [if_pos rfl, List.length_append, h]
      rfl

theorem Invariant.fliesOnce {mission : Mission} (automated : mission.rules.automated = true)
    (confirms : mission.rules.confirms = false) :
    Invariant mission fun p => (Equipped p.session ∧ p.FlownSoFar ∧ p.CountsJudged) ∧
      Unattended p ∧ p.FliesOnce := by
  refine (Invariant.flownSoFar mission).and
    ⟨(Invariant.unattended automated confirms).begins, rfl⟩ ?_ ?_
  · intro s e p known h step
    exact ⟨h.1.hears step, step.fliesOnce h.1 known.2.1 h.2⟩
  · intro p q known h step
    exact ⟨h.1.moves step, step.fliesOnce known.1 h.1 known.2.1 h.2⟩

/-- How an automated session whose operator has no last word ends: complete with exactly
one leg, or aborted where it started. -/
theorem automated_ending {mission : Mission} (automated : mission.rules.automated = true)
    (confirms : mission.rules.confirms = false) (answers : List Answer)
    (ended : (Session.after mission answers).stage.ending?.isSome = true) :
    let s := Session.after mission answers
    (s.stage = .ended .completed ∧ (acceptedLegs mission.rules s.log).length = 1) ∨
      ∃ fault, s.stage = .ended (.aborted fault) ∧ acceptedLegs mission.rules s.log = [] ∧
        s.trajectory = .startingAt mission.scenario.start := by
  intro s
  obtain ⟨-, -, fliesOnce⟩ := (Invariant.fliesOnce automated confirms).after answers
  have rules : s.rules = mission.rules := congrArg Mission.rules (mission_after mission answers)
  have flown := (flown_after mission answers).trajectory
  obtain ⟨ending, how⟩ := Option.isSome_iff_exists.mp ended
  have stage := ended_of_ending? how
  have legs : (accepted s.rules (s.stage.pastLegs (foundLegs s.rules s.log))).length =
    s.stage.completions := fliesOnce
  rw [show s.stage = .ended ending from stage, rules] at legs
  cases ending with
  | exited =>
    -- only an operator exits, and there is none
    obtain ⟨-, explained⟩ := (Invariant.endsExplained mission).after answers
    have interactive : s.rules.automated = false := explained _ stage
    rw [rules, automated] at interactive
    cases interactive
  | completed => exact .inl ⟨stage, legs⟩
  | aborted fault =>
    have none : acceptedLegs mission.rules s.log = [] := List.length_eq_zero_iff.mp legs
    refine .inr ⟨fault, stage, none, ?_⟩
    rw [none, mission_after] at flown
    exact congrArg Trajectory.mk flown

end Sortie
