import Sortie.Proofs.Session.Endings
/-!
# What is done about faults

`Fault.remedy` says in one place what a session does about a fault. A session meets faults
in many places, and each of them has its own way to go on. Here the two are shown to agree:
after an answer with a fault in it comes what remedies that fault, and no session is
aborted for a fault that has a remedy, unless nobody is there to apply it.

The judge, and the repair of a specification, can also be asked by themselves in one
go (`Judge.evaluate`, `SyntaxRepair.attempt`). A session waits for the reply in
between, and comes to the same.
-/

namespace Sortie

open Session

/-! ## Faults in answers -/

/-- What is wrong with an answer. A reply without a specification is not wrong by itself:
the model may be asked again. -/
def Event.fault? : Event → Option Fault
  | solverAsked _ outcome =>
    match outcome.checked with
    | .infeasible reason => some (.solverInfeasible reason)
    | .feasible _ _ => none
  | modelAsked .judgement _ (.ok reply) =>
    if Judge.read reply = .accepted then none else some (.complianceRejected reply)
  | modelAsked _ _ (.error e) => some (.llm e)
  | operatorAsked _ (.error e) => some (.io e)
  | _ => none

namespace Session

/-- Prints the model's reply to a checker, if there is one. -/
def sayReply (s : Session) (note : String → String) : Except String String → Session
  | .ok reply => s.say (note reply)
  | .error _ => s

/-- Takes note of an answer with a fault in it. Of these only the
judge's reply is printed. -/
def recordFault (s : Session) : Event → Session
  | .modelAsked .judgement messages reply =>
    (s.record (.modelAsked .judgement messages reply)).sayReply Judge.note reply
  | e => s.record e

/-- Has a specification repaired for a fault in it. Where nothing is repaired, the operator
puts the task differently, if there is one. -/
def repairSyntax (s : Session) (spec : Specification) (fault : Fault) : Session :=
  if s.rules.repairs then s.requestRepair spec
  else if s.rules.automated then s.abort fault
  else (s.say refineNotice).beginTurn

/-- Does what remedies a fault: a specification is repaired while the solver works on it,
and a rejection is fed back while its leg is judged. -/
def recover (s : Session) (fault : Fault) : Session :=
  match fault.remedy, s.stage with
  | .repairSyntax, .solving spec _ => s.repairSyntax spec fault
  | .feedBack note, .judging leg => (s.feedBack note).afterJudgement leg false
  | _, _ => s.abort fault

end Session

theorem recover_of_infeasible {s : Session} {spec : Specification} {repaired : Bool}
    (stage : s.stage = .solving spec repaired) (reason : String) :
    s.recover (.solverInfeasible reason) = s.repairSyntax spec (.solverInfeasible reason) := by
  rw [recover, stage]
  rfl

theorem recover_of_rejected {s : Session} {leg : Trajectory} (stage : s.stage = .judging leg)
    (reply : String) :
    s.recover (.complianceRejected reply) =
      (s.feedBack (rejectionNote reply)).afterJudgement leg false := by
  rw [recover, stage]
  rfl

/-- If there is a fault in an answer, the session goes on with what remedies the fault. -/
theorem resume_of_fault {s : Session} {answer : Answer} {e : Event} {fault : Fault}
    (fits : s.query.bind (·.answered? answer) = some e) (faulty : e.fault? = some fault) :
    s.resume answer = (s.recordFault e).recover fault := by
  rcases resume_eq s answer with ⟨unfit, -⟩ | ⟨e', p, fits', hears, next⟩
  · cases unfit.symm.trans fits
  cases fits'.symm.trans fits
  rw [next]
  cases hears with
  | taskFailed | replyFailed | repairFailed | judgementFailed | wordFailed =>
    cases faulty
    rfl
  | @unsolvedRepair spec repaired outcome reason stage checked repairs
  | @unsolvedAbort spec repaired outcome reason stage checked repairs automated
  | @unsolvedRefine spec repaired outcome reason stage checked repairs automated =>
    simp only [Event.fault?, checked, Option.some.injEq] at faulty
    subst faulty
    have stage : (s.recordOutcome spec outcome).stage = .solving spec repaired := stage
    have rules : (s.recordOutcome spec outcome).rules = s.rules := rfl
    refine .trans ?_ (recover_of_infeasible stage reason).symm
    simp only [repairSyntax, *, if_true, if_false, Bool.false_eq_true]
    rfl
  | @turnedDown leg reply stage read =>
    simp only [Event.fault?, read, reduceCtorEq, if_false, Option.some.injEq] at faulty
    subst faulty
    have stage : ((s.recordJudgement leg (.ok reply)).say (Judge.note reply)).stage = _ := stage
    exact (recover_of_rejected stage reply).symm
  | approved stage read => simp [Event.fault?, read] at faulty
  | solved stage checked => simp [Event.fault?, checked] at faulty
  | _ => cases faulty

/-! ## Faults that end sessions -/

/-- A session is aborted for a fault without a remedy, or because nobody may repair a
specification and no operator is there to put the task differently. -/
theorem remedy_of_aborted (mission : Mission) (answers : List Answer) {fault : Fault}
    (aborted : (Session.after mission answers).stage = .ended (.aborted fault)) :
    fault.remedy = .abort ∨
      fault.remedy = .repairSyntax ∧ mission.rules.repairs = false ∧
        mission.rules.automated = true := by
  have same : (Session.after mission answers).mission = mission := mission_after mission answers
  obtain ⟨-, explained⟩ := (Invariant.endsExplained mission).after answers
  have cause : fault.HasCause (Session.after mission answers) := explained _ aborted
  cases fault with
  | solverInfeasible reason =>
    obtain ⟨automated, repairs, -⟩ := cause
    rw [Session.rules, same] at automated repairs
    exact .inr ⟨rfl, repairs, automated⟩
  | complianceRejected reply => exact cause.elim
  | extraction | syntaxBudgetExhausted | configuration | llm | io => exact .inl rfl

/-! ## Checkers in one go -/

namespace Session

/-- What a session makes of a leg that was judged in one go. -/
def takeHearing (s : Session) (leg : Trajectory) (h : Judge.Hearing) : Session :=
  let s := { s with judge := h.after }
  let s := match h.reply with
    | some reply =>
      ((s.goTo (.judging leg)).recordJudgement leg reply).sayReply Judge.note reply
    | none => s
  match h.result with
  | .error fault => s.recover fault
  | .ok (.rejected reply) => s.recover (.complianceRejected reply)
  | .ok _ => s.afterJudgement leg true

/-- What a session makes of an attempt at a specification that was made in one go. -/
def takeAttempt (s : Session) (spec : Specification) (a : SyntaxRepair.Attempt) : Session :=
  let s := { s with repair := a.after }
  let s := match a.reply with
    | some reply =>
      ((s.goTo (.repairing spec)).recordRepair spec reply).sayReply SyntaxRepair.note reply
    | none => s
  match a.result with
  | .ok repaired => s.solve repaired true
  | .error (.extraction _) => s.requestRepair spec
  | .error fault => s.recover fault

end Session

/-- A judgement that was waited for comes to the same as one in one go. -/
theorem heardJudgement_eq_takeHearing (s : Session) (judge : Judge) (leg : Trajectory)
    (reply : Except String String) :
    (({ s with judge }.goTo (.judging leg)).recordJudgement leg reply).heardJudgement leg reply =
      s.takeHearing leg ⟨judge, some reply, Judge.conclude reply⟩ := by
  rcases reply with e | reply
  · rfl
  · rcases Judge.read_cases reply with read | read
    · simp only [heardJudgement, takeHearing, Judge.conclude, read]
      rfl
    · simp only [heardJudgement, takeHearing, Judge.conclude, read]
      rfl

/-- A repair that was waited for comes to the same as an attempt in one go. -/
theorem heardRepair_eq_takeAttempt (s : Session) (repair : SyntaxRepair) (spec : Specification)
    (reply : Except String String) :
    (({ s with repair }.goTo (.repairing spec)).recordRepair spec reply).heardRepair spec reply =
      s.takeAttempt spec ⟨repair, some reply, SyntaxRepair.conclude reply⟩ := by
  rcases reply with e | reply
  · rfl
  · cases extracted : Specification.extract reply with
    | ok repaired =>
      simp only [heardRepair, takeAttempt, SyntaxRepair.conclude, extracted]
      rfl
    | error fault =>
      obtain ⟨detail, rfl⟩ := Specification.eq_extraction_of_extract extracted
      simp only [heardRepair, takeAttempt, SyntaxRepair.conclude, extracted]
      rfl

section OneGo

variable {m : Type → Type} [Monad m] [LawfulMonad m]

/-- A session that waits for the model goes on with its reply. -/
theorem step_of_model_query (w : World m) {s : Session} {purpose : Purpose}
    {messages : List Message} (asks : s.query = some (.model purpose messages)) :
    s.step w = (fun reply => s.resume (.reply reply)) <$> w.model messages := by
  simp only [step, asks, World.answer, map_eq_pure_bind, bind_assoc, pure_bind]

theorem Judge.evaluate_of_begun {j judge : Judge} (begins : j.begin? = some judge)
    (ask : List Message → m (Except String String)) (history : List Message) (o : Occupancy) :
    j.evaluate ask history o =
      (fun reply => ⟨judge, some reply, conclude reply⟩) <$>
        ask (request j.instructions history o) := by
  rw [evaluate, begins, map_eq_pure_bind]

theorem SyntaxRepair.attempt_of_begun {r repair : SyntaxRepair} (begins : r.begin = .ok repair)
    (ask : List Message → m (Except String String)) (spec : Specification) :
    r.attempt ask spec =
      (fun reply => ⟨repair, some reply, conclude reply⟩) <$>
        ask (request r.instructions spec) := by
  rw [attempt, begins, map_eq_pure_bind]

/-- A session that has a leg judged waits for the reply, if the judge is to be asked at
all. This comes to the same as judging the leg in one go. -/
theorem requestJudgement_eq_evaluate (w : World m) (s : Session) (leg : Trajectory) :
    (if s.judge.begin?.isSome then (s.requestJudgement leg).step w
      else pure (s.requestJudgement leg)) =
      s.takeHearing leg <$> s.judge.evaluate w.model s.conversation.middle
        (s.mission.scenario.occupancy leg) := by
  cases begins : s.judge.begin? with
  | none =>
    rw [requestJudgement_of_skipped begins, Judge.evaluate, begins, map_pure]
    rfl
  | some judge =>
    obtain ⟨-, -, same⟩ := Judge.of_begin? begins
    have request : ({ s with judge }.goTo (.judging leg)).judgementRequest leg =
        s.judgementRequest leg := by
      rw [same]
      rfl
    rw [requestJudgement_of_begun begins, Option.isSome_some, if_pos rfl,
      step_of_model_query w (query_of_judging rfl), request, Judge.evaluate_of_begun begins,
      Functor.map_map]
    congr 1
    funext reply
    rw [resume_of_judging rfl]
    exact heardJudgement_eq_takeHearing s judge leg reply

/-- A session that has a specification repaired waits for the reply, if an attempt is left.
This comes to the same as an attempt in one go. -/
theorem requestRepair_eq_attempt (w : World m) (s : Session) (spec : Specification) :
    (if s.repair.budget.remaining = 0 then pure (s.requestRepair spec)
      else (s.requestRepair spec).step w) =
      s.takeAttempt spec <$> s.repair.attempt w.model spec := by
  cases spends : s.repair.budget.spend? with
  | none =>
    have begins : s.repair.begin = .error (.syntaxBudgetExhausted s.repair.budget.count) := by
      rw [SyntaxRepair.begin, spends]
    rw [if_pos (Budget.spend?_eq_none_iff.mp spends), requestRepair, SyntaxRepair.attempt,
      begins, map_pure]
    rfl
  | some budget =>
    have begins : s.repair.begin = .ok { s.repair with budget } := by
      rw [SyntaxRepair.begin, spends]
    have left : ¬ s.repair.budget.remaining = 0 := by
      rw [← Budget.spend?_eq_none_iff, spends]
      exact nofun
    simp only [if_neg left, requestRepair, begins]
    rw [step_of_model_query w (query_of_repairing rfl), SyntaxRepair.attempt_of_begun begins,
      Functor.map_map]
    congr 1
    funext reply
    rw [resume_of_repairing rfl]
    exact heardRepair_eq_takeAttempt s { s.repair with budget } spec reply

end OneGo

end Sortie
