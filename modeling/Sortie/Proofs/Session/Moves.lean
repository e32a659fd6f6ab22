import Mathlib.Logic.Relation
import Sortie.Proofs.Verdict
import Sortie.Session.Basic
/-!
# The moves of a session

`Session.resume` runs through several functions before it waits again. Here each place that
it passes is a juncture, and each of its branches is one constructor: `Hears` says where an
answer leads, `Move` how a session goes on by itself. `resume_eq` says that these are all
there is to a session, so a property that every constructor keeps holds whatever a session
is told (`Invariant.after`).
-/

namespace Sortie

/-- What a session is about to do. -/
inductive Juncture where
  /-- A turn is to begin. -/
  | turn (s : Session)
  /-- The model's last reply is to be read. -/
  | reading (s : Session)
  /-- A repair of a specification is to be requested. -/
  | repair (s : Session) (spec : Specification)
  /-- The solver found a leg, which is to be checked. -/
  | found (s : Session) (leg : Trajectory)
  /-- A leg was judged, or the judge was not asked. -/
  | judged (s : Session) (leg : Trajectory) (accepted : Bool)
  /-- All have had their say on a leg. -/
  | settled (s : Session) (leg : Trajectory) (accepted : Bool)
  /-- The session waits for an answer, or is over. -/
  | waiting (s : Session)

/-- The session that waits next. -/
def Juncture.next : Juncture → Session
  | turn s => s.beginTurn
  | reading s => s.readReply
  | repair s spec => s.requestRepair spec
  | found s leg => s.requestJudgement leg
  | judged s leg accepted => s.afterJudgement leg accepted
  | settled s leg accepted => s.settle leg accepted
  | waiting s => s

namespace Session

/-! ## What is recorded of an answer -/

/-- The request to solve a specification from where the vehicle is. -/
def solveRequest (s : Session) (spec : Specification) : SolveRequest :=
  .new spec s.mission.scenario s.start s.rules.dt s.rules.dynamics

/-- The request to repair a specification. -/
def repairRequest (s : Session) (spec : Specification) : List Message :=
  SyntaxRepair.request s.repair.instructions spec

/-- The request to judge a leg. -/
def judgementRequest (s : Session) (leg : Trajectory) : List Message :=
  Judge.request s.judge.instructions s.conversation.middle (s.mission.scenario.occupancy leg)

/-- The operator gave a line, or none, to the prompt for a task. -/
def recordTask (s : Session) (line : Operator.Line) : Session :=
  s.record (.operatorAsked Operator.taskPrompt line)

/-- The model was asked in the conversation. -/
def recordReply (s : Session) (reply : Except String String) : Session :=
  s.record (.modelAsked .conversation s.conversation.messages reply)

/-- The solver was asked. -/
def recordOutcome (s : Session) (spec : Specification) (outcome : Outcome) : Session :=
  s.record (.solverAsked (s.solveRequest spec) outcome)

/-- The model was asked for a repair. -/
def recordRepair (s : Session) (spec : Specification) (reply : Except String String) : Session :=
  s.record (.modelAsked .repair (s.repairRequest spec) reply)

/-- The model was asked for a judgement. -/
def recordJudgement (s : Session) (leg : Trajectory) (reply : Except String String) : Session :=
  s.record (.modelAsked .judgement (s.judgementRequest leg) reply)

/-- The operator gave a line, or none, to the prompt for the last word on a leg. -/
def recordWord (s : Session) (line : Operator.Line) : Session :=
  s.record (.operatorAsked Operator.confirmPrompt line)

/-- A reply of the model becomes part of the conversation. -/
def takeReply (s : Session) (reply : String) : Session :=
  ((s.recordReply (.ok reply)).say ("Assistant: " ++ reply)).push (.assistant reply)

end Session

open Session

/-! ## Answers -/

/-- Where the answer in an event leads a session that waits for it. -/
inductive Hears (s : Session) : Event → Juncture → Prop
  | taskFailed {more : Nat} {e : String} (stage : s.stage = .task more) :
      Hears s (.operatorAsked Operator.taskPrompt (.error e))
        (.waiting ((s.recordTask (.error e)).abort (.io e)))
  | taskLeft {more : Nat} {line : Option String} (stage : s.stage = .task more)
      (quits : ∀ l ∈ line, Operator.isQuit l = true) :
      Hears s (.operatorAsked Operator.taskPrompt (.ok line))
        (.waiting (((s.recordTask (.ok line)).say exitNotice).finish .exited))
  | taskPut {more : Nat} {line : String} (stage : s.stage = .task more)
      (stays : Operator.isQuit line = false) :
      Hears s (.operatorAsked Operator.taskPrompt (.ok (some line)))
        (.waiting (((s.recordTask (.ok (some line))).push (.user line)).goTo
          (.reply (.interactive more))))
  | replyFailed {turn : Turn} {e : String} (stage : s.stage = .reply turn) :
      Hears s (.modelAsked .conversation s.conversation.messages (.error e))
        (.waiting ((s.recordReply (.error e)).abort (.llm e)))
  | feedbackReply {reply : String} (stage : s.stage = .reply .feedback) :
      Hears s (.modelAsked .conversation s.conversation.messages (.ok reply))
        (.reading (s.takeReply reply))
  | automatedReply {more : Nat} {reply : String} (stage : s.stage = .reply (.automated more))
      (opens : opensPair reply = true) :
      Hears s (.modelAsked .conversation s.conversation.messages (.ok reply))
        (.reading (s.takeReply reply))
  | nudged {more : Nat} {reply : String} (stage : s.stage = .reply (.automated (more + 1)))
      (opens : opensPair reply = false) :
      Hears s (.modelAsked .conversation s.conversation.messages (.ok reply))
        (.waiting (((s.takeReply reply).push (.system specificationNudge)).goTo
          (.reply (.automated more))))
  | nudgedLast {reply : String} (stage : s.stage = .reply (.automated 0))
      (opens : opensPair reply = false) :
      Hears s (.modelAsked .conversation s.conversation.messages (.ok reply))
        (.reading ((s.takeReply reply).push (.system specificationNudge)))
  | interactiveReply {more : Nat} {reply : String} (stage : s.stage = .reply (.interactive more))
      (opens : opensPair reply = true) :
      Hears s (.modelAsked .conversation s.conversation.messages (.ok reply))
        (.reading (s.takeReply reply))
  | askedAgain {more : Nat} {reply : String} (stage : s.stage = .reply (.interactive (more + 1)))
      (opens : opensPair reply = false) :
      Hears s (.modelAsked .conversation s.conversation.messages (.ok reply))
        (.waiting ((s.takeReply reply).goTo (.task more)))
  | askedLast {reply : String} (stage : s.stage = .reply (.interactive 0))
      (opens : opensPair reply = false) :
      Hears s (.modelAsked .conversation s.conversation.messages (.ok reply))
        (.reading (s.takeReply reply))
  | solved {spec : Specification} {repaired : Bool} {outcome : Outcome} {leg : Trajectory}
      {controls : List Control} (stage : s.stage = .solving spec repaired)
      (checked : outcome.checked = .feasible leg controls) :
      Hears s (.solverAsked (s.solveRequest spec) outcome)
        (.found (s.recordOutcome spec outcome) leg)
  | unsolvedRepair {spec : Specification} {repaired : Bool} {outcome : Outcome} {reason : String}
      (stage : s.stage = .solving spec repaired) (checked : outcome.checked = .infeasible reason)
      (repairs : s.rules.repairs = true) :
      Hears s (.solverAsked (s.solveRequest spec) outcome)
        (.repair (s.recordOutcome spec outcome) spec)
  | unsolvedAbort {spec : Specification} {repaired : Bool} {outcome : Outcome} {reason : String}
      (stage : s.stage = .solving spec repaired) (checked : outcome.checked = .infeasible reason)
      (repairs : s.rules.repairs = false) (automated : s.rules.automated = true) :
      Hears s (.solverAsked (s.solveRequest spec) outcome)
        (.waiting ((s.recordOutcome spec outcome).abort (.solverInfeasible reason)))
  | unsolvedRefine {spec : Specification} {repaired : Bool} {outcome : Outcome} {reason : String}
      (stage : s.stage = .solving spec repaired) (checked : outcome.checked = .infeasible reason)
      (repairs : s.rules.repairs = false) (automated : s.rules.automated = false) :
      Hears s (.solverAsked (s.solveRequest spec) outcome)
        (.turn ((s.recordOutcome spec outcome).say refineNotice))
  | repairFailed {spec : Specification} {e : String} (stage : s.stage = .repairing spec) :
      Hears s (.modelAsked .repair (s.repairRequest spec) (.error e))
        (.waiting ((s.recordRepair spec (.error e)).abort (.llm e)))
  | repaired {spec fixed : Specification} {reply : String} (stage : s.stage = .repairing spec)
      (extracted : Specification.extract reply = .ok fixed) :
      Hears s (.modelAsked .repair (s.repairRequest spec) (.ok reply))
        (.waiting
          (((s.recordRepair spec (.ok reply)).say (SyntaxRepair.note reply)).solve fixed true))
  | unrepaired {spec : Specification} {reply : String} {fault : Fault}
      (stage : s.stage = .repairing spec) (extracted : Specification.extract reply = .error fault) :
      Hears s (.modelAsked .repair (s.repairRequest spec) (.ok reply))
        (.repair ((s.recordRepair spec (.ok reply)).say (SyntaxRepair.note reply)) spec)
  | judgementFailed {leg : Trajectory} {e : String} (stage : s.stage = .judging leg) :
      Hears s (.modelAsked .judgement (s.judgementRequest leg) (.error e))
        (.waiting ((s.recordJudgement leg (.error e)).abort (.llm e)))
  | approved {leg : Trajectory} {reply : String} (stage : s.stage = .judging leg)
      (read : Judge.read reply = .accepted) :
      Hears s (.modelAsked .judgement (s.judgementRequest leg) (.ok reply))
        (.judged ((s.recordJudgement leg (.ok reply)).say (Judge.note reply)) leg true)
  | turnedDown {leg : Trajectory} {reply : String} (stage : s.stage = .judging leg)
      (read : Judge.read reply = .rejected reply) :
      Hears s (.modelAsked .judgement (s.judgementRequest leg) (.ok reply))
        (.judged (((s.recordJudgement leg (.ok reply)).say (Judge.note reply)).feedBack
          (rejectionNote reply)) leg false)
  | wordFailed {leg : Trajectory} {e : String} (stage : s.stage = .confirming leg) :
      Hears s (.operatorAsked Operator.confirmPrompt (.error e))
        (.waiting ((s.recordWord (.error e)).abort (.io e)))
  | wordMissing {leg : Trajectory} (stage : s.stage = .confirming leg) :
      Hears s (.operatorAsked Operator.confirmPrompt (.ok none))
        (.settled (s.recordWord (.ok none)) leg false)
  | wordGiven {leg : Trajectory} {line : String} {accepted : Bool}
      (stage : s.stage = .confirming leg) (answer : Operator.answer? line = some accepted) :
      Hears s (.operatorAsked Operator.confirmPrompt (.ok (some line)))
        (.settled (s.recordWord (.ok (some line))) leg accepted)
  | wordUnclear {leg : Trajectory} {line : String} (stage : s.stage = .confirming leg)
      (answer : Operator.answer? line = none) :
      Hears s (.operatorAsked Operator.confirmPrompt (.ok (some line)))
        (.waiting (((s.recordWord (.ok (some line))).say Operator.invalidAnswer).goTo
          (.confirming leg)))

/-! ## Going on without an answer -/

/-- How a session goes on by itself. -/
inductive Move : Juncture → Juncture → Prop
  | instruct {s : Session} (opening : s.conversation.isEmpty = true)
      (quiet : s.rules.printsInstructions = false) :
      Move (.turn s) (.turn (s.push (.system s.mission.instructions.conversation)))
  | instructAloud {s : Session} (opening : s.conversation.isEmpty = true)
      (aloud : s.rules.printsInstructions = true) :
      Move (.turn s)
        (.turn ((s.say ("Instructions: " ++ s.mission.instructions.conversation)).push
          (.system s.mission.instructions.conversation)))
  | nudgeFeedback {s : Session} (instructed : s.conversation.isEmpty = false)
      (due : s.feedbackDue = true) :
      Move (.turn s) (.waiting ((s.push (.system feedbackNudge)).goTo (.reply .feedback)))
  | putTask {s : Session} {more : Nat} (instructed : s.conversation.isEmpty = false)
      (due : s.feedbackDue = false) (automated : s.rules.automated = true)
      (replies : s.rules.maxReplies = more + 1) :
      Move (.turn s) (.waiting (s.putTask.goTo (.reply (.automated more))))
  | putTaskUnheard {s : Session} (instructed : s.conversation.isEmpty = false)
      (due : s.feedbackDue = false) (automated : s.rules.automated = true)
      (replies : s.rules.maxReplies = 0) :
      Move (.turn s) (.reading s.putTask)
  | askTask {s : Session} {more : Nat} (instructed : s.conversation.isEmpty = false)
      (due : s.feedbackDue = false) (automated : s.rules.automated = false)
      (replies : s.rules.maxReplies = more + 1) :
      Move (.turn s) (.waiting ((s.say taskNotice).goTo (.task more)))
  | askTaskUnheard {s : Session} (instructed : s.conversation.isEmpty = false)
      (due : s.feedbackDue = false) (automated : s.rules.automated = false)
      (replies : s.rules.maxReplies = 0) :
      Move (.turn s) (.reading (s.say taskNotice))
  | unreadable {s : Session} {fault : Fault}
      (extracted : Specification.extract (s.conversation.lastReply?.getD "") = .error fault) :
      Move (.reading s) (.waiting (s.abort fault))
  | read {s : Session} {spec : Specification}
      (extracted : Specification.extract (s.conversation.lastReply?.getD "") = .ok spec) :
      Move (.reading s) (.waiting ({ s with feedbackDue := false }.solve spec false))
  | noRepair {s : Session} {spec : Specification} (spent : s.repair.budget.spend? = none) :
      Move (.repair s spec) (.waiting (s.abort (.syntaxBudgetExhausted s.repair.budget.count)))
  | tryRepair {s : Session} {spec : Specification} {budget : Budget}
      (spends : s.repair.budget.spend? = some budget) :
      Move (.repair s spec)
        (.waiting ({ s with repair := { s.repair with budget } }.goTo (.repairing spec)))
  | unjudged {s : Session} {leg : Trajectory} (skips : s.judge.begin? = none) :
      Move (.found s leg) (.judged s leg true)
  | judge {s : Session} {leg : Trajectory} {judge : Judge} (asks : s.judge.begin? = some judge) :
      Move (.found s leg) (.waiting ({ s with judge }.goTo (.judging leg)))
  | confirm {s : Session} {leg : Trajectory} {accepted : Bool}
      (confirms : s.rules.confirms = true) :
      Move (.judged s leg accepted) (.waiting (s.goTo (.confirming leg)))
  | settle {s : Session} {leg : Trajectory} {accepted : Bool}
      (confirms : s.rules.confirms = false) :
      Move (.judged s leg accepted) (.settled s leg accepted)
  | complete {s : Session} {leg : Trajectory} {accepted : Bool}
      (automated : s.rules.automated = true) (flies : accepted = true ∨ s.judge.enabled = false) :
      Move (.settled s leg accepted) (.waiting ((s.fly leg).finish .completed))
  | flyOn {s : Session} {leg : Trajectory} (automated : s.rules.automated = false) :
      Move (.settled s leg true) (.turn (s.fly leg))
  | refuse {s : Session} {leg : Trajectory}
      (stays : s.rules.automated = false ∨ s.judge.enabled = true) :
      Move (.settled s leg false) (.turn s)

/-- A chain of moves. -/
abbrev Moves : Juncture → Juncture → Prop :=
  Relation.ReflTransGen Move

/-! ## These are all moves -/

theorem moves_readReply (s : Session) : Moves (.reading s) (.waiting s.readReply) := by
  unfold readReply
  split
  · rename_i fault h
    exact .single (.unreadable h)
  · rename_i spec h
    exact .single (.read h)

theorem instruct_of_isEmpty_eq_false {s : Session} (h : s.conversation.isEmpty = false) :
    s.instruct = s := by
  simp [instruct, h]

theorem isEmpty_push (c : Conversation) (m : Message) : (c.push m).isEmpty = false := by
  simp [Conversation.isEmpty]

theorem isEmpty_instruct (s : Session) : s.instruct.conversation.isEmpty = false := by
  cases h : s.conversation.isEmpty with
  | true =>
    simp only [instruct, h, if_true]
    exact isEmpty_push _ _
  | false => rw [instruct_of_isEmpty_eq_false h, h]

theorem moves_instruct (s : Session) : Moves (.turn s) (.turn s.instruct) := by
  cases h : s.conversation.isEmpty with
  | true =>
    simp only [instruct, h, if_true]
    split
    · rename_i aloud
      exact .single (.instructAloud h aloud)
    · rename_i quiet
      exact .single (.instruct h (by simpa using quiet))
  | false =>
    rw [instruct_of_isEmpty_eq_false h]

theorem moves_beginTurn (s : Session) : Moves (.turn s) (.waiting s.beginTurn) := by
  refine (moves_instruct s).trans ?_
  have instructed := isEmpty_instruct s
  unfold beginTurn
  generalize s.instruct = t at instructed ⊢
  dsimp only
  split
  · rename_i due
    exact .single (.nudgeFeedback instructed due)
  · rename_i notDue
    have due : t.feedbackDue = false := by simpa using notDue
    split
    · rename_i automated
      split
      · rename_i replies
        exact .head (.putTaskUnheard instructed due automated replies) (moves_readReply _)
      · rename_i more replies
        exact .single (.putTask instructed due automated replies)
    · rename_i notAutomated
      have automated : t.rules.automated = false := by simpa using notAutomated
      split
      · rename_i replies
        exact .head (.askTaskUnheard instructed due automated replies) (moves_readReply _)
      · rename_i more replies
        exact .single (.askTask instructed due automated replies)

theorem moves_requestRepair (s : Session) (spec : Specification) :
    Moves (.repair s spec) (.waiting (s.requestRepair spec)) := by
  unfold requestRepair SyntaxRepair.begin
  cases h : s.repair.budget.spend? with
  | none => exact .single (.noRepair h)
  | some budget => exact .single (.tryRepair h)

theorem moves_settle (s : Session) (leg : Trajectory) (accepted : Bool) :
    Moves (.settled s leg accepted) (.waiting (s.settle leg accepted)) := by
  unfold settle
  cases automated : s.rules.automated with
  | true =>
    cases accepted with
    | true => exact .single (.complete automated (.inl rfl))
    | false =>
      cases enabled : s.judge.enabled with
      | true => exact .head (.refuse (.inr enabled)) (moves_beginTurn s)
      | false => exact .single (.complete automated (.inr enabled))
  | false =>
    cases accepted with
    | true => exact .head (.flyOn automated) (moves_beginTurn _)
    | false => exact .head (.refuse (.inl automated)) (moves_beginTurn s)

theorem moves_afterJudgement (s : Session) (leg : Trajectory) (accepted : Bool) :
    Moves (.judged s leg accepted) (.waiting (s.afterJudgement leg accepted)) := by
  unfold afterJudgement
  cases confirms : s.rules.confirms with
  | true => exact .single (.confirm confirms)
  | false => exact .head (.settle confirms) (moves_settle s leg accepted)

-- there is a verdict on every leg, so what follows is the judge's affair
theorem requestJudgement_of_skipped {s : Session} (skips : s.judge.begin? = none)
    (leg : Trajectory) : s.requestJudgement leg = s.afterJudgement leg true := by
  obtain ⟨verdict, hverdict⟩ := s.mission.scenario.exists_verdict leg
  simp only [requestJudgement, hverdict, skips]

theorem requestJudgement_of_begun {s : Session} {judge : Judge}
    (begins : s.judge.begin? = some judge) (leg : Trajectory) :
    s.requestJudgement leg = { s with judge }.goTo (.judging leg) := by
  obtain ⟨verdict, hverdict⟩ := s.mission.scenario.exists_verdict leg
  simp only [requestJudgement, hverdict, begins]

theorem moves_requestJudgement (s : Session) (leg : Trajectory) :
    Moves (.found s leg) (.waiting (s.requestJudgement leg)) := by
  cases h : s.judge.begin? with
  | none =>
    rw [requestJudgement_of_skipped h]
    exact .head (.unjudged h) (moves_afterJudgement s leg true)
  | some judge =>
    rw [requestJudgement_of_begun h]
    exact .single (.judge h)

/-- From every juncture a session moves on until it waits. -/
theorem moves_next (p : Juncture) : Moves p (.waiting p.next) := by
  cases p with
  | turn s => exact moves_beginTurn s
  | reading s => exact moves_readReply s
  | repair s spec => exact moves_requestRepair s spec
  | found s leg => exact moves_requestJudgement s leg
  | judged s leg accepted => exact moves_afterJudgement s leg accepted
  | settled s leg accepted => exact moves_settle s leg accepted
  | waiting s => exact .refl

theorem Specification.eq_extraction_of_extract {reply : String} {fault : Fault}
    (h : Specification.extract reply = .error fault) : ∃ detail, fault = .extraction detail := by
  unfold Specification.extract at h
  split at h
  · cases h
  · exact ⟨_, (Except.error.inj h).symm⟩

theorem Judge.read_cases (reply : String) :
    Judge.read reply = .accepted ∨ Judge.read reply = .rejected reply := by
  unfold Judge.read
  split
  · exact .inl rfl
  · exact .inr rfl

theorem hears_heardTask {s : Session} {more : Nat} (stage : s.stage = .task more)
    (line : Operator.Line) :
    ∃ p, Hears s (.operatorAsked Operator.taskPrompt line) p ∧
      (s.recordTask line).heardTask more line = p.next := by
  rcases line with e | (_ | line)
  · exact ⟨_, .taskFailed stage, rfl⟩
  · exact ⟨_, .taskLeft stage (by simp), rfl⟩
  · cases h : Operator.isQuit line with
    | true => exact ⟨_, .taskLeft stage (by simp [h]), by simp [heardTask, h, Juncture.next]⟩
    | false => exact ⟨_, .taskPut stage h, by simp [heardTask, h, Juncture.next]⟩

theorem hears_heardReply {s : Session} {turn : Turn} (stage : s.stage = .reply turn)
    (reply : Except String String) :
    ∃ p, Hears s (.modelAsked .conversation s.conversation.messages reply) p ∧
      (s.recordReply reply).heardReply turn reply = p.next := by
  rcases reply with e | reply
  · exact ⟨_, .replyFailed stage, rfl⟩
  · cases turn with
    | feedback => exact ⟨_, .feedbackReply stage, rfl⟩
    | automated more =>
      cases h : opensPair reply with
      | true => exact ⟨_, .automatedReply stage h, by simp [heardReply, afterReply, h]; rfl⟩
      | false =>
        cases more with
        | zero => exact ⟨_, .nudgedLast stage h, by simp [heardReply, afterReply, h]; rfl⟩
        | succ more => exact ⟨_, .nudged stage h, by simp [heardReply, afterReply, h]; rfl⟩
    | interactive more =>
      cases h : opensPair reply with
      | true => exact ⟨_, .interactiveReply stage h, by simp [heardReply, afterReply, h]; rfl⟩
      | false =>
        cases more with
        | zero => exact ⟨_, .askedLast stage h, by simp [heardReply, afterReply, h]; rfl⟩
        | succ more => exact ⟨_, .askedAgain stage h, by simp [heardReply, afterReply, h]; rfl⟩

theorem hears_heardOutcome {s : Session} {spec : Specification} {repaired : Bool}
    (stage : s.stage = .solving spec repaired) (outcome : Outcome) :
    ∃ p, Hears s (.solverAsked (s.solveRequest spec) outcome) p ∧
      (s.recordOutcome spec outcome).heardOutcome spec outcome = p.next := by
  unfold heardOutcome
  cases checked : outcome.checked with
  | feasible leg controls => exact ⟨_, .solved stage checked, rfl⟩
  | infeasible reason =>
    unfold solverFailed
    cases repairs : s.rules.repairs with
    | true =>
      have repairs' : (s.recordOutcome spec outcome).rules.repairs = true := repairs
      exact ⟨_, .unsolvedRepair stage checked repairs, by simp [repairs', Juncture.next]⟩
    | false =>
      have repairs' : (s.recordOutcome spec outcome).rules.repairs = false := repairs
      cases automated : s.rules.automated with
      | true =>
        have automated' : (s.recordOutcome spec outcome).rules.automated = true := automated
        exact ⟨_, .unsolvedAbort stage checked repairs automated,
          by simp [repairs', automated', Juncture.next]⟩
      | false =>
        have automated' : (s.recordOutcome spec outcome).rules.automated = false := automated
        exact ⟨_, .unsolvedRefine stage checked repairs automated,
          by simp [repairs', automated', Juncture.next]⟩

theorem hears_heardRepair {s : Session} {spec : Specification} (stage : s.stage = .repairing spec)
    (reply : Except String String) :
    ∃ p, Hears s (.modelAsked .repair (s.repairRequest spec) reply) p ∧
      (s.recordRepair spec reply).heardRepair spec reply = p.next := by
  rcases reply with e | reply
  · exact ⟨_, .repairFailed stage, rfl⟩
  · cases extracted : Specification.extract reply with
    | ok fixed =>
      exact ⟨_, .repaired stage extracted,
        by simp [heardRepair, SyntaxRepair.conclude, extracted, Juncture.next]⟩
    | error fault =>
      obtain ⟨detail, rfl⟩ := Specification.eq_extraction_of_extract extracted
      exact ⟨_, .unrepaired stage extracted,
        by simp [heardRepair, SyntaxRepair.conclude, extracted, Juncture.next]⟩

theorem hears_heardJudgement {s : Session} {leg : Trajectory} (stage : s.stage = .judging leg)
    (reply : Except String String) :
    ∃ p, Hears s (.modelAsked .judgement (s.judgementRequest leg) reply) p ∧
      (s.recordJudgement leg reply).heardJudgement leg reply = p.next := by
  rcases reply with e | reply
  · exact ⟨_, .judgementFailed stage, rfl⟩
  · rcases Judge.read_cases reply with read | read
    · exact ⟨_, .approved stage read,
        by simp [heardJudgement, Judge.conclude, read, Juncture.next]⟩
    · exact ⟨_, .turnedDown stage read,
        by simp [heardJudgement, Judge.conclude, read, Juncture.next]⟩

theorem goTo_of_stage_eq {s : Session} {stage : Stage} (h : s.stage = stage) :
    s.goTo stage = s := by
  rw [← h]
  rfl

theorem hears_heardWord {s : Session} {leg : Trajectory} (stage : s.stage = .confirming leg)
    (line : Operator.Line) :
    ∃ p, Hears s (.operatorAsked Operator.confirmPrompt line) p ∧
      (s.recordWord line).heardWord leg line = p.next := by
  rcases line with e | (_ | line)
  · exact ⟨_, .wordFailed stage, rfl⟩
  · exact ⟨_, .wordMissing stage, rfl⟩
  · cases h : Operator.answer? line with
    | some accepted => exact ⟨_, .wordGiven stage h, by simp [heardWord, h, Juncture.next]⟩
    | none =>
      have still : ((s.recordWord (.ok (some line))).say Operator.invalidAnswer).stage =
        .confirming leg := stage
      exact ⟨_, .wordUnclear stage h,
        by simp [heardWord, h, Juncture.next, goTo_of_stage_eq still]⟩

/-- An answer that does not fit changes nothing; one that fits is recorded and leads to a
juncture from which the session moves on. -/
theorem resume_eq (s : Session) (answer : Answer) :
    (s.query.bind (·.answered? answer) = none ∧ s.resume answer = s) ∨
      ∃ e p, s.query.bind (·.answered? answer) = some e ∧ Hears s e p ∧
        s.resume answer = p.next := by
  have same : ∀ e : Event, (s.record e).stage = s.stage := fun _ => rfl
  unfold resume query hear
  cases stage : s.stage <;> cases answer <;>
    simp only [Option.bind_some, Option.bind_none, Query.answered?, same, stage, true_or, true_and]
  case task.line more line =>
    obtain ⟨p, hears, next⟩ := hears_heardTask stage line
    exact .inr ⟨_, p, rfl, hears, next⟩
  case reply.reply turn reply =>
    obtain ⟨p, hears, next⟩ := hears_heardReply stage reply
    exact .inr ⟨_, p, rfl, hears, next⟩
  case solving.outcome spec repaired outcome =>
    obtain ⟨p, hears, next⟩ := hears_heardOutcome stage outcome
    exact .inr ⟨_, p, rfl, hears, next⟩
  case repairing.reply spec reply =>
    obtain ⟨p, hears, next⟩ := hears_heardRepair stage reply
    exact .inr ⟨_, p, rfl, hears, next⟩
  case judging.reply leg reply =>
    obtain ⟨p, hears, next⟩ := hears_heardJudgement stage reply
    exact .inr ⟨_, p, rfl, hears, next⟩
  case confirming.line leg line =>
    obtain ⟨p, hears, next⟩ := hears_heardWord stage line
    exact .inr ⟨_, p, rfl, hears, next⟩

/-- An answer that fits is recorded and heard. -/
theorem resume_of_query {s : Session} {q : Query} {answer : Answer} {e : Event}
    (asks : s.query = some q) (fits : q.answered? answer = some e) :
    s.resume answer = (s.record e).hear answer := by
  rw [resume, asks, Option.bind_some, fits]

theorem query_of_solving {s : Session} {spec : Specification} {repaired : Bool}
    (stage : s.stage = .solving spec repaired) :
    s.query = some (.solver (s.solveRequest spec)) := by
  rw [query, stage]
  rfl

theorem query_of_repairing {s : Session} {spec : Specification}
    (stage : s.stage = .repairing spec) :
    s.query = some (.model .repair (s.repairRequest spec)) := by
  rw [query, stage]
  rfl

theorem query_of_judging {s : Session} {leg : Trajectory} (stage : s.stage = .judging leg) :
    s.query = some (.model .judgement (s.judgementRequest leg)) := by
  rw [query, stage]
  rfl

/-- An outcome that is awaited is recorded and checked. -/
theorem resume_of_solving {s : Session} {spec : Specification} {repaired : Bool}
    (stage : s.stage = .solving spec repaired) (outcome : Outcome) :
    s.resume (.outcome outcome) = (s.recordOutcome spec outcome).heardOutcome spec outcome := by
  have still (e : Event) : (s.record e).stage = .solving spec repaired := stage
  rw [resume_of_query (query_of_solving stage) rfl]
  unfold hear
  rw [still]
  rfl

/-- A reply that is awaited for a repair is recorded and read. -/
theorem resume_of_repairing {s : Session} {spec : Specification}
    (stage : s.stage = .repairing spec) (reply : Except String String) :
    s.resume (.reply reply) = (s.recordRepair spec reply).heardRepair spec reply := by
  have still (e : Event) : (s.record e).stage = .repairing spec := stage
  rw [resume_of_query (query_of_repairing stage) rfl]
  unfold hear
  rw [still]
  rfl

/-- A reply that is awaited for a judgement is recorded and read. -/
theorem resume_of_judging {s : Session} {leg : Trajectory} (stage : s.stage = .judging leg)
    (reply : Except String String) :
    s.resume (.reply reply) = (s.recordJudgement leg reply).heardJudgement leg reply := by
  have still (e : Event) : (s.record e).stage = .judging leg := stage
  rw [resume_of_query (query_of_judging stage) rfl]
  unfold hear
  rw [still]
  rfl

/-- Whoever is heard was asked. -/
theorem Hears.answered {s : Session} {e : Event} {p : Juncture} (h : Hears s e p) :
    ∃ q answer, s.query = some q ∧ q.answered? answer = some e := by
  cases h with
  | taskFailed stage | taskLeft stage | taskPut stage | wordFailed stage | wordMissing stage
  | wordGiven stage | wordUnclear stage =>
    exact ⟨_, .line _, by rw [query, stage], rfl⟩
  | solved stage | unsolvedRepair stage | unsolvedAbort stage | unsolvedRefine stage =>
    exact ⟨_, .outcome _, by rw [query, stage], rfl⟩
  | replyFailed stage | feedbackReply stage | automatedReply stage | nudged stage | nudgedLast stage
  | interactiveReply stage | askedAgain stage | askedLast stage | repairFailed stage
  | repaired stage | unrepaired stage | judgementFailed stage | approved stage | turnedDown stage =>
    exact ⟨_, .reply _, by rw [query, stage], rfl⟩

end Sortie
