import Sortie.Proofs.Session.Calls
/-!
# Bounds of automated sessions

An automated session whose operator has no last word needs no operator. What it may still
ask for is read off each juncture: how often the solver at most, and how many replies of
the conversation. An answer uses up one of these, and only an attempt that a budget counts
makes more. The budgets thus bound all calls, and every run ends.
-/

namespace Sortie

open Session

/-! ## Without an operator -/

/-- An operator takes part. -/
def Stage.isAttended : Stage → Bool
  | task _ | confirming _ | reply (.interactive _) => true
  | _ => false

/-- A session that waits may wait for an operator, or for the reply to one. -/
def Juncture.isAttended : Juncture → Bool
  | waiting s => s.stage.isAttended
  | _ => false

/-- The leg was turned down. -/
def Juncture.isRefused : Juncture → Bool
  | judged _ _ accepted | settled _ _ accepted => !accepted
  | _ => false

/-- A turn in which a task is to be put to the model. -/
def Juncture.putsTask : Juncture → Bool
  | turn s => !s.feedbackDue
  | _ => false

/-- What was said by users. -/
def Conversation.userMessages (c : Conversation) : List Message :=
  c.messages.filter (·.role == .user)

/-- An automated session goes on without an operator: the scenario's task is put to the
model in the first turn, and each later turn follows a leg that was turned down. -/
structure Unattended (p : Juncture) : Prop where
  automated : p.session.rules.automated = true
  confirms : p.session.rules.confirms = false
  attended : p.isAttended = false
  unasked : p.session.log.countP Event.asksOperator = 0
  told : p.isRefused = true → p.session.feedbackDue = true
  task : p.session.conversation.userMessages =
    if p.putsTask then [] else [.user p.session.mission.scenario.task]

theorem userMessages_push_of_ne (c : Conversation) {m : Message}
    (other : (m.role == .user) = false) :
    (c.push m).userMessages = c.userMessages := by
  simp [Conversation.userMessages, other]

theorem userMessages_push_user (c : Conversation) (text : String) :
    (c.push (.user text)).userMessages = c.userMessages ++ [.user text] := by
  have same : ((Message.user text).role == .user) = true := rfl
  simp [Conversation.userMessages, same]

/-- Without an operator an answer comes from the model or the solver. It leads to another
juncture without an operator, and adds nothing to what users said. -/
theorem Hears.unattended {s : Session} {e : Event} {p : Juncture} (h : Hears s e p)
    (unattended : Unattended (.waiting s)) :
    e.asksOperator = false ∧ p.isAttended = false ∧
      (p.isRefused = true → p.session.feedbackDue = true) ∧ p.putsTask = false ∧
      p.session.conversation.userMessages = s.conversation.userMessages := by
  have attended : s.stage.isAttended = false := unattended.attended
  have reply : ∀ c text, (Conversation.push c (.assistant text)).userMessages = c.userMessages :=
    fun c text => userMessages_push_of_ne c rfl
  have system : ∀ c text, (Conversation.push c (.system text)).userMessages = c.userMessages :=
    fun c text => userMessages_push_of_ne c rfl
  cases h with
  | taskFailed stage | taskLeft stage | taskPut stage | wordFailed stage | wordMissing stage
  | wordGiven stage | wordUnclear stage | interactiveReply stage | askedAgain stage
  | askedLast stage =>
    -- an operator takes part only in sessions that are attended
    rw [stage] at attended
    cases attended
  | unsolvedRefine _ _ _ automated => cases automated.symm.trans unattended.automated
  | feedbackReply | automatedReply => exact ⟨rfl, rfl, nofun, rfl, reply _ _⟩
  | nudged | nudgedLast => exact ⟨rfl, rfl, nofun, rfl, (system _ _).trans (reply _ _)⟩
  | turnedDown => exact ⟨rfl, rfl, fun _ => rfl, rfl, system _ _⟩
  | _ => exact ⟨rfl, rfl, nofun, rfl, rfl⟩

theorem Unattended.hears {s : Session} {e : Event} {p : Juncture}
    (h : Unattended (.waiting s)) (step : Hears s e p) : Unattended p := by
  obtain ⟨other, attended, told, later, said⟩ := step.unattended h
  constructor
  · rw [Session.rules, step.mission]
    exact h.automated
  · rw [Session.rules, step.mission]
    exact h.confirms
  · exact attended
  · have unasked : s.log.countP Event.asksOperator = 0 := h.unasked
    rw [step.countP fun _ => rfl, unasked, List.countP_singleton, other]
    rfl
  · exact told
  · rw [said, later, step.mission]
    exact h.task

theorem Move.feedbackDue {p q : Juncture} (h : Move p q) (unattended : Unattended p)
    (refused : q.isRefused = true) : q.session.feedbackDue = true := by
  cases h with
  | settle => exact unattended.told refused
  | _ => cases refused

theorem Move.isAttended {p q : Juncture} (h : Move p q) (unattended : Unattended p) :
    q.isAttended = false := by
  cases h with
  | askTask _ _ automated => cases automated.symm.trans unattended.automated
  | confirm confirms => cases confirms.symm.trans unattended.confirms
  | _ => rfl

theorem Move.task {p q : Juncture} (h : Move p q) (unattended : Unattended p) :
    q.session.conversation.userMessages =
      if q.putsTask then [] else [.user q.session.mission.scenario.task] := by
  have said := unattended.task
  have system : ∀ c text, (Conversation.push c (.system text)).userMessages = c.userMessages :=
    fun c text => userMessages_push_of_ne c rfl
  cases h with
  | instruct | instructAloud => exact (system _ _).trans said
  | nudgeFeedback _ due =>
    rw [Juncture.putsTask, due] at said
    exact (system _ _).trans said
  | @putTask s more _ due | @putTaskUnheard s _ due =>
    rw [Juncture.putsTask, due] at said
    have said : s.conversation.userMessages = [] := said
    exact (userMessages_push_user _ _).trans (congrArg (· ++ [_]) said)
  | askTask _ _ automated | askTaskUnheard _ _ automated | flyOn automated =>
    cases automated.symm.trans unattended.automated
  | complete =>
    show (fly _ _).conversation.userMessages = [.user (fly _ _).mission.scenario.task]
    rw [fly_conversation, fly_mission]
    exact said
  | @refuse s =>
    have due : s.feedbackDue = true := unattended.told rfl
    rw [Juncture.putsTask, due]
    exact said
  | _ => exact said

theorem Unattended.moves {p q : Juncture} (h : Unattended p) (step : Move p q) :
    Unattended q where
  automated := by
    rw [Session.rules, step.mission]
    exact h.automated
  confirms := by
    rw [Session.rules, step.mission]
    exact h.confirms
  attended := step.isAttended h
  unasked := (step.countP fun _ => rfl).trans h.unasked
  told := step.feedbackDue h
  task := step.task h

theorem Invariant.unattended {mission : Mission} (automated : mission.rules.automated = true)
    (confirms : mission.rules.confirms = false) : Invariant mission Unattended where
  begins := ⟨automated, confirms, rfl, rfl, nofun, rfl⟩
  hears hs step := hs.hears step
  moves hp step := hp.moves step

/-! ## What may still be asked for -/

/-- How often the solver is still asked if no further attempt is counted. -/
def Stage.solvesLeft : Stage → Nat
  | reply _ | solving _ _ | repairing _ | judging _ => 1
  | _ => 0

/-- How many replies the conversation still takes if no further attempt is counted. -/
def Stage.repliesLeft : Stage → Nat
  | reply .feedback => 1
  | reply (.automated more) => more + 1
  | judging _ => 1
  | _ => 0

def Juncture.solvesLeft : Juncture → Nat
  | turn _ | reading _ => 1
  | repair _ _ | found _ _ => 0
  | judged _ _ accepted | settled _ _ accepted => if accepted then 0 else 1
  | waiting s => s.stage.solvesLeft

def Juncture.repliesLeft : Juncture → Nat
  | turn s => if s.feedbackDue then 1 else s.rules.maxReplies
  | reading _ | repair _ _ | found _ _ => 0
  | judged _ _ accepted | settled _ _ accepted => if accepted then 0 else 1
  | waiting s => s.stage.repliesLeft

/-- Answers use up what is left. -/
theorem Hears.left {s : Session} {e : Event} {p : Juncture} (h : Hears s e p)
    (unattended : Unattended (.waiting s)) :
    solverCalls [e] + p.solvesLeft ≤ s.stage.solvesLeft ∧
      callsFor .conversation [e] + p.repliesLeft ≤ s.stage.repliesLeft := by
  have attended : s.stage.isAttended = false := unattended.attended
  cases h with
  | taskFailed stage | taskLeft stage | taskPut stage | wordFailed stage | wordMissing stage
  | wordGiven stage | wordUnclear stage | interactiveReply stage | askedAgain stage
  | askedLast stage =>
    rw [stage] at attended
    cases attended
  | unsolvedRefine _ _ _ automated => cases automated.symm.trans unattended.automated
  | @replyFailed turn e stage =>
    rw [stage] at attended
    rw [stage]
    refine ⟨show 0 + 0 ≤ 1 by decide, ?_⟩
    cases turn with
    | feedback => exact show 1 + 0 ≤ 1 by decide
    | automated more => exact show 1 + 0 ≤ more + 1 by omega
    | interactive more => cases attended
  | feedbackReply stage | nudgedLast stage =>
    rw [stage]
    exact ⟨show 0 + 1 ≤ 1 by decide, show 1 + 0 ≤ 1 by decide⟩
  | @automatedReply more reply stage =>
    rw [stage]
    exact ⟨show 0 + 1 ≤ 1 by decide, show 1 + 0 ≤ more + 1 by omega⟩
  | @nudged more reply stage =>
    rw [stage]
    exact ⟨show 0 + 1 ≤ 1 by decide, show 1 + (more + 1) ≤ more + 1 + 1 by omega⟩
  | solved stage | unsolvedRepair stage | unsolvedAbort stage =>
    rw [stage]
    exact ⟨show 1 + 0 ≤ 1 by decide, show 0 + 0 ≤ 0 by decide⟩
  | repairFailed stage | unrepaired stage =>
    rw [stage]
    exact ⟨show 0 + 0 ≤ 1 by decide, show 0 + 0 ≤ 0 by decide⟩
  | repaired stage =>
    rw [stage]
    exact ⟨show 0 + 1 ≤ 1 by decide, show 0 + 0 ≤ 0 by decide⟩
  | judgementFailed stage | approved stage =>
    rw [stage]
    exact ⟨show 0 + 0 ≤ 1 by decide, show 0 + 0 ≤ 1 by decide⟩
  | turnedDown stage =>
    rw [stage]
    exact ⟨show 0 + 1 ≤ 1 by decide, show 0 + 1 ≤ 1 by decide⟩

/-- The attempts that the budgets have counted. -/
def Juncture.attempts (p : Juncture) : Nat :=
  p.session.repair.budget.count + p.session.judge.budget.count

/-- Nothing is gained by going on, except by an attempt that is counted. -/
theorem Move.left {p q : Juncture} (h : Move p q) (unattended : Unattended p) :
    q.solvesLeft + p.attempts ≤ p.solvesLeft + q.attempts ∧
      q.repliesLeft + p.session.judge.budget.count ≤
        p.repliesLeft + q.session.judge.budget.count := by
  cases h with
  | askTask _ _ automated | askTaskUnheard _ _ automated | flyOn automated =>
    cases automated.symm.trans unattended.automated
  | confirm confirms => cases confirms.symm.trans unattended.confirms
  | @nudgeFeedback s _ due =>
    refine ⟨Nat.le_refl _, Nat.add_le_add_right ?_ _⟩
    show 1 ≤ if s.feedbackDue then 1 else s.rules.maxReplies
    rw [due]
    exact Nat.le_refl 1
  | @putTask s more _ due _ replies =>
    refine ⟨Nat.le_refl _, Nat.add_le_add_right ?_ _⟩
    show more + 1 ≤ if s.feedbackDue then 1 else s.rules.maxReplies
    rw [due, replies]
    exact Nat.le_refl _
  | putTaskUnheard => exact ⟨Nat.le_refl _, Nat.add_le_add_right (Nat.zero_le _) _⟩
  | unreadable => exact ⟨Nat.add_le_add_right (Nat.zero_le _) _, Nat.le_refl _⟩
  | @tryRepair s spec budget spends =>
    -- the attempt that is counted pays for the solver being asked once more
    obtain ⟨-, -, count⟩ := Budget.remaining_of_spend? spends
    refine ⟨?_, Nat.le_refl _⟩
    show 1 + (s.repair.budget.count + s.judge.budget.count) ≤
      0 + (budget.count + s.judge.budget.count)
    omega
  | @judge s leg judge asks =>
    -- so does a judgement, and for one more reply, as the judge may turn the leg down
    obtain ⟨-, spends, -⟩ := Judge.of_begin? asks
    obtain ⟨-, -, count⟩ := Budget.remaining_of_spend? spends
    constructor
    · show 1 + (s.repair.budget.count + s.judge.budget.count) ≤
        0 + (s.repair.budget.count + judge.budget.count)
      omega
    · show 1 + s.judge.budget.count ≤ 0 + judge.budget.count
      omega
  | @complete s leg =>
    constructor
    · show 0 + (s.repair.budget.count + s.judge.budget.count) ≤
        _ + ((s.fly leg).repair.budget.count + (s.fly leg).judge.budget.count)
      rw [fly_repair, fly_judge]
      exact Nat.add_le_add_right (Nat.zero_le _) _
    · show 0 + s.judge.budget.count ≤ _ + (s.fly leg).judge.budget.count
      rw [fly_judge]
      exact Nat.add_le_add_right (Nat.zero_le _) _
  | @refuse s =>
    -- only the judge turned the leg down, so feedback is due and no new task is put
    have due : s.feedbackDue = true := unattended.told rfl
    refine ⟨Nat.le_refl _, Nat.add_le_add_right ?_ _⟩
    show (if s.feedbackDue then 1 else s.rules.maxReplies) ≤ 1
    rw [due]
    exact Nat.le_refl 1
  | instruct | instructAloud | read | noRepair | unjudged | settle =>
    exact ⟨Nat.le_refl _, Nat.le_refl _⟩

/-- Calls made and calls left are within what the first turn and the attempts allow. -/
structure Thrifty (p : Juncture) : Prop where
  solves : solverCalls p.session.log + p.solvesLeft ≤ 1 + p.attempts
  replies : callsFor .conversation p.session.log + p.repliesLeft ≤
    p.session.rules.maxReplies + p.session.judge.budget.count

theorem Thrifty.new (mission : Mission) : Thrifty (.turn (.new mission)) := by
  constructor
  · exact Nat.le_add_right 1 _
  · show 0 + mission.rules.maxReplies ≤ mission.rules.maxReplies + _
    omega

theorem Thrifty.hears {s : Session} {e : Event} {p : Juncture}
    (unattended : Unattended (.waiting s)) (h : Thrifty (.waiting s)) (step : Hears s e p) :
    Thrifty p := by
  obtain ⟨solves, replies⟩ := step.left unattended
  have solvesBefore : solverCalls s.log + s.stage.solvesLeft ≤
    1 + (s.repair.budget.count + s.judge.budget.count) := h.solves
  have repliesBefore : callsFor .conversation s.log + s.stage.repliesLeft ≤
    s.rules.maxReplies + s.judge.budget.count := h.replies
  obtain ⟨repair, judge⟩ := step.checkers
  constructor
  · rw [step.solverCalls_eq, Juncture.attempts, repair, judge]
    omega
  · rw [step.callsFor_eq, judge, Session.rules, step.mission]
    show _ ≤ s.rules.maxReplies + _
    omega

theorem Thrifty.moves {p q : Juncture} (unattended : Unattended p) (h : Thrifty p)
    (step : Move p q) : Thrifty q := by
  obtain ⟨solves, replies⟩ := step.left unattended
  have solvesBefore := h.solves
  have repliesBefore := h.replies
  constructor
  · rw [step.solverCalls_eq]
    omega
  · rw [step.callsFor_eq, Session.rules, step.mission]
    show _ ≤ p.session.rules.maxReplies + _
    omega

theorem Invariant.thrifty {mission : Mission} (automated : mission.rules.automated = true)
    (confirms : mission.rules.confirms = false) :
    Invariant mission fun p => Unattended p ∧ Thrifty p :=
  (Invariant.unattended automated confirms).and (.new mission)
    (fun unattended h step => h.hears unattended step)
    (fun unattended h step => h.moves unattended step)

/-! ## Main result -/

/-- Each answer that fits is one question asked. -/
theorem Fitting.countP_isQuestion {mission : Mission} {answers : List Answer}
    (h : Fitting mission answers) :
    (Session.after mission answers).log.countP Event.isQuestion = answers.length := by
  have printed := countP_printed (P := Event.isQuestion) fun _ => rfl
  induction h with
  | nil =>
    obtain ⟨lines, hlog⟩ := Moves.log (moves_next (.turn (.new mission)))
    have hlog : (begin mission).log = lines.map .printed := hlog
    exact (congrArg _ hlog).trans (printed lines)
  | @concat answers answer e before fits ih =>
    obtain ⟨lines, hlog⟩ := log_resume fits
    have question : e.isQuestion = true := isQuestion_of_answered fits
    rw [after_concat, hlog, List.countP_append, List.countP_append, ih, printed,
      List.countP_singleton, question, List.length_append]
    rfl

/-- How many repairs the rules permit. -/
def Rules.repairsPermitted (r : Rules) : Nat :=
  if r.repairs then r.repairLimit else 0

/-- How many judgements the rules permit. -/
def Rules.judgementsPermitted (r : Rules) : Nat :=
  if r.judges then r.judgeLimit else 0

/-- The budgets count no more attempts than the rules permit. -/
theorem count_le_permitted {s : Session} (equipped : Equipped s)
    (attempts : Attempts (.waiting s)) :
    s.repair.budget.count ≤ s.rules.repairsPermitted ∧
      s.judge.budget.count ≤ s.rules.judgementsPermitted := by
  have repairs := s.repair.budget.count_le_limit
  have judgements := s.judge.budget.count_le_limit
  rw [equipped.repairLimit] at repairs
  rw [equipped.judgeLimit] at judgements
  refine ⟨?_, judgements⟩
  unfold Rules.repairsPermitted
  split
  · exact repairs
  · rename_i off
    obtain ⟨-, none⟩ := attempts.unrepaired (eq_false_of_ne_true off)
    exact Nat.le_of_eq none

/-- A session that goes on without an operator asks the solver once more at least. -/
theorem solvesLeft_of_query {s : Session} {q : Query} (unattended : Unattended (.waiting s))
    (h : s.query = some q) : s.stage.solvesLeft = 1 := by
  have attended : s.stage.isAttended = false := unattended.attended
  cases stage : s.stage with
  | opening | ended ending =>
    rw [query, stage] at h
    cases h
  | task more | confirming leg =>
    rw [stage] at attended
    cases attended
  | reply turn | solving spec repaired | repairing spec | judging leg => rfl

/-- The calls of a session that goes on by itself, and one more as long
as it is not over. -/
theorem calls_bounded {mission : Mission} (automated : mission.rules.automated = true)
    (confirms : mission.rules.confirms = false) (answers : List Answer) :
    let s := Session.after mission answers
    let r := mission.rules
    solverCalls s.log ≤ 1 + r.repairsPermitted + r.judgementsPermitted ∧
      modelCalls s.log ≤ r.maxReplies + r.repairsPermitted + 2 * r.judgementsPermitted ∧
      (s.stage.ending? = none → solverCalls s.log + modelCalls s.log <
        1 + r.repairsPermitted + r.judgementsPermitted +
          (r.maxReplies + r.repairsPermitted + 2 * r.judgementsPermitted)) := by
  intro s r
  obtain ⟨unattended, thrifty⟩ := (Invariant.thrifty automated confirms).after answers
  have attempts := (Invariant.attempts mission).after answers
  have same : s.rules = r := congrArg Mission.rules (mission_after mission answers)
  obtain ⟨repairs, judgements⟩ :=
    count_le_permitted ((Invariant.equipped mission).after answers) attempts
  have solves : solverCalls s.log + s.stage.solvesLeft ≤
    1 + (s.repair.budget.count + s.judge.budget.count) := thrifty.solves
  have replies : callsFor .conversation s.log + s.stage.repliesLeft ≤
    s.rules.maxReplies + s.judge.budget.count := thrifty.replies
  have repairCalls : callsFor .repair s.log + s.stage.repairsAwaited = s.repair.budget.count :=
    attempts.repairs
  have judgementCalls : callsFor .judgement s.log + s.stage.judgementsAwaited =
    s.judge.budget.count := attempts.judgements
  have repairs : s.repair.budget.count ≤ s.rules.repairsPermitted := repairs
  have judgements : s.judge.budget.count ≤ s.rules.judgementsPermitted := judgements
  rw [same] at replies repairs judgements
  rw [modelCalls_eq]
  refine ⟨by omega, by omega, fun goesOn => ?_⟩
  obtain ⟨q, asks⟩ := exists_query ((Invariant.begun mission).after answers) goesOn
  have left : s.stage.solvesLeft = 1 := solvesLeft_of_query unattended asks
  omega

/-- A session that goes on by itself has not been given all the answers
that its rules allow for. -/
theorem Fitting.length_lt {mission : Mission} {answers : List Answer}
    (fitting : Fitting mission answers) (automated : mission.rules.automated = true)
    (confirms : mission.rules.confirms = false)
    (goesOn : (Session.after mission answers).stage.ending? = none) :
    let r := mission.rules
    answers.length < 1 + r.repairsPermitted + r.judgementsPermitted +
      (r.maxReplies + r.repairsPermitted + 2 * r.judgementsPermitted) := by
  intro r
  obtain ⟨-, -, few⟩ := calls_bounded automated confirms answers
  obtain ⟨unattended, -⟩ := (Invariant.thrifty automated confirms).after answers
  have unasked : (Session.after mission answers).log.countP Event.asksOperator = 0 :=
    unattended.unasked
  have asked := fitting.countP_isQuestion
  rw [Sortie.countP_isQuestion, unasked] at asked
  have few := few goesOn
  rw [← asked, Nat.add_zero, Nat.add_comm]
  exact few

/-- An automated session whose operator has no last word ends in any world. Its budgets
bound how often it asks the solver and the model; it puts its task to the model once,
and asks no operator. -/
theorem automated_run_bounded {σ : Type} (w : World (StateM σ)) (env : σ) (mission : Mission)
    (automated : mission.rules.automated = true) (confirms : mission.rules.confirms = false)
    (questions : Nat) :
    let s := ((run w questions (begin mission)).run env).1
    let r := mission.rules
    let solverBound := 1 + r.repairsPermitted + r.judgementsPermitted
    let modelBound := r.maxReplies + r.repairsPermitted + 2 * r.judgementsPermitted
    solverCalls s.log ≤ solverBound ∧ modelCalls s.log ≤ modelBound ∧
      (solverBound + modelBound ≤ questions → s.stage.ending?.isSome = true) ∧
      s.conversation.messages.filter (·.role == .user) = [.user mission.scenario.task] ∧
      ∀ e ∈ s.log, e.asksOperator = false := by
  intro s r solverBound modelBound
  obtain ⟨answers, fitting, ends, finished⟩ := exists_run_eq_after w mission questions env
  have ends : s = Session.after mission answers := ends
  obtain ⟨unattended, -⟩ := (Invariant.thrifty automated confirms).after answers
  obtain ⟨solves, asks, -⟩ := calls_bounded automated confirms answers
  have unasked : (Session.after mission answers).log.countP Event.asksOperator = 0 :=
    unattended.unasked
  rw [ends]
  refine ⟨solves, asks, ?_, ?_, ?_⟩
  · intro enough
    rcases finished with finished | length
    · exact finished
    · cases ending : (Session.after mission answers).stage.ending? with
      | some how => rfl
      | none =>
        have few := fitting.length_lt automated confirms ending
        exact absurd few (Nat.not_lt.mpr (length ▸ enough))
  · have said : (Session.after mission answers).conversation.userMessages = [.user
      (Session.after mission answers).mission.scenario.task] := unattended.task
    rw [mission_after] at said
    exact said
  · intro e he
    have none := List.countP_eq_zero.mp unasked e he
    simpa using none

/-- The model hesitates before each specification, and the solver can use none. -/
def vainWorld : World (StateM Nat) where
  model _ := fun calls => (.ok (if calls % 2 = 0 then "Let me think." else "<goal>"), calls + 1)
  solver _ := pure (.infeasible "out of reach")
  operator _ := pure (.ok none)

/-- Two repairs and one judgement are permitted. -/
def Rules.sparing : Rules :=
  { Rules.unchecked with
    automated := true, repairs := true, repairLimit := 2, judges := true, judgeLimit := 1 }

/-- Eleven questions are enough. -/
theorem vain_run_ends :
    let s := ((run vainWorld 11 (begin (openMission .sparing))).run 0).1
    s.stage.ending?.isSome = true ∧ solverCalls s.log ≤ 4 ∧ modelCalls s.log ≤ 7 := by
  obtain ⟨solves, asks, ends, -⟩ :=
    automated_run_bounded vainWorld 0 (openMission .sparing) rfl rfl 11
  exact ⟨ends (by decide), solves, asks⟩

end Sortie
