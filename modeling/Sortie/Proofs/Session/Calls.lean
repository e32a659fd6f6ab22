import Sortie.Proofs.Session.Runs
/-!
# Calls and attempts

What a session asks of the model and the solver is counted from its log. The budgets count
the attempts at repairs and judgements, and `Invariant.attempts` says that both counts
agree: an attempt is one call of the model, whatever comes of it.
-/

namespace Sortie

open Session

/-! ## Calls -/

/-- The model was asked for this purpose. -/
def Event.asksModelFor (purpose : Purpose) : Event → Bool
  | modelAsked p _ _ => p = purpose
  | _ => false

def Event.asksModel : Event → Bool
  | modelAsked _ _ _ => true
  | _ => false

def Event.asksSolver : Event → Bool
  | solverAsked _ _ => true
  | _ => false

def Event.asksOperator : Event → Bool
  | operatorAsked _ _ => true
  | _ => false

/-- Somebody was asked. -/
def Event.isQuestion (e : Event) : Bool :=
  e.asksModel || e.asksSolver || e.asksOperator

/-- How often the model was asked. -/
def modelCalls (log : List Event) : Nat :=
  log.countP Event.asksModel

/-- How often the model was asked for this purpose. -/
def callsFor (purpose : Purpose) (log : List Event) : Nat :=
  log.countP (Event.asksModelFor purpose)

/-- How often the solver was asked. -/
def solverCalls (log : List Event) : Nat :=
  log.countP Event.asksSolver

/-- The model is asked for nothing but its three purposes. -/
theorem modelCalls_eq (log : List Event) :
    modelCalls log =
      callsFor .conversation log + callsFor .repair log + callsFor .judgement log := by
  unfold modelCalls callsFor
  induction log with
  | nil => rfl
  | cons e log ih =>
    rw [List.countP_cons, List.countP_cons, List.countP_cons, List.countP_cons, ih]
    rcases e with ⟨purpose, messages, reply⟩ | _ | _ | _
    · cases purpose <;> simp [Event.asksModel, Event.asksModelFor] <;> omega
    · rfl
    · rfl
    · rfl

/-- Each question is put to the model, the solver or the operator. -/
theorem countP_isQuestion (log : List Event) :
    log.countP Event.isQuestion =
      modelCalls log + solverCalls log + log.countP Event.asksOperator := by
  unfold modelCalls solverCalls
  induction log with
  | nil => rfl
  | cons e log ih =>
    rw [List.countP_cons, List.countP_cons, List.countP_cons, List.countP_cons, ih]
    rcases e with _ | _ | _ | _ <;>
      simp [Event.isQuestion, Event.asksModel, Event.asksSolver, Event.asksOperator] <;> omega

/-- Whoever is answered was asked. -/
theorem isQuestion_of_answered {s : Session} {answer : Answer} {e : Event}
    (h : s.query.bind (·.answered? answer) = some e) : e.isQuestion = true := by
  obtain ⟨q, -, fits⟩ := Option.bind_eq_some_iff.mp h
  cases q <;> cases answer <;> cases fits <;> rfl

/-- What is printed does not count. -/
theorem countP_printed {P : Event → Bool} (printed : ∀ line, P (.printed line) = false)
    (lines : List String) : (lines.map Event.printed).countP P = 0 := by
  rw [List.countP_map, List.countP_eq_zero]
  intro line _ counts
  rw [Function.comp_apply, printed] at counts
  cases counts

theorem Hears.countP {s : Session} {e : Event} {p : Juncture} (h : Hears s e p) {P : Event → Bool}
    (printed : ∀ line, P (.printed line) = false) :
    p.session.log.countP P = s.log.countP P + [e].countP P := by
  obtain ⟨lines, hlog⟩ := h.log
  rw [hlog, List.countP_append, List.countP_append, countP_printed printed, Nat.add_zero]

theorem Move.countP {p q : Juncture} (h : Move p q) {P : Event → Bool}
    (printed : ∀ line, P (.printed line) = false) :
    q.session.log.countP P = p.session.log.countP P := by
  obtain ⟨lines, hlog⟩ := h.log
  rw [hlog, List.countP_append, countP_printed printed, Nat.add_zero]

theorem Hears.callsFor_eq {s : Session} {e : Event} {p : Juncture} (h : Hears s e p)
    (purpose : Purpose) :
    callsFor purpose p.session.log = callsFor purpose s.log + callsFor purpose [e] :=
  h.countP fun _ => rfl

theorem Hears.solverCalls_eq {s : Session} {e : Event} {p : Juncture} (h : Hears s e p) :
    solverCalls p.session.log = solverCalls s.log + solverCalls [e] :=
  h.countP fun _ => rfl

theorem Move.callsFor_eq {p q : Juncture} (h : Move p q) (purpose : Purpose) :
    callsFor purpose q.session.log = callsFor purpose p.session.log :=
  h.countP fun _ => rfl

theorem Move.solverCalls_eq {p q : Juncture} (h : Move p q) :
    solverCalls q.session.log = solverCalls p.session.log :=
  h.countP fun _ => rfl

/-! ## Budgets -/

theorem Judge.of_begin? {j k : Judge} (h : j.begin? = some k) :
    j.enabled = true ∧ j.budget.spend? = some k.budget ∧ k = { j with budget := k.budget } := by
  unfold begin? at h
  split at h
  · rename_i enabled
    obtain ⟨budget, hbudget, rfl⟩ := Option.map_eq_some_iff.mp h
    exact ⟨enabled, hbudget, rfl⟩
  · cases h

/-- The checkers of a session are those that its mission asks for. -/
structure Equipped (s : Session) : Prop where
  judges : s.judge.enabled = s.rules.judges
  judgeLimit : s.judge.budget.limit = if s.rules.judges then s.rules.judgeLimit else 0
  repairLimit : s.repair.budget.limit = s.rules.repairLimit
  repairInstructions : s.repair.instructions = s.mission.instructions.repair

theorem Equipped.congr {s t : Session} (h : Equipped s) (mission : t.mission = s.mission)
    (judge : t.judge = s.judge) (repair : t.repair = s.repair) : Equipped t := by
  obtain ⟨h1, h2, h3, h4⟩ := h
  constructor <;> simpa only [Session.rules, mission, judge, repair]

theorem Equipped.new (mission : Mission) : Equipped (Session.new mission) := by
  constructor
  · show (if mission.rules.judges then _ else Judge.disabled).enabled = mission.rules.judges
    cases h : mission.rules.judges <;> rfl
  · show (if mission.rules.judges then _ else Judge.disabled).budget.limit =
      if mission.rules.judges then mission.rules.judgeLimit else 0
    cases h : mission.rules.judges <;> rfl
  · rfl
  · rfl

theorem Invariant.equipped (mission : Mission) :
    Invariant mission fun p => Equipped p.session where
  begins := .new mission
  hears hs step := by cases step <;> exact hs.congr rfl rfl rfl
  moves hp step := by
    cases step with
    | tryRepair spends =>
      obtain ⟨-, limit, -⟩ := Budget.remaining_of_spend? spends
      exact ⟨hp.judges, hp.judgeLimit, limit.trans hp.repairLimit, hp.repairInstructions⟩
    | judge asks =>
      obtain ⟨-, spends, same⟩ := Judge.of_begin? asks
      obtain ⟨-, limit, -⟩ := Budget.remaining_of_spend? spends
      exact ⟨(congrArg Judge.enabled same).trans hp.judges, limit.trans hp.judgeLimit,
        hp.repairLimit, hp.repairInstructions⟩
    | complete | flyOn => exact hp.congr (fly_mission _ _) (fly_judge _ _) (fly_repair _ _)
    | _ => exact hp.congr rfl rfl rfl

/-! ## Attempts -/

/-- How many repairs have been counted whose replies are still awaited. -/
def Stage.repairsAwaited : Stage → Nat
  | repairing _ => 1
  | _ => 0

/-- How many judgements have been counted whose replies are still awaited. -/
def Stage.judgementsAwaited : Stage → Nat
  | judging _ => 1
  | _ => 0

/-- Replies are awaited by sessions that wait. -/
def Juncture.repairsAwaited : Juncture → Nat
  | waiting s => s.stage.repairsAwaited
  | _ => 0

def Juncture.judgementsAwaited : Juncture → Nat
  | waiting s => s.stage.judgementsAwaited
  | _ => 0

/-- A repair is to be requested. -/
def Juncture.isRepair : Juncture → Bool
  | repair _ _ => true
  | _ => false

/-- Each attempt that a budget has counted is one call of the model, and no repair is
attempted unless the rules permit repairs. -/
structure Attempts (p : Juncture) : Prop where
  repairs : callsFor .repair p.session.log + p.repairsAwaited = p.session.repair.budget.count
  judgements :
    callsFor .judgement p.session.log + p.judgementsAwaited = p.session.judge.budget.count
  unrepaired : p.session.rules.repairs = false →
    p.isRepair = false ∧ p.session.repair.budget.count = 0

/-- A reply that is awaited is one call, and then it is awaited no more. -/
theorem Hears.awaited {s : Session} {e : Event} {p : Juncture} (h : Hears s e p) :
    callsFor .repair [e] = s.stage.repairsAwaited ∧ p.repairsAwaited = 0 ∧
      callsFor .judgement [e] = s.stage.judgementsAwaited ∧ p.judgementsAwaited = 0 := by
  cases h with
  | taskFailed stage | taskLeft stage | taskPut stage | replyFailed stage | feedbackReply stage
  | automatedReply stage | nudged stage | nudgedLast stage | interactiveReply stage
  | askedAgain stage | askedLast stage | solved stage | unsolvedRepair stage | unsolvedAbort stage
  | unsolvedRefine stage | repairFailed stage | repaired stage | unrepaired stage
  | judgementFailed stage | approved stage | turnedDown stage | wordFailed stage
  | wordMissing stage | wordGiven stage | wordUnclear stage =>
    rw [stage]
    exact ⟨rfl, rfl, rfl, rfl⟩

/-- An answer does not touch the checkers. -/
theorem Hears.checkers {s : Session} {e : Event} {p : Juncture} (h : Hears s e p) :
    p.session.repair = s.repair ∧ p.session.judge = s.judge := by
  cases h <;> exact ⟨rfl, rfl⟩

theorem Attempts.hears {s : Session} {e : Event} {p : Juncture} (h : Attempts (.waiting s))
    (step : Hears s e p) : Attempts p := by
  obtain ⟨repairCall, noRepair, judgementCall, noJudgement⟩ := step.awaited
  obtain ⟨hrepair, hjudge⟩ := step.checkers
  constructor
  · rw [step.callsFor_eq, hrepair, noRepair, repairCall]
    exact h.repairs
  · rw [step.callsFor_eq, hjudge, noJudgement, judgementCall]
    exact h.judgements
  · intro rules
    rw [Session.rules, step.mission] at rules
    obtain ⟨-, count⟩ := h.unrepaired rules
    refine ⟨?_, by rw [hrepair]; exact count⟩
    cases step with
    | unsolvedRepair _ _ repairs => cases repairs.symm.trans rules
    | unrepaired stage =>
      -- a repair whose reply is awaited has been counted
      have counted := h.repairs
      have awaited : (Juncture.waiting s).repairsAwaited = 1 := by
        show s.stage.repairsAwaited = 1
        rw [stage]
        rfl
      have none : (Juncture.waiting s).session.repair.budget.count = 0 := count
      omega
    | _ => rfl

theorem Attempts.moves {p q : Juncture} (h : Attempts p) (step : Move p q) : Attempts q := by
  have repairCalls := step.callsFor_eq .repair
  have judgementCalls := step.callsFor_eq .judgement
  obtain ⟨repairs, judgements, unrepaired⟩ := h
  rw [← repairCalls] at repairs
  rw [← judgementCalls] at judgements
  cases step with
  | tryRepair spends =>
    obtain ⟨-, -, count⟩ := Budget.remaining_of_spend? spends
    refine ⟨?_, judgements, fun rules => ?_⟩
    · exact (congrArg (· + 1) repairs).trans count.symm
    · cases (unrepaired rules).1
  | judge asks =>
    obtain ⟨-, spends, -⟩ := Judge.of_begin? asks
    obtain ⟨-, -, count⟩ := Budget.remaining_of_spend? spends
    exact ⟨repairs, (congrArg (· + 1) judgements).trans count.symm,
      fun rules => ⟨rfl, (unrepaired rules).2⟩⟩
  | complete | flyOn =>
    refine ⟨?_, ?_, fun rules => ⟨rfl, ?_⟩⟩
    · exact repairs.trans (congrArg (·.budget.count) (fly_repair _ _).symm)
    · exact judgements.trans (congrArg (·.budget.count) (fly_judge _ _).symm)
    · exact (congrArg (·.budget.count) (fly_repair _ _)).trans
        (unrepaired ((congrArg (·.rules.repairs) (fly_mission _ _)).symm.trans rules)).2
  | _ => exact ⟨repairs, judgements, fun rules => ⟨rfl, (unrepaired rules).2⟩⟩

theorem Attempts.new (mission : Mission) : Attempts (.turn (.new mission)) := by
  constructor
  · rfl
  · show 0 = (if mission.rules.judges then _ else Judge.disabled).budget.count
    cases h : mission.rules.judges <;> rfl
  · exact fun _ => ⟨rfl, rfl⟩

/-- Attempts are calls, all the time. -/
theorem Invariant.attempts (mission : Mission) : Invariant mission Attempts where
  begins := .new mission
  hears hs step := hs.hears step
  moves hp step := hp.moves step

end Sortie
