import Sortie.Proofs.Session.Specifications
/-!
# How sessions end

A session ends because the operator leaves, because an automated session has flown its
task, or for a fault. `Ending.IsExplained` says of each ending what must have happened
before it, and above all of each fault who caused it. The main result reads this off the
result of a session, together with its status and its verdict.
-/

namespace Sortie

open Session

/-! ## Causes -/

/-- What must have happened for a fault to end a session. A leg that the judge turned down
never does, nor do the settings or the scenario. -/
def Fault.HasCause (s : Session) : Fault → Prop
  | .extraction detail =>
    Specification.extract (s.conversation.lastReply?.getD "") = .error (.extraction detail) ∧
      ∀ messages reply, (calls s.log).getLast? ≠ some (.modelAsked .repair messages reply)
  | .solverInfeasible reason =>
    s.rules.automated = true ∧ s.rules.repairs = false ∧
      ∃ request outcome, s.log.getLast? = some (.solverAsked request outcome) ∧
        outcome.checked = .infeasible reason
  | .syntaxBudgetExhausted attempts =>
    s.rules.repairs = true ∧ attempts = s.rules.repairLimit ∧ attempts = s.result.repairs ∧
      ∃ request outcome reason, lastSolve? (calls s.log) = some (request, outcome) ∧
        outcome.checked = .infeasible reason
  | .complianceRejected _ | .configuration _ => False
  | .llm detail =>
    ∃ purpose messages, s.log.getLast? = some (.modelAsked purpose messages (.error detail))
  | .io detail => ∃ prompt, s.log.getLast? = some (.operatorAsked prompt (.error detail))

/-- The operator leaves interactive sessions only, and only automated
ones are ever complete. -/
def Ending.IsExplained (s : Session) : Ending → Prop
  | .exited => s.rules.automated = false
  | .completed => s.rules.automated = true
  | .aborted fault => fault.HasCause s

/-- If the session is over at this juncture, its ending is explained. -/
def Juncture.EndsExplained : Juncture → Prop
  | waiting s => ∀ ending, s.stage = .ended ending → ending.IsExplained s
  | _ => True

/-! ## Every ending is explained -/

theorem Hears.endsExplained {s : Session} {e : Event} {p : Juncture}
    (begun : (Juncture.waiting s).BegunAsRuled) (h : Hears s e p) : p.EndsExplained := by
  cases h with
  | taskFailed | wordFailed =>
    rintro ending ⟨⟩
    exact ⟨_, List.getLast?_concat⟩
  | taskLeft stage =>
    rintro ending ⟨⟩
    have automated : s.rules.automated = false := begun.1 (by rw [stage]; rfl)
    exact automated
  | replyFailed | repairFailed | judgementFailed =>
    rintro ending ⟨⟩
    exact ⟨_, _, List.getLast?_concat⟩
  | unsolvedAbort _ checked repairs automated =>
    rintro ending ⟨⟩
    exact ⟨automated, repairs, _, _, List.getLast?_concat, checked⟩
  | taskPut | nudged | askedAgain | repaired | wordUnclear =>
    intro ending ended
    cases ended
  | _ => trivial

theorem Move.endsExplained {p q : Juncture} (equipped : Equipped p.session) (attempts : Attempts p)
    (unsolved : ∀ spec, p.repairing? = some spec → Unsolved (calls p.session.log) spec)
    (unread : q.EndsUnread) (h : Move p q) : q.EndsExplained := by
  cases h with
  | @unreadable s fault extracted =>
    rintro ending ⟨⟩
    obtain ⟨detail, rfl⟩ := Specification.eq_extraction_of_extract extracted
    refine ⟨extracted, fun messages reply last => ?_⟩
    rcases unread detail rfl with uncalled | ⟨messages', reply', last', -⟩
    · have last : (calls s.log).getLast? = some _ := last
      rw [show calls s.log = [] from uncalled] at last
      cases last
    · cases last'.symm.trans last
  | @noRepair s spec spent =>
    rintro ending ⟨⟩
    obtain ⟨request, outcome, reason, last, -, checked⟩ := unsolved spec rfl
    have repairs : s.rules.repairs = true := by
      cases repairs : s.rules.repairs with
      | true => rfl
      | false => cases (attempts.unrepaired repairs).1
    have used : s.repair.budget.count = s.rules.repairLimit := by
      have remaining : s.repair.budget.limit - s.repair.budget.count = 0 :=
        Budget.spend?_eq_none_iff.mp spent
      have bound := s.repair.budget.count_le_limit
      have limit : s.repair.budget.limit = s.rules.repairLimit := equipped.repairLimit
      omega
    exact ⟨repairs, used, rfl, request, outcome, reason, last, checked⟩
  | complete automated =>
    rintro ending ⟨⟩
    show (fly _ _).rules.automated = true
    rw [Session.rules, fly_mission]
    exact automated
  | nudgeFeedback | putTask | askTask | read | tryRepair | judge | confirm =>
    intro ending ended
    cases ended
  | _ => trivial

theorem Invariant.endsExplained (mission : Mission) :
    Invariant mission fun p =>
      ((((Equipped p.session ∧ p.Silent) ∧ p.Written) ∧ Attempts p) ∧ p.BegunAsRuled) ∧
        p.EndsExplained := by
  refine (((Invariant.written mission).both (Invariant.attempts mission)).both
    (Invariant.begunAsRuled mission)).and trivial ?_ ?_
  · intro s e p hs _ step
    exact step.endsExplained hs.2
  · intro p q hp _ step
    obtain ⟨⟨⟨⟨equipped, silent⟩, written⟩, attempts⟩, -⟩ := hp
    exact step.endsExplained equipped attempts written.unsolved (written.moves silent step).unread

/-! ## Results -/

theorem result_verdict (s : Session) : ∃ v, s.result.verdict = some v ∧
    s.mission.scenario.verdict s.result.trajectory = .ok v := by
  obtain ⟨v, hv⟩ := s.mission.scenario.exists_verdict s.trajectory
  exact ⟨v, by simp only [result, hv], hv⟩

-- as there is always a verdict, no fault comes from it
theorem result_fault (s : Session) : s.result.fault = s.stage.ending?.bind Ending.fault? := by
  obtain ⟨v, hv⟩ := s.mission.scenario.exists_verdict s.trajectory
  simp only [result, hv]

theorem ended_of_ending? {stage : Stage} {ending : Ending} (h : stage.ending? = some ending) :
    stage = .ended ending := by
  cases stage <;> cases h
  rfl

theorem status_of_ended {s : Session} {ending : Ending} (h : s.stage = .ended ending) :
    s.result.status = ending.status := by
  show s.stage.status = _
  rw [h]
  rfl

theorem status_of_goesOn {s : Session} (h : s.stage.ending? = none) :
    s.result.status = .active := by
  show s.stage.status = _
  rw [Stage.status, h]

theorem isTerminal_status (ending : Ending) : ending.status.isTerminal = true := by
  cases ending <;> rfl

theorem isSome_fault?_iff (ending : Ending) :
    ending.fault?.isSome = true ↔ ending.status = .aborted := by
  cases ending <;> simp [Ending.fault?, Ending.status]

theorem ended_of_status {s : Session} {status : Status} (h : s.result.status = status)
    (terminal : status ≠ .active) : ∃ ending, s.stage = .ended ending ∧ ending.status = status := by
  cases finished : s.stage.ending? with
  | none => exact absurd (h.symm.trans (status_of_goesOn finished)) terminal
  | some ending =>
    have ended := ended_of_ending? finished
    exact ⟨ending, ended, (status_of_ended ended).symm.trans h⟩

/-- The result of a session, at any time. Its status is terminal exactly if nobody is
waited for, and its verdict is that of all that was flown. It holds a fault exactly if the
session was aborted, and then the fault has its cause. -/
theorem result_explained (mission : Mission) (answers : List Answer) :
    let s := Session.after mission answers
    (s.result.status.isTerminal = true ↔ s.query = none) ∧
      (∃ v, s.result.verdict = some v ∧ mission.scenario.verdict s.result.trajectory = .ok v) ∧
      (s.result.fault.isSome = true ↔ s.result.status = .aborted) ∧
      (s.result.status = .completed → mission.rules.automated = true) ∧
      (s.result.status = .exited → mission.rules.automated = false) ∧
      ∀ fault, s.result.fault = some fault → fault.HasCause s := by
  intro s
  have same : s.mission = mission := mission_after mission answers
  obtain ⟨-, explained⟩ := (Invariant.endsExplained mission).after answers
  have explained : ∀ ending, s.stage = .ended ending → ending.IsExplained s := explained
  refine ⟨?_, same ▸ result_verdict s, ?_, ?_, ?_, ?_⟩
  · cases finished : s.stage.ending? with
    | none =>
      obtain ⟨q, asks⟩ := exists_query ((Invariant.begun mission).after answers) finished
      have asks : s.query = some q := asks
      rw [status_of_goesOn finished, asks]
      constructor
      · intro terminal
        cases terminal
      · intro unasked
        cases unasked
    | some ending =>
      have ended := ended_of_ending? finished
      have unasked : s.query = none := by rw [query, ended]
      simp only [status_of_ended ended, isTerminal_status, unasked]
  · rw [result_fault]
    cases finished : s.stage.ending? with
    | none =>
      rw [status_of_goesOn finished]
      constructor
      · intro found
        cases found
      · intro aborted
        cases aborted
    | some ending =>
      rw [status_of_ended (ended_of_ending? finished)]
      exact isSome_fault?_iff ending
  · intro completed
    obtain ⟨ending, finished, status⟩ := ended_of_status completed (by decide)
    cases ending <;> cases status
    exact same ▸ explained _ finished
  · intro exited
    obtain ⟨ending, finished, status⟩ := ended_of_status exited (by decide)
    cases ending <;> cases status
    exact same ▸ explained _ finished
  · intro fault found
    rw [result_fault] at found
    obtain ⟨ending, finished, found⟩ := Option.bind_eq_some_iff.mp found
    cases ending <;> cases found
    exact explained _ (ended_of_ending? finished)

end Sortie
