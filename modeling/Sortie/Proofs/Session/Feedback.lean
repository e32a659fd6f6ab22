import Sortie.Proofs.Session.Legs
import Sortie.Proofs.Session.Specifications
/-!
# When feedback is due

A feedback turn asks the model to heed why its trajectory was turned down, and asks no
operator. It follows exactly the legs that the judge turned down. The operator, who has the
last word on a leg, has none on the turn after it: a leg that is flown although the judge
turned it down is followed by a feedback turn all the same. The main result says that this
is the only way in which one follows a leg that was accepted.
-/

namespace Sortie

open Session

/-! ## The last leg -/

/-- There is a trajectory. -/
def Outcome.isFeasible : Outcome → Bool
  | feasible _ _ => true
  | infeasible _ => false

/-- The solver found a leg when it was last asked. -/
def foundLast (log : List Event) : Bool :=
  (lastSolve? (calls log)).any (·.2.checked.isFeasible)

/-- The leg that the solver found when it was last asked, with what was
said about it since. -/
def lastLeg? (rules : Rules) (log : List Event) : Option FoundLeg :=
  if foundLast log then (foundLegs rules log).getLast? else none

/-- The judge turned down the last leg, and the operator accepted it. -/
def FoundLeg.isOverruled (rules : Rules) (l : FoundLeg) : Bool :=
  l.isRejected && (rules.confirms && confirmation? l.words == some true)

/-- The judge turned down the last leg. -/
def Session.turnedDown (s : Session) : Bool :=
  (lastLeg? s.rules s.log).any (·.isRejected)

/-- Nothing was said about the last leg yet. -/
def Session.IsUnjudged (s : Session) : Prop :=
  ∃ l, lastLeg? s.rules s.log = some l ∧ l.judged = none

theorem getLast?_modifyLast {α : Type} (f : α → α) (l : List α) :
    (l.modifyLast f).getLast? = l.getLast?.map f := by
  rcases List.eq_nil_or_concat l with rfl | ⟨before, last, rfl⟩
  · rfl
  · rw [List.concat_eq_append, List.modifyLast_concat, List.getLast?_concat, List.getLast?_concat]
    rfl

theorem lastLeg?_append_printed (rules : Rules) (log : List Event) (lines : List String) :
    lastLeg? rules (log ++ lines.map .printed) = lastLeg? rules log := by
  rw [lastLeg?, foundLast, calls_append, calls_printed, List.append_nil, foundLegs_append_printed]
  rfl

theorem foundLast_concat_solver (log : List Event) (request : SolveRequest) (outcome : Outcome) :
    foundLast (log ++ [.solverAsked request outcome]) = outcome.checked.isFeasible := by
  have solved : lastSolve? (calls (log ++ [.solverAsked request outcome])) =
      some (request, outcome) := by
    rw [calls_append]
    exact lastSolve?_concat_solver ..
  rw [foundLast, solved, Option.any_some]

theorem foundLast_concat {log : List Event} {e : Event} (unsolving : e.solve? = none) :
    foundLast (log ++ [e]) = foundLast log := by
  have same : lastSolve? (calls (log ++ [e])) = lastSolve? (calls log) := by
    rw [calls_append, lastSolve?, List.filterMap_append]
    rcases calls_singleton e with call | call <;> simp [call, unsolving, lastSolve?]
  rw [foundLast, same, foundLast]

theorem lastLeg?_concat_feasible (rules : Rules) (log : List Event) (request : SolveRequest)
    {outcome : Outcome} {leg : Trajectory} {controls : List Control}
    (checked : outcome.checked = .feasible leg controls) :
    ∃ l, lastLeg? rules (log ++ [.solverAsked request outcome]) = some l ∧ l.judged = none := by
  rw [lastLeg?, foundLast_concat_solver, checked, foundLegs_concat]
  simp only [FoundLeg.note, checked, Outcome.isFeasible, if_true, List.getLast?_concat]
  exact ⟨_, rfl, rfl⟩

theorem lastLeg?_concat_infeasible (rules : Rules) (log : List Event) (request : SolveRequest)
    {outcome : Outcome} {reason : String} (checked : outcome.checked = .infeasible reason) :
    lastLeg? rules (log ++ [.solverAsked request outcome]) = none := by
  rw [lastLeg?, foundLast_concat_solver, checked]
  rfl

/-- Whatever else happens, nothing but the last leg is touched by it. -/
theorem lastLeg?_concat {rules : Rules} {log : List Event} {e : Event} (f : FoundLeg → FoundLeg)
    (unsolving : e.solve? = none)
    (noted : (FoundLeg.note rules (foundLegs rules log) e).getLast? =
      (foundLegs rules log).getLast?.map f) :
    lastLeg? rules (log ++ [e]) = (lastLeg? rules log).map f := by
  rw [lastLeg?, foundLast_concat unsolving, foundLegs_concat, noted, lastLeg?]
  split <;> rfl

theorem Hears.lastLeg?_eq {s : Session} {e : Event} {p : Juncture} (h : Hears s e p) :
    lastLeg? p.session.rules p.session.log = lastLeg? s.rules (s.log ++ [e]) := by
  obtain ⟨lines, hlog⟩ := h.log
  rw [hlog, lastLeg?_append_printed, Session.rules, h.mission]
  rfl

theorem Move.lastLeg?_eq {p q : Juncture} (h : Move p q) :
    lastLeg? q.session.rules q.session.log = lastLeg? p.session.rules p.session.log := by
  obtain ⟨lines, hlog⟩ := h.log
  rw [hlog, lastLeg?_append_printed, Session.rules, h.mission]
  rfl

theorem Move.turnedDown_eq {p q : Juncture} (h : Move p q) :
    q.session.turnedDown = p.session.turnedDown := by
  rw [Session.turnedDown, h.lastLeg?_eq]
  rfl

theorem Session.IsUnjudged.turnedDown {s : Session} (h : s.IsUnjudged) : s.turnedDown = false := by
  obtain ⟨l, last, unjudged⟩ := h
  rw [Session.turnedDown, last, Option.any_some, FoundLeg.isRejected, unjudged]
  rfl

/-- Only the judge turns legs down: what else is said leaves that as it is. -/
theorem FoundLeg.exists_note_eq_map (rules : Rules) (legs : List FoundLeg) {e : Event}
    (unsolving : e.solve? = none) (unjudging : e.asksModelFor .judgement = false) :
    ∃ f : FoundLeg → FoundLeg, (∀ l, (f l).isRejected = l.isRejected) ∧
      (note rules legs e).getLast? = legs.getLast?.map f := by
  have unchanged : ∃ f : FoundLeg → FoundLeg, (∀ l, (f l).isRejected = l.isRejected) ∧
      legs.getLast? = legs.getLast?.map f := ⟨id, fun _ => rfl, by simp⟩
  cases e with
  | solverAsked => cases unsolving
  | printed => exact unchanged
  | modelAsked purpose messages reply =>
    cases purpose with
    | judgement => cases unjudging
    | conversation | repair => exact unchanged
  | operatorAsked prompt line =>
    rw [note]
    split
    · exact ⟨withWord line, fun _ => rfl, getLast?_modifyLast _ _⟩
    · exact unchanged

theorem Hears.turnedDown_eq {s : Session} {e : Event} {p : Juncture} (h : Hears s e p)
    (unsolving : e.solve? = none) (unjudging : e.asksModelFor .judgement = false) :
    p.session.turnedDown = s.turnedDown := by
  obtain ⟨f, same, noted⟩ :=
    FoundLeg.exists_note_eq_map s.rules (foundLegs s.rules s.log) unsolving unjudging
  rw [Session.turnedDown, h.lastLeg?_eq, lastLeg?_concat f unsolving noted, Option.any_map,
    Session.turnedDown]
  exact congrArg (Option.any · _) (funext same)

/-- The judge's reply decides about the last leg. -/
theorem turnedDown_concat_judgement {rules : Rules} {log : List Event} {l : FoundLeg}
    (last : lastLeg? rules log = some l) (messages : List Message) (reply : String) :
    (lastLeg? rules (log ++ [.modelAsked .judgement messages (.ok reply)])).any (·.isRejected) =
      true ↔ Judge.read reply = .rejected reply := by
  have noted : (FoundLeg.note rules (foundLegs rules log)
      (.modelAsked .judgement messages (.ok reply))).getLast? =
        (foundLegs rules log).getLast?.map (.withReply (.ok reply)) := getLast?_modifyLast _ _
  rw [lastLeg?_concat _ rfl noted, last]
  rcases Judge.read_cases reply with read | read <;>
    simp [FoundLeg.isRejected, FoundLeg.withReply, Judge.conclude, read]

/-! ## What is due -/

/-- Feedback is due exactly if the judge turned down the last leg. -/
def Session.Heeds (s : Session) : Prop :=
  s.feedbackDue = s.turnedDown

/-- Feedback is due from the judge's reply on, until the model has replied to it. -/
def Juncture.DueAsJudged : Juncture → Prop
  | turn s => s.Heeds
  | reading _ => True
  | repair s _ => s.feedbackDue = false
  | found s _ => s.feedbackDue = false ∧ s.IsUnjudged
  | judged s _ accepted => s.Heeds ∧ s.feedbackDue = !accepted
  | settled s _ accepted => s.Heeds ∧ (s.rules.confirms = false → s.feedbackDue = !accepted)
  | waiting s => match s.stage with
    | .opening => True
    | .task _ => s.Heeds ∧ s.feedbackDue = false
    | .reply kind => s.Heeds ∧ (kind = .feedback ↔ s.feedbackDue = true)
    | .solving _ _ | .repairing _ => s.feedbackDue = false
    | .judging _ => s.feedbackDue = false ∧ s.IsUnjudged
    | .confirming _ => s.Heeds ∧ s.rules.confirms = true
    | .ended ending => ending = .completed → s.Heeds

theorem Hears.dueAsJudged {s : Session} {e : Event} {p : Juncture}
    (due : (Juncture.waiting s).DueAsJudged) (h : Hears s e p) : p.DueAsJudged := by
  have last := h.lastLeg?_eq
  have down : p.session.turnedDown = (lastLeg? s.rules (s.log ++ [e])).any (·.isRejected) :=
    congrArg (Option.any _) last
  have same := h.turnedDown_eq
  simp only [Juncture.DueAsJudged] at due
  cases h with
  | taskFailed | taskLeft | replyFailed | unsolvedAbort | repairFailed | judgementFailed
  | wordFailed => exact nofun
  | feedbackReply | automatedReply | nudgedLast | interactiveReply | askedLast => trivial
  | taskPut stage =>
    rw [stage] at due
    obtain ⟨heeds, none⟩ := due
    refine ⟨heeds.trans (same rfl rfl).symm, nofun, fun some => ?_⟩
    cases none.symm.trans some
  | nudged stage =>
    rw [stage] at due
    obtain ⟨heeds, -, none⟩ := due
    exact ⟨heeds.trans (same rfl rfl).symm, nofun, fun some => nomatch none some⟩
  | askedAgain stage =>
    rw [stage] at due
    obtain ⟨heeds, -, none⟩ := due
    exact ⟨heeds.trans (same rfl rfl).symm, eq_false_of_ne_true fun some => nomatch none some⟩
  | solved stage checked =>
    rw [stage] at due
    obtain ⟨l, found, unjudged⟩ := lastLeg?_concat_feasible s.rules s.log _ checked
    exact ⟨due, l, last.trans found, unjudged⟩
  | unsolvedRepair stage | repaired stage | unrepaired stage =>
    rw [stage] at due
    exact due
  | unsolvedRefine stage checked =>
    rw [stage] at due
    rw [lastLeg?_concat_infeasible s.rules s.log _ checked] at down
    exact due.trans down.symm
  | @approved leg reply stage read =>
    rw [stage] at due
    obtain ⟨none, l, found, -⟩ := due
    have decides := turnedDown_concat_judgement found (s.judgementRequest leg) reply
    rw [← down, read] at decides
    exact ⟨none.trans (eq_false_of_ne_true fun some => nomatch decides.mp some).symm, none⟩
  | @turnedDown leg reply stage read =>
    rw [stage] at due
    obtain ⟨-, l, found, -⟩ := due
    have decides := turnedDown_concat_judgement found (s.judgementRequest leg) reply
    rw [← down, read] at decides
    exact ⟨(decides.mpr rfl).symm, rfl⟩
  | wordMissing stage | wordGiven stage =>
    rw [stage] at due
    obtain ⟨heeds, confirms⟩ := due
    exact ⟨heeds.trans (same rfl rfl).symm, fun silent => nomatch confirms.symm.trans silent⟩
  | wordUnclear stage =>
    rw [stage] at due
    obtain ⟨heeds, confirms⟩ := due
    exact ⟨heeds.trans (same rfl rfl).symm, confirms⟩

theorem Move.dueAsJudged {p q : Juncture} (due : p.DueAsJudged) (h : Move p q) :
    q.DueAsJudged := by
  have same := h.turnedDown_eq
  cases h with
  | instruct | instructAloud => exact due.trans same.symm
  | nudgeFeedback _ some => exact ⟨due.trans same.symm, fun _ => some, fun _ => rfl⟩
  | putTask _ none => exact ⟨due.trans same.symm, nofun, fun some => nomatch none.symm.trans some⟩
  | askTask _ none => exact ⟨due.trans same.symm, none⟩
  | putTaskUnheard | askTaskUnheard => trivial
  | unreadable | noRepair => exact nofun
  | read => rfl
  | tryRepair => exact due
  | unjudged =>
    obtain ⟨none, unjudged⟩ := due
    exact ⟨none.trans unjudged.turnedDown.symm, none⟩
  | judge => exact due
  | confirm confirms => exact ⟨due.1.trans same.symm, confirms⟩
  | settle => exact ⟨due.1, fun _ => due.2⟩
  | complete =>
    intro _
    exact (fly_feedbackDue _ _).trans (due.1.trans same.symm)
  | flyOn => exact (fly_feedbackDue _ _).trans (due.1.trans same.symm)
  | refuse => exact due.1

theorem Invariant.dueAsJudged (mission : Mission) : Invariant mission Juncture.DueAsJudged where
  begins := rfl
  hears hs step := step.dueAsJudged hs
  moves hp step := step.dueAsJudged hp

/-! ## Main result -/

theorem mem_foundLegs_of_lastLeg? {rules : Rules} {log : List Event} {l : FoundLeg}
    (h : lastLeg? rules log = some l) : l ∈ foundLegs rules log := by
  rw [lastLeg?] at h
  split at h
  · exact List.mem_of_getLast? h
  · cases h

/-- Where the judge is switched off, no leg is turned down. -/
theorem judges_of_isRejected {s : Session} (equipped : Equipped s)
    (counts : (Juncture.waiting s).CountsJudged) {l : FoundLeg}
    (found : l ∈ foundLegs s.rules s.log) (rejected : l.isRejected = true) :
    s.rules.judges = true := by
  refine eq_true_of_ne_false fun off => ?_
  have limit := equipped.judgeLimit
  rw [off] at limit
  have bound := s.judge.budget.count_le_limit
  have counts : (foundLegs s.rules s.log).countP (·.judged.isSome) + _ = s.judge.budget.count :=
    counts
  have none : (foundLegs s.rules s.log).countP (·.judged.isSome) = 0 := by
    simp only [Bool.false_eq_true, if_false] at limit
    omega
  have unjudged := List.countP_eq_zero.mp none l found
  rw [FoundLeg.isRejected] at rejected
  cases judged : l.judged with
  | none =>
    rw [judged] at rejected
    cases rejected
  | some reply =>
    rw [judged] at unjudged
    exact unjudged rfl

theorem FoundLeg.isAccepted_of_isRejected {rules : Rules} {l : FoundLeg}
    (judges : rules.judges = true) (rejected : l.isRejected = true) :
    l.isAccepted rules = l.isOverruled rules := by
  have heard : l.isHeard = true := by
    rw [isRejected] at rejected
    rw [isHeard]
    rcases judged : l.judged with _ | _ | reply
    · rw [judged] at rejected
      cases rejected
    · rw [judged] at rejected
      cases rejected
    · rfl
  rw [isAccepted, isChecked, isOverruled, heard, rejected, judges]
  cases confirms : rules.confirms with
  | false => simp
  | true => cases confirmation? l.words <;> simp

/-- From a leg on until the model has replied, feedback is due as the judge decided. -/
theorem Juncture.DueAsJudged.heeds {s : Session} (h : (waiting s).DueAsJudged)
    (begun : s.stage ≠ .opening)
    (between : s.stage.phase = .gatheringInput ∨ s.stage = .ended .completed) : s.Heeds := by
  simp only [DueAsJudged] at h
  rcases between with gathering | completed
  · cases stage : s.stage with
    | opening => exact absurd stage begun
    | task more | reply kind =>
      rw [stage] at h
      exact h.1
    | solving | repairing | judging | confirming | ended =>
      rw [stage] at gathering
      cases gathering
  · rw [completed] at h
    exact h rfl

theorem Juncture.DueAsJudged.feedbackDue {s : Session} (h : (waiting s).DueAsJudged)
    (stage : s.stage = .reply .feedback) : s.feedbackDue = true := by
  simp only [DueAsJudged] at h
  rw [stage] at h
  exact h.2.mp rfl

/-- Whoever begins a turn without being due for feedback is the
operator or the scenario. -/
theorem Juncture.DueAsJudged.isInteractive {s : Session} (h : (waiting s).DueAsJudged)
    (asRuled : (waiting s).BegunAsRuled) (begun : s.stage ≠ .opening)
    (gathering : s.stage.phase = .gatheringInput) (none : s.feedbackDue = false)
    (attended : s.rules.automated = false) : s.stage.isInteractive = true := by
  simp only [DueAsJudged] at h
  cases stage : s.stage with
  | opening => exact absurd stage begun
  | task more => rfl
  | reply kind =>
    rw [stage] at h
    cases kind with
    | feedback => cases none.symm.trans (h.2.mp rfl)
    | automated more => cases attended.symm.trans (asRuled.2 (by rw [stage]; rfl))
    | interactive more => rfl
  | solving | repairing | judging | confirming | ended =>
    rw [stage] at gathering
    cases gathering

/-- A feedback turn follows a leg that the judge turned down, and none is due after a leg
that was accepted unless the operator overruled the judge. In an interactive session any
other leg that was accepted is followed by a task of the operator. -/
theorem feedback_follows_rejection (mission : Mission) (answers : List Answer) :
    let s := Session.after mission answers
    let r := mission.rules
    (s.stage = .reply .feedback → ∃ l, lastLeg? r s.log = some l ∧ l.isRejected = true ∧
      (l.isAccepted r = true ↔ l.isOverruled r = true)) ∧
    ∀ l, lastLeg? r s.log = some l → l.isAccepted r = true →
      (s.stage.phase = .gatheringInput ∨ s.stage = .ended .completed →
        (s.feedbackDue = true ↔ l.isOverruled r = true)) ∧
      (s.stage.phase = .gatheringInput → l.isOverruled r = false → r.automated = false →
        s.stage.isInteractive = true) := by
  intro s r
  have same : s.rules = r := congrArg Mission.rules (mission_after mission answers)
  obtain ⟨equipped, -, counts⟩ := (Invariant.flownSoFar mission).after answers
  have begun : s.stage ≠ .opening := (Invariant.begun mission).after answers
  have asRuled : (Juncture.waiting s).BegunAsRuled := (Invariant.begunAsRuled mission).after answers
  have due : (Juncture.waiting s).DueAsJudged := (Invariant.dueAsJudged mission).after answers
  have overruled : ∀ l, lastLeg? r s.log = some l → l.isRejected = true →
      l.isAccepted r = l.isOverruled r := by
    intro l last rejected
    rw [← same] at last ⊢
    exact l.isAccepted_of_isRejected
      (judges_of_isRejected equipped counts (mem_foundLegs_of_lastLeg? last) rejected) rejected
  have down : s.turnedDown = (lastLeg? r s.log).any (·.isRejected) := by
    rw [turnedDown, same]
  refine ⟨fun stage => ?_, fun l last accepted => ⟨fun between => ?_, ?_⟩⟩
  · have heeds : s.Heeds := due.heeds begun (.inl (by rw [stage]; rfl))
    rw [Heeds, due.feedbackDue stage, down] at heeds
    obtain ⟨l, last, rejected⟩ := (Option.any_eq_true _ _).mp heeds.symm
    exact ⟨l, last, rejected, by rw [overruled l last rejected]⟩
  · have heeds : s.feedbackDue = l.isRejected := by
      rw [due.heeds begun between, down, last, Option.any_some]
    rw [heeds]
    constructor
    · intro rejected
      exact (overruled l last rejected).symm.trans accepted
    · intro both
      exact (Bool.and_eq_true_iff.mp both).1
  · intro gathering kept attended
    refine due.isInteractive asRuled begun gathering ?_ (by rw [same]; exact attended)
    rw [due.heeds begun (.inl gathering), down, last, Option.any_some]
    refine eq_false_of_ne_true fun rejected => ?_
    cases kept.symm.trans ((overruled l last rejected).symm.trans accepted)

/-- The judge may turn down one leg, and the operator has the last word. -/
def Rules.overruling : Rules :=
  { Rules.unchecked with judges := true, judgeLimit := 1, confirms := true }

/-- The judge turns down the leg to the goal, and the operator accepts it. -/
def overruling : List Answer :=
  [.line (.ok (some "Go.")), .reply (.ok "<finally goal>"),
    .outcome (.feasible ⟨[.atRest 0 0 0, .atRest 4.5 4.5 0.5]⟩ []),
    .reply (.ok "Too slow. <rejected>"), .line (.ok (some "y"))]

/-- The leg is flown, and yet the model is asked to replace it. -/
theorem overruled_judge_is_heeded :
    let s := Session.after (openMission .overruling) overruling
    s.start = .atRest 4.5 4.5 0.5 ∧ s.stage = .reply .feedback ∧ s.feedbackDue = true ∧
      ∃ l, lastLeg? .overruling s.log = some l ∧ l.isAccepted .overruling = true := by
  refine ⟨rfl, rfl, rfl, _, rfl, rfl⟩

end Sortie
