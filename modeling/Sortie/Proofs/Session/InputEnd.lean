import Sortie.Proofs.Session.Feedback
/-!
# When the operator's input has ended

From then on an operator leaves at the prompt for a task and turns down every leg.
What a session may still ask for is a potential: what it asks for if no further
attempt is counted, and the attempts that the budgets have left. Every answer lowers
it, so the session ends.

There is one exception. If the operator has the last word on the legs of an automated
session, a leg that the judge lets pass is turned down without an attempt being counted,
and the scenario's task is put again. The main result says that such a session may go on
for ever, and every other one ends.
-/

namespace Sortie

open Session

/-! ## An operator without words -/

/-- No prompt is answered any more. -/
def World.InputEnded {σ : Type} (w : World (StateM σ)) : Prop :=
  ∀ prompt env, ((w.operator prompt).run env).1 = .ok none

/-- If the operator was asked, there was no answer. -/
def Event.IsUnattended : Event → Prop
  | operatorAsked _ line => line = .ok none
  | _ => True

theorem World.InputEnded.isUnattended {σ : Type} {w : World (StateM σ)} (h : w.InputEnded)
    {q : Query} {env : σ} {e : Event} (fits : q.answered? ((w.answer q).run env).1 = some e) :
    e.IsUnattended := by
  cases q with
  | operator prompt =>
    obtain rfl := Option.some.inj fits
    exact h prompt env
  | model | solver =>
    obtain rfl := Option.some.inj fits
    trivial

/-- In an automated session with a judge, the operator has the last word on legs. -/
structure Rules.Circling (r : Rules) : Prop where
  automated : r.automated = true
  confirms : r.confirms = true
  judges : r.judges = true
  replies : r.maxReplies ≠ 0

/-! ## What is known of a session -/

/-- A turn that the scenario began takes no more replies than the rules allow. -/
def Juncture.WithinTurn : Juncture → Prop
  | waiting s => ∀ more, s.stage = .reply (.automated more) → more < s.rules.maxReplies
  | _ => True

theorem Hears.withinTurn {s : Session} {e : Event} {p : Juncture}
    (within : (Juncture.waiting s).WithinTurn) (h : Hears s e p) : p.WithinTurn := by
  cases h with
  | nudged stage =>
    rintro more ⟨⟩
    exact Nat.lt_of_succ_lt (within _ stage)
  | taskFailed | taskLeft | taskPut | replyFailed | askedAgain | unsolvedAbort | repairFailed
  | repaired | judgementFailed | wordFailed | wordUnclear => exact nofun
  | _ => trivial

theorem Move.withinTurn {p q : Juncture} (h : Move p q) : q.WithinTurn := by
  cases h with
  | @putTask s more _ _ _ replies =>
    rintro more ⟨⟩
    show _ < s.rules.maxReplies
    omega
  | nudgeFeedback | askTask | unreadable | read | noRepair | tryRepair | judge | confirm
  | complete => exact nofun
  | _ => trivial

/-- What the potential rests on. -/
structure Juncture.Known (mission : Mission) (p : Juncture) : Prop where
  mission : p.session.mission = mission
  equipped : Equipped p.session
  silent : p.Silent
  due : p.DueAsJudged
  within : p.WithinTurn

theorem Invariant.known (mission : Mission) : Invariant mission (Juncture.Known mission) where
  begins :=
    ⟨rfl, (equipped mission).begins, (silent mission).begins, (dueAsJudged mission).begins, trivial⟩
  hears hs step :=
    ⟨step.mission.trans hs.mission, (equipped mission).hears hs.equipped step,
      (silent mission).hears hs.silent step, step.dueAsJudged hs.due, step.withinTurn hs.within⟩
  moves hp step :=
    ⟨step.mission.trans hp.mission, (equipped mission).moves hp.equipped step,
      hp.silent.moves step, step.dueAsJudged hp.due, step.withinTurn⟩

namespace Juncture.Known

variable {mission : Mission}

theorem rules {p : Juncture} (h : p.Known mission) : p.session.rules = mission.rules :=
  congrArg Mission.rules h.mission

/-- Turns take replies wherever anybody was asked. -/
theorem maxReplies_ne_zero {s : Session} {q : Query} (h : (waiting s).Known mission)
    (asks : s.query = some q) : s.rules.maxReplies ≠ 0 := by
  intro none
  obtain ⟨-, -, unasked⟩ := h.silent none
  cases unasked.symm.trans asks

end Juncture.Known

/-! ## What may still be asked for -/

/-- How often the solver is still asked if no further attempt is counted. -/
def Stage.solvesAhead (feedbackDue : Bool) : Stage → Nat
  | opening | task _ | ended _ => 0
  | reply _ | solving _ _ | repairing _ | judging _ => 1
  | confirming _ => if feedbackDue then 1 else 0

/-- How many questions are put before the solver is asked or an attempt is counted. -/
def Stage.questionsAhead : Stage → Nat
  | opening | solving _ _ | ended _ => 0
  | task _ | reply .feedback | repairing _ => 1
  | reply (.interactive _) | confirming _ => 2
  | judging _ => 3
  | reply (.automated more) => more + 1

def Juncture.solvesAhead : Juncture → Nat
  | turn s => if s.feedbackDue || s.rules.automated || s.rules.maxReplies == 0 then 1 else 0
  | reading _ => 1
  | repair _ _ | found _ _ => 0
  | judged s _ _ | settled s _ _ => if s.feedbackDue then 1 else 0
  | waiting s => s.stage.solvesAhead s.feedbackDue

def Juncture.questionsAhead : Juncture → Nat
  | turn s => if s.feedbackDue || !s.rules.automated then 1 else s.rules.maxReplies
  | reading _ => 0
  | repair _ _ | settled _ _ _ => 1
  | judged _ _ _ => 2
  | found _ _ => 3
  | waiting s => s.stage.questionsAhead

/-- The operator who is asked for a task leaves. -/
theorem ahead_of_asksTask {s : Session} (due : s.feedbackDue = false)
    (automated : s.rules.automated = false) (replies : s.rules.maxReplies ≠ 0) :
    (Juncture.turn s).solvesAhead = 0 ∧ (Juncture.turn s).questionsAhead = 1 := by
  simp [Juncture.solvesAhead, Juncture.questionsAhead, due, automated, replies]

theorem ahead_of_feedbackDue {s : Session} (due : s.feedbackDue = true) :
    (Juncture.turn s).solvesAhead = 1 ∧ (Juncture.turn s).questionsAhead = 1 := by
  simp [Juncture.solvesAhead, Juncture.questionsAhead, due]

/-- An answer uses up what is ahead; only the solver's may lead to more questions, which
are paid for by its being asked. -/
theorem Hears.ahead {mission : Mission} {s : Session} {e : Event} {p : Juncture} (h : Hears s e p)
    (unattended : e.IsUnattended) (known : (Juncture.waiting s).Known mission) :
    solverCalls [e] + p.solvesAhead ≤ s.stage.solvesAhead s.feedbackDue ∧
      1 + p.questionsAhead + 4 * p.solvesAhead ≤
        s.stage.questionsAhead + 4 * s.stage.solvesAhead s.feedbackDue := by
  obtain ⟨q, -, asks, -⟩ := h.answered
  have replies := known.maxReplies_ne_zero asks
  have due := known.due
  have atMost : ∀ b : Bool, (if b then 1 else 0) ≤ 1 := by decide
  simp only [Juncture.DueAsJudged] at due
  cases h with
  | taskPut | wordGiven | wordUnclear => cases unattended
  | taskFailed stage | taskLeft stage =>
    rw [stage]
    exact ⟨show 0 + 0 ≤ 0 by decide, show 1 + 0 + 0 ≤ 1 + 0 by decide⟩
  | @replyFailed turn e stage =>
    rw [stage]
    refine ⟨show 0 + 0 ≤ 1 by decide, ?_⟩
    show 1 + 0 + 0 ≤ _ + 4
    omega
  | feedbackReply stage | nudgedLast stage =>
    rw [stage]
    exact ⟨show 0 + 1 ≤ 1 by decide, show 1 + 0 + 4 ≤ 1 + 4 by decide⟩
  | @automatedReply more reply stage =>
    rw [stage]
    exact ⟨show 0 + 1 ≤ 1 by decide, show 1 + 0 + 4 ≤ more + 1 + 4 by omega⟩
  | @nudged more reply stage =>
    rw [stage]
    exact ⟨show 0 + 1 ≤ 1 by decide, show 1 + (more + 1) + 4 ≤ more + 1 + 1 + 4 by omega⟩
  | interactiveReply stage | askedLast stage =>
    rw [stage]
    exact ⟨show 0 + 1 ≤ 1 by decide, show 1 + 0 + 4 ≤ 2 + 4 by decide⟩
  | askedAgain stage =>
    rw [stage]
    exact ⟨show 0 + 0 ≤ 1 by decide, show 1 + 1 + 0 ≤ 2 + 4 by decide⟩
  | solved stage =>
    rw [stage]
    exact ⟨show 1 + 0 ≤ 1 by decide, show 1 + 3 + 0 ≤ 0 + 4 by decide⟩
  | unsolvedRepair stage =>
    rw [stage]
    exact ⟨show 1 + 0 ≤ 1 by decide, show 1 + 1 + 0 ≤ 0 + 4 by decide⟩
  | unsolvedAbort stage =>
    rw [stage]
    exact ⟨show 1 + 0 ≤ 1 by decide, show 1 + 0 + 0 ≤ 0 + 4 by decide⟩
  | @unsolvedRefine spec repaired outcome reason stage _ _ automated =>
    -- the operator is asked for a better task, and leaves
    rw [stage] at due
    have leaves := ahead_of_asksTask (s := (s.recordOutcome spec outcome).say refineNotice) due
      automated replies
    rw [leaves.1, leaves.2, stage]
    exact ⟨show 1 + 0 ≤ 1 by decide, show 1 + 1 + 0 ≤ 0 + 4 by decide⟩
  | repairFailed stage =>
    rw [stage]
    exact ⟨show 0 + 0 ≤ 1 by decide, show 1 + 0 + 0 ≤ 1 + 4 by decide⟩
  | repaired stage =>
    rw [stage]
    exact ⟨show 0 + 1 ≤ 1 by decide, show 1 + 0 + 4 ≤ 1 + 4 by decide⟩
  | unrepaired stage =>
    rw [stage]
    exact ⟨show 0 + 0 ≤ 1 by decide, show 1 + 1 + 0 ≤ 1 + 4 by decide⟩
  | judgementFailed stage =>
    rw [stage]
    exact ⟨show 0 + 0 ≤ 1 by decide, show 1 + 0 + 0 ≤ 3 + 4 by decide⟩
  | approved stage =>
    -- no feedback is due, but a judgement has paid for one turn in any case
    have atMost := atMost s.feedbackDue
    rw [stage]
    constructor
    · show 0 + (if s.feedbackDue then 1 else 0) ≤ 1
      omega
    · show 1 + 2 + 4 * (if s.feedbackDue then 1 else 0) ≤ 3 + 4
      omega
  | turnedDown stage =>
    rw [stage]
    exact ⟨show 0 + 1 ≤ 1 by decide, show 1 + 2 + 4 ≤ 3 + 4 by decide⟩
  | wordFailed stage =>
    rw [stage]
    refine ⟨Nat.zero_le _, ?_⟩
    show 1 + 0 + 0 ≤ 2 + _
    omega
  | wordMissing stage =>
    rw [stage]
    refine ⟨Nat.le_of_eq (Nat.zero_add _), ?_⟩
    show 1 + 1 + 4 * (if s.feedbackDue then 1 else 0) ≤ 2 + 4 * (if s.feedbackDue then 1 else 0)
    omega

/-- Attempts that the budgets have left. -/
def Session.attemptsLeft (s : Session) : Nat :=
  s.repair.budget.remaining + s.judge.budget.remaining

/-- A turn after a leg that was checked follows the judge, or is the operator's. -/
theorem ahead_of_turn {s : Session} (replies : s.rules.maxReplies ≠ 0)
    (heard : s.rules.automated = true → s.feedbackDue = true) :
    (Juncture.turn s).solvesAhead = (if s.feedbackDue then 1 else 0) ∧
      (Juncture.turn s).questionsAhead = 1 := by
  cases due : s.feedbackDue with
  | true => exact ahead_of_feedbackDue due
  | false =>
    refine ahead_of_asksTask due (eq_false_of_ne_true fun automated => ?_) replies
    cases due.symm.trans (heard automated)

/-- Going on by itself, a session gains nothing except for an attempt that is counted. -/
theorem Move.ahead {mission : Mission} {p q : Juncture} (h : Move p q)
    (ends : ¬ mission.rules.Circling) (known : p.Known mission) :
    q.solvesAhead + q.session.attemptsLeft ≤ p.solvesAhead + p.session.attemptsLeft ∧
      q.questionsAhead ≤ p.questionsAhead := by
  rw [← known.rules] at ends
  obtain ⟨-, equipped, silent, judged, -⟩ := known
  cases h with
  | instruct | instructAloud | read | confirm => exact ⟨Nat.le_refl _, Nat.le_refl _⟩
  | unreadable | noRepair => exact ⟨Nat.add_le_add_right (Nat.zero_le _) _, Nat.zero_le _⟩
  | @nudgeFeedback s _ due =>
    have turn := ahead_of_feedbackDue due
    rw [turn.1, turn.2]
    exact ⟨Nat.le_refl _, Nat.le_refl _⟩
  | @putTask s more _ due automated replies =>
    have turn : (Juncture.turn s).solvesAhead = 1 ∧
        (Juncture.turn s).questionsAhead = more + 1 := by
      simp [Juncture.solvesAhead, Juncture.questionsAhead, due, automated, replies]
    rw [turn.1, turn.2]
    exact ⟨Nat.le_refl _, Nat.le_refl _⟩
  | @putTaskUnheard s _ _ automated =>
    have turn : (Juncture.turn s).solvesAhead = 1 := by simp [Juncture.solvesAhead, automated]
    rw [turn]
    exact ⟨Nat.le_refl _, Nat.zero_le _⟩
  | @askTaskUnheard s _ _ _ replies =>
    have turn : (Juncture.turn s).solvesAhead = 1 := by simp [Juncture.solvesAhead, replies]
    rw [turn]
    exact ⟨Nat.le_refl _, Nat.zero_le _⟩
  | @askTask s more _ due automated replies =>
    have turn := ahead_of_asksTask due automated (by omega)
    rw [turn.1, turn.2]
    exact ⟨Nat.le_refl _, Nat.le_refl _⟩
  | @tryRepair s spec budget spends =>
    -- the attempt that is counted pays for the solver being asked once more
    obtain ⟨remaining, -, -⟩ := Budget.remaining_of_spend? spends
    refine ⟨?_, Nat.le_refl _⟩
    show 1 + (budget.remaining + s.judge.budget.remaining) ≤
      0 + (s.repair.budget.remaining + s.judge.budget.remaining)
    omega
  | @unjudged s leg =>
    -- nothing was paid for a leg that is not judged, so no feedback may be due
    have none : s.feedbackDue = false := judged.1
    refine ⟨?_, show 2 ≤ 3 by decide⟩
    show (if s.feedbackDue then 1 else 0) + _ ≤ 0 + _
    rw [none]
    exact Nat.le_refl _
  | @judge s leg judge asks =>
    obtain ⟨-, spends, -⟩ := Judge.of_begin? asks
    obtain ⟨remaining, -, -⟩ := Budget.remaining_of_spend? spends
    refine ⟨?_, Nat.le_refl _⟩
    show 1 + (s.repair.budget.remaining + judge.budget.remaining) ≤
      0 + (s.repair.budget.remaining + s.judge.budget.remaining)
    omega
  | settle => exact ⟨Nat.le_refl _, show 1 ≤ 2 by decide⟩
  | @complete s leg =>
    refine ⟨?_, Nat.zero_le _⟩
    show 0 + (s.fly leg).attemptsLeft ≤ _ + s.attemptsLeft
    rw [attemptsLeft, fly_repair, fly_judge, attemptsLeft]
    omega
  | @flyOn s leg automated =>
    have replies : (s.fly leg).rules.maxReplies ≠ 0 := by
      rw [Session.rules, fly_mission]
      intro none
      exact (silent none).2.2
    have turn := ahead_of_turn replies fun automated' => by
      rw [Session.rules, fly_mission] at automated'
      cases automated.symm.trans automated'
    rw [turn.1, turn.2, fly_feedbackDue]
    refine ⟨Nat.add_le_add_left ?_ _, Nat.le_refl _⟩
    show (s.fly leg).attemptsLeft ≤ s.attemptsLeft
    rw [attemptsLeft, fly_repair, fly_judge]
    exact Nat.le_refl _
  | @refuse s leg stays =>
    have replies : s.rules.maxReplies ≠ 0 := fun none => (silent none).2.2
    have turn := ahead_of_turn replies fun automated => by
      -- an automated session goes on only with a judge, and then the operator has no word
      have enabled : s.judge.enabled = true := by
        rcases stays with attended | enabled
        · cases attended.symm.trans automated
        · exact enabled
      have judges : s.rules.judges = true := equipped.judges.symm.trans enabled
      have confirms : s.rules.confirms = false :=
        eq_false_of_ne_true fun confirms => ends ⟨automated, confirms, judges, replies⟩
      exact judged.2 confirms
    rw [turn.1, turn.2]
    exact ⟨Nat.le_refl _, Nat.le_refl _⟩

/-- How often the solver is still asked. -/
def Juncture.solvesBound (p : Juncture) : Nat :=
  p.solvesAhead + p.session.attemptsLeft

/-- How many questions are still put: what is ahead, and for each time that the solver is
asked or an attempt is counted, that question and up to three more. -/
def Juncture.questionsBound (p : Juncture) : Nat :=
  p.questionsAhead + 4 * p.solvesBound

/-- From one juncture to another, the potential has paid for all that was asked. -/
structure PaidFor (asked : Nat) (p q : Juncture) : Prop where
  solves : solverCalls q.session.log + q.solvesBound ≤ solverCalls p.session.log + p.solvesBound
  questions : q.questionsBound + asked ≤ p.questionsBound

namespace PaidFor

theorem refl (p : Juncture) : PaidFor 0 p p :=
  ⟨Nat.le_refl _, Nat.le_refl _⟩

theorem trans {m n : Nat} {p q r : Juncture} (h : PaidFor m p q) (h' : PaidFor n q r) :
    PaidFor (m + n) p r := by
  obtain ⟨solves, questions⟩ := h
  obtain ⟨solves', questions'⟩ := h'
  constructor <;> omega

variable {mission : Mission}

theorem hears {s : Session} {e : Event} {p : Juncture} (known : (Juncture.waiting s).Known mission)
    (unattended : e.IsUnattended) (step : Hears s e p) : PaidFor 1 (.waiting s) p := by
  obtain ⟨solves, questions⟩ := step.ahead unattended known
  obtain ⟨repair, judge⟩ := step.checkers
  have attempts : p.session.attemptsLeft = s.attemptsLeft := by
    rw [attemptsLeft, repair, judge, attemptsLeft]
  constructor
  · show _ + (p.solvesAhead + p.session.attemptsLeft) ≤
      solverCalls s.log + (s.stage.solvesAhead s.feedbackDue + s.attemptsLeft)
    rw [step.solverCalls_eq]
    omega
  · show p.questionsAhead + 4 * (p.solvesAhead + p.session.attemptsLeft) + 1 ≤
      s.stage.questionsAhead + 4 * (s.stage.solvesAhead s.feedbackDue + s.attemptsLeft)
    omega

theorem move (ends : ¬ mission.rules.Circling) {p q : Juncture} (known : p.Known mission)
    (step : Move p q) : PaidFor 0 p q := by
  obtain ⟨solves, questions⟩ := step.ahead ends known
  refine ⟨?_, ?_⟩
  · rw [step.solverCalls_eq]
    exact Nat.add_le_add_left solves _
  · show q.questionsAhead + 4 * (q.solvesAhead + q.session.attemptsLeft) ≤
      p.questionsAhead + 4 * (p.solvesAhead + p.session.attemptsLeft)
    omega

theorem moves (ends : ¬ mission.rules.Circling) {p q : Juncture} (known : p.Known mission)
    (h : Moves p q) : PaidFor 0 p q :=
  (Invariant.known mission).keeps (fun known paid step => paid.trans (move ends known step)) known
    (refl p) h

/-- Each answer lowers the potential. -/
theorem resume (ends : ¬ mission.rules.Circling) {s : Session} {answer : Answer} {e : Event}
    (known : (Juncture.waiting s).Known mission)
    (fits : s.query.bind (·.answered? answer) = some e) (unattended : e.IsUnattended) :
    PaidFor 1 (.waiting s) (.waiting (s.resume answer)) := by
  rcases resume_eq s answer with ⟨unfit, -⟩ | ⟨e', p, fits', step, next⟩
  · cases unfit.symm.trans fits
  · cases fits'.symm.trans fits
    rw [next]
    exact (hears known unattended step).trans
      (moves ends ((Invariant.known mission).hears known step) (moves_next p))

/-- A world whose operator says nothing more is paid for, question by question. -/
theorem run (ends : ¬ mission.rules.Circling) {σ : Type} {w : World (StateM σ)}
    (ended : w.InputEnded) (answers : List Answer) (env : σ) (questions : Nat) :
    ∃ asked, PaidFor asked (.waiting (after mission answers))
        (.waiting ((Session.run w questions (after mission answers)).run env).1) ∧
      (((Session.run w questions (after mission answers)).run env).1.stage.ending?.isSome = true ∨
        asked = questions) := by
  induction questions generalizing answers env with
  | zero => exact ⟨0, refl _, .inr rfl⟩
  | succ questions ih =>
    cases ending : (after mission answers).stage.ending? with
    | some how =>
      rw [run_of_ending w _ ending]
      exact ⟨0, refl _, .inl (Option.isSome_of_mem ending)⟩
    | none =>
      obtain ⟨q, asks⟩ := exists_query ((Invariant.begun mission).after answers) ending
      obtain ⟨e, fits⟩ := answered?_answer w q env
      have unattended := ended.isUnattended fits
      have fits : (after mission answers).query.bind
          (·.answered? ((w.answer q).run env).1) = some e := by rw [asks]; exact fits
      have first := resume ends ((Invariant.known mission).after answers) fits unattended
      obtain ⟨asked, rest, finished⟩ :=
        ih (answers ++ [((w.answer q).run env).1]) ((w.answer q).run env).2
      rw [after_concat] at rest finished
      rw [run_of_query w questions ending asks]
      refine ⟨1 + asked, first.trans rest, finished.imp_right fun all => ?_⟩
      rw [all, Nat.add_comm]

end PaidFor

/-! ## What the rules allow -/

theorem Stage.solvesAhead_le_one (feedbackDue : Bool) (stage : Stage) :
    stage.solvesAhead feedbackDue ≤ 1 := by
  cases stage with
  | confirming =>
    rw [solvesAhead]
    split <;> omega
  | _ => simp [solvesAhead]

theorem Stage.questionsAhead_le {stage : Stage} {maxReplies : Nat} (replies : maxReplies ≠ 0)
    (within : ∀ more, stage = .reply (.automated more) → more < maxReplies) :
    stage.questionsAhead ≤ maxReplies + 2 := by
  cases stage with
  | reply kind =>
    cases kind with
    | automated more =>
      have := within more rfl
      simp only [questionsAhead]
      omega
    | feedback | interactive => simp [questionsAhead]
  | _ =>
    simp only [questionsAhead]
    omega

/-- The potential of a session is within what its rules allow. -/
theorem bounds_after (mission : Mission) (answers : List Answer) :
    let s := after mission answers
    let r := mission.rules
    (Juncture.waiting s).solvesBound ≤ r.repairLimit + r.judgeLimit + 1 ∧
      (s.stage.ending? = none → (Juncture.waiting s).questionsBound <
        4 * (r.repairLimit + r.judgeLimit + 1) + r.maxReplies + 3) := by
  intro s r
  have known : (Juncture.waiting s).Known mission := (Invariant.known mission).after answers
  have same : s.rules = r := known.rules
  have repairs : s.repair.budget.limit = r.repairLimit := by
    rw [← same]
    exact known.equipped.repairLimit
  have judgements : s.judge.budget.limit ≤ r.judgeLimit := by
    rw [← same, show s.judge.budget.limit = _ from known.equipped.judgeLimit]
    split
    · exact Nat.le_refl _
    · exact Nat.zero_le _
  have once := s.stage.solvesAhead_le_one s.feedbackDue
  have solves : (Juncture.waiting s).solvesBound ≤ r.repairLimit + r.judgeLimit + 1 := by
    show s.stage.solvesAhead s.feedbackDue +
      (s.repair.budget.limit - s.repair.budget.count +
        (s.judge.budget.limit - s.judge.budget.count)) ≤ _
    omega
  refine ⟨solves, fun goesOn => ?_⟩
  obtain ⟨q, asks⟩ := exists_query ((Invariant.begun mission).after answers) goesOn
  have few := Stage.questionsAhead_le (known.maxReplies_ne_zero asks) known.within
  have few : s.stage.questionsAhead ≤ r.maxReplies + 2 := by
    rw [← same]
    exact few
  show s.stage.questionsAhead + 4 * _ < _
  omega

/-! ## Going round -/

/-- The model writes a specification, and accepts each leg with the same words; the solver
finds the same leg each time, and the operator says nothing. -/
def contentWorld : World (StateM Unit) where
  model _ := pure (.ok acceptedToken)
  solver _ := pure (.feasible ⟨[.atRest 0 0 0]⟩ [])
  operator _ := pure (.ok none)

theorem contentWorld_inputEnded : contentWorld.InputEnded :=
  fun _ _ => rfl

/-- What is answered in that world. -/
def Event.IsContent : Event → Prop
  | modelAsked _ _ reply => reply = .ok acceptedToken
  | solverAsked _ outcome => outcome = .feasible ⟨[.atRest 0 0 0]⟩ []
  | operatorAsked _ line => line = .ok none
  | printed _ => True

theorem isContent_of_answered {q : Query} {e : Event}
    (fits : q.answered? ((contentWorld.answer q).run ()).1 = some e) : e.IsContent := by
  cases q <;> obtain rfl := Option.some.inj fits <;> rfl

theorem extract_acceptedToken : Specification.extract acceptedToken = .ok ⟨"accepted"⟩ :=
  rfl

theorem opensPair_acceptedToken : opensPair acceptedToken = true :=
  rfl

theorem read_acceptedToken : Judge.read acceptedToken = .accepted :=
  rfl

theorem isFeasible_atRest : (Outcome.feasible ⟨[.atRest 0 0 0]⟩ []).checked.isFeasible = true :=
  rfl

/-- The legs of the session are accepted by the judge and turned down by the operator. -/
def Juncture.Circles : Juncture → Prop
  | turn s | found s _ | judged s _ true | settled s _ false => s.feedbackDue = false
  | reading s => s.conversation.lastReply? = some acceptedToken
  | repair _ _ | judged _ _ false | settled _ _ true => False
  | waiting s => match s.stage with
    | .reply (.automated _) => True
    | .solving _ _ | .judging _ | .confirming _ => s.feedbackDue = false
    | _ => False

theorem Hears.circles {s : Session} {e : Event} {p : Juncture}
    (circles : (Juncture.waiting s).Circles) (content : e.IsContent) (h : Hears s e p) :
    p.Circles := by
  simp only [Juncture.Circles] at circles
  cases h with
  | taskFailed stage | taskLeft stage | taskPut stage | feedbackReply stage | interactiveReply stage
  | askedAgain stage | askedLast stage | repairFailed stage | repaired stage | unrepaired stage =>
    rw [stage] at circles
    exact circles.elim
  | replyFailed | judgementFailed | wordFailed | wordGiven | wordUnclear => cases content
  | automatedReply stage =>
    obtain rfl := Except.ok.inj content
    exact Conversation.lastReply?_push_assistant _ _
  | nudged _ opens | nudgedLast _ opens =>
    obtain rfl := Except.ok.inj content
    cases opensPair_acceptedToken.symm.trans opens
  | solved stage =>
    rw [stage] at circles
    exact circles
  | unsolvedRepair _ checked | unsolvedAbort _ checked | unsolvedRefine _ checked =>
    have feasible := isFeasible_atRest
    rw [← show _ = Outcome.feasible ⟨[.atRest 0 0 0]⟩ [] from content, checked] at feasible
    cases feasible
  | approved stage =>
    rw [stage] at circles
    exact circles
  | turnedDown _ read =>
    obtain rfl := Except.ok.inj content
    cases read_acceptedToken.symm.trans read
  | wordMissing stage =>
    rw [stage] at circles
    exact circles

theorem Move.circles {mission : Mission} {p q : Juncture} (circling : mission.rules.Circling)
    (known : p.Known mission) (circles : p.Circles) (h : Move p q) : q.Circles := by
  rw [← known.rules] at circling
  obtain ⟨automated, confirms, judges, replies⟩ := circling
  have equipped := known.equipped
  cases h with
  | instruct | instructAloud => exact circles
  | nudgeFeedback _ due => cases due.symm.trans circles
  | putTask => trivial
  | putTaskUnheard _ _ _ none | askTaskUnheard _ _ _ none => exact absurd none replies
  | askTask _ _ attended | flyOn attended => cases attended.symm.trans automated
  | unreadable extracted =>
    rw [show _ = some acceptedToken from circles] at extracted
    cases extract_acceptedToken.symm.trans extracted
  | read => rfl
  | noRepair | tryRepair => exact circles.elim
  | unjudged | judge => exact circles
  | @confirm s leg accepted =>
    cases accepted with
    | true => exact circles
    | false => exact circles.elim
  | settle silent => cases silent.symm.trans confirms
  | complete _ flies =>
    -- there is a judge, so only a leg that is accepted would complete the session
    rcases flies with rfl | disabled
    · exact circles.elim
    · cases (equipped.judges.trans judges).symm.trans disabled
  | refuse => exact circles

theorem Juncture.Circles.exists_query {s : Session} (h : (waiting s).Circles) :
    s.stage.ending? = none ∧ ∃ q, s.query = some q := by
  simp only [Circles] at h
  unfold query
  cases stage : s.stage with
  | opening | task | repairing | ended =>
    rw [stage] at h
    exact h.elim
  | reply | solving | judging | confirming => exact ⟨rfl, _, rfl⟩

theorem Juncture.Circles.moves {mission : Mission} (circling : mission.rules.Circling)
    {p q : Juncture} (known : p.Known mission) (circles : p.Circles) (h : Moves p q) : q.Circles :=
  (Invariant.known mission).keeps (fun known h step => step.circles circling known h) known
    circles h

/-- Under such rules a session has no end in that world. -/
theorem circles_run {mission : Mission} (circling : mission.rules.Circling) (questions : Nat)
    {s : Session} (known : (Juncture.waiting s).Known mission)
    (circles : (Juncture.waiting s).Circles) :
    ((run contentWorld questions s).run ()).1.stage.ending? = none := by
  obtain ⟨ending, q, asks⟩ := circles.exists_query
  -- on the questions; each answer of that world leads to a session that circles again
  induction questions generalizing s q with
  | zero => exact ending
  | succ questions ih =>
    obtain ⟨e, fits⟩ := answered?_answer contentWorld q ()
    have content := isContent_of_answered fits
    rw [run_of_query contentWorld questions ending asks]
    have known' := (Invariant.known mission).resume known ((contentWorld.answer q).run ()).1
    have circles' :
        (Juncture.waiting (s.resume ((contentWorld.answer q).run ()).1)).Circles := by
      rcases resume_eq s ((contentWorld.answer q).run ()).1 with
        ⟨-, same⟩ | ⟨e', p, fits', step, next⟩
      · rw [same]
        exact circles
      · rw [asks] at fits'
        cases fits'.symm.trans fits
        rw [next]
        exact .moves circling ((Invariant.known mission).hears known step)
          (step.circles circles content) (moves_next p)
    obtain ⟨ending', q', asks'⟩ := circles'.exists_query
    exact ih known' circles' ending' q' asks'

theorem circles_begin {mission : Mission} (circling : mission.rules.Circling) :
    (Juncture.waiting (begin mission)).Circles :=
  .moves circling (Invariant.known mission).begins rfl (moves_next (.turn (.new mission)))

/-! ## Main result -/

/-- Once the operator's input has ended, a session asks the solver at most once and
then once for each attempt that a limit allows, and ends, whatever the model and the
solver do. The one exception is an automated session with a judge in which the operator
has the last word on legs. -/
theorem ends_after_input_iff (mission : Mission) :
    (∀ (σ : Type) (w : World (StateM σ)), w.InputEnded →
      ∀ (answers : List Answer) (env : σ) (questions : Nat),
        let s := after mission answers
        let t := ((run w questions s).run env).1
        let bound := mission.rules.repairLimit + mission.rules.judgeLimit + 1
        solverCalls t.log ≤ solverCalls s.log + bound ∧
          (4 * bound + mission.rules.maxReplies + 3 ≤ questions → t.stage.ending?.isSome = true)) ↔
      ¬ mission.rules.Circling := by
  constructor
  · intro ends circling
    have known : (Juncture.waiting (begin mission)).Known mission := (Invariant.known mission).begin
    obtain ⟨-, stops⟩ := ends Unit contentWorld contentWorld_inputEnded [] () _
    have stops := stops (Nat.le_refl _)
    rw [show after mission [] = begin mission from rfl,
      circles_run circling _ known (circles_begin circling)] at stops
    cases stops
  · intro ends σ w ended answers env questions s t bound
    obtain ⟨solves, few⟩ := bounds_after mission answers
    obtain ⟨asked, paid, finished⟩ := PaidFor.run ends ended answers env questions
    have solves : (Juncture.waiting s).solvesBound ≤ bound := solves
    have total : solverCalls t.log + (Juncture.waiting t).solvesBound ≤
      solverCalls s.log + (Juncture.waiting s).solvesBound := paid.solves
    refine ⟨by omega, fun enough => ?_⟩
    rcases finished with stops | all
    · exact stops
    · cases ending : s.stage.ending? with
      | some how =>
        show ((run w questions s).run env).1.stage.ending?.isSome = true
        rw [run_of_ending w _ ending]
        exact Option.isSome_of_mem ending
      | none =>
        -- the questions that were put are more than the potential could pay for
        have few := few ending
        have left := paid.questions
        omega

/-- The judge may be asked no more, and the operator turns down what it lets pass. -/
def Rules.dismissing : Rules :=
  { Rules.unchecked with automated := true, judges := true, judgeLimit := 0, confirms := true }

/-- Neither limit allows an attempt, and yet the solver is asked a second time,
and the session goes on. -/
theorem unheard_leg_is_solved_again :
    let r := Rules.dismissing
    let s := after (openMission r) []
    let t := ((run contentWorld 5 s).run ()).1
    contentWorld.InputEnded ∧ solverCalls s.log + (r.repairLimit + r.judgeLimit + 1) <
      solverCalls t.log ∧ t.stage.ending? = none := by
  refine ⟨fun _ _ => rfl, ?_, rfl⟩
  decide

end Sortie
