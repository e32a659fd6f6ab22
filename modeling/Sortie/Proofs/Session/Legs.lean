import Mathlib.Data.List.ModifyLast
import Sortie.Proofs.Session.Calls
import Sortie.Session.Result
/-!
# Legs

A log tells which legs the solver found, and what the judge and the operator said about
each. From this alone it follows which legs were accepted. The main results say what a
session makes of them: its trajectory is the start and the tails of the accepted legs,
whatever else happened, and the solver is always asked to go on from the end of the
last one. That point is the end of the trajectory unless the last accepted leg is a
single sample elsewhere.
-/

namespace Sortie

open Session

/-! ## What a log tells about legs -/

/-- A leg that the solver found, and what was said about it. -/
structure FoundLeg where
  leg : Trajectory
  /-- The judge is to be asked: it is switched on, and has attempts left. -/
  toJudge : Bool
  /-- The judge's reply, once it was asked. -/
  judged : Option (Except String String)
  /-- What came of asking the operator for the last word, oldest first. -/
  words : List Operator.Line

/-- The operator's confirmation: the first answer among the lines. The end of the input is
a no; if the input fails there is none. -/
def confirmation? : List Operator.Line → Option Bool
  | .ok none :: _ => some false
  | .ok (some line) :: rest =>
    match Operator.answer? line with
    | some accepted => some accepted
    | none => confirmation? rest
  | _ => none

namespace FoundLeg

/-- The judge has had its say, if it is to be asked. -/
def isHeard (l : FoundLeg) : Bool :=
  match l.judged with
  | some reply => reply.isOk
  | none => !l.toJudge

/-- The judge turned the leg down. -/
def isRejected (l : FoundLeg) : Bool :=
  match l.judged.map Judge.conclude with
  | some (.ok (.rejected _)) => true
  | _ => false

/-- The check of the leg came to its end without a fault. -/
def isChecked (rules : Rules) (l : FoundLeg) : Bool :=
  l.isHeard && (!rules.confirms || (confirmation? l.words).isSome)

/-- The leg is accepted: by the operator, if the operator has the last word, else by the
judge. An automated session without a judge accepts any leg. -/
def isAccepted (rules : Rules) (l : FoundLeg) : Bool :=
  l.isChecked rules &&
    ((if rules.confirms then confirmation? l.words == some true else !l.isRejected) ||
      (rules.automated && !rules.judges))

/-- The leg once the judge was asked. -/
def withReply (reply : Except String String) (l : FoundLeg) : FoundLeg :=
  { l with judged := some reply }

/-- The leg once the operator was asked, maybe once more. -/
def withWord (word : Operator.Line) (l : FoundLeg) : FoundLeg :=
  { l with words := l.words ++ [word] }

/-- The legs found, after one more event. -/
def note (rules : Rules) (legs : List FoundLeg) : Event → List FoundLeg
  | .solverAsked _ outcome =>
    match outcome.checked with
    | .feasible leg _ =>
      let toJudge := rules.judges && legs.countP (·.judged.isSome) < rules.judgeLimit
      legs ++ [⟨leg, toJudge, none, []⟩]
    | .infeasible _ => legs
  | .modelAsked .judgement _ reply => legs.modifyLast (withReply reply)
  | .operatorAsked prompt line =>
    if prompt = Operator.confirmPrompt then legs.modifyLast (withWord line) else legs
  | _ => legs

end FoundLeg

/-- The legs that the solver found, in the order in which it did. -/
def foundLegs (rules : Rules) (log : List Event) : List FoundLeg :=
  log.foldl (FoundLeg.note rules) []

/-- Those of the legs that are accepted. -/
def accepted (rules : Rules) (legs : List FoundLeg) : List Trajectory :=
  (legs.filter (·.isAccepted rules)).map (·.leg)

/-- The accepted legs of a log, in the order in which they were found. -/
def acceptedLegs (rules : Rules) (log : List Event) : List Trajectory :=
  accepted rules (foundLegs rules log)

/-- The way from `x0` along legs, each without its first sample. -/
def route (x0 : State) (legs : List Trajectory) : List State :=
  x0 :: legs.flatMap (·.states.tail)

/-- The place to go on from: the end of the last of these legs, or `x0`
if there is none. -/
def StartsAfter (x0 : State) (legs : List Trajectory) (start : State) : Prop :=
  match legs.getLast? with
  | some leg => leg.last? = some start
  | none => start = x0

/-! ## Small facts -/

theorem foundLegs_concat (rules : Rules) (log : List Event) (e : Event) :
    foundLegs rules (log ++ [e]) = FoundLeg.note rules (foundLegs rules log) e := by
  simp [foundLegs]

theorem foundLegs_append_printed (rules : Rules) (log : List Event) (lines : List String) :
    foundLegs rules (log ++ lines.map .printed) = foundLegs rules log := by
  induction lines generalizing log with
  | nil => simp
  | cons line rest ih =>
    rw [List.map_cons, List.append_cons, ih, foundLegs_concat]
    rfl

theorem accepted_concat (rules : Rules) (legs : List FoundLeg) (l : FoundLeg) :
    accepted rules (legs ++ [l]) =
      if l.isAccepted rules then accepted rules legs ++ [l.leg] else accepted rules legs := by
  unfold accepted
  cases h : l.isAccepted rules <;> simp [h]

theorem route_concat (x0 : State) (legs : List Trajectory) (leg : Trajectory) :
    route x0 (legs ++ [leg]) = route x0 legs ++ leg.states.tail := by
  simp [route]

/-- A leg of one sample adds nothing. -/
theorem getLast?_route_concat (x0 : State) (legs : List Trajectory) (leg : Trajectory) :
    (route x0 (legs ++ [leg])).getLast? =
      if 1 < leg.length then leg.last? else (route x0 legs).getLast? := by
  rw [route_concat, List.getLast?_append, List.getLast?_tail, Trajectory.length, Trajectory.last?]
  rcases leg.states with _ | ⟨first, _ | ⟨second, rest⟩⟩
  · rfl
  · rfl
  · rw [if_neg (by simp), if_pos (by simp), List.getLast?_eq_some_getLast (by simp)]
    rfl

theorem startsAfter_concat {x0 start : State} {legs : List Trajectory} {leg : Trajectory} :
    StartsAfter x0 (legs ++ [leg]) start ↔ leg.last? = some start := by
  simp [StartsAfter]

/-- Lines that are no answers are followed by another question. -/
def Unclear (words : List Operator.Line) : Prop :=
  ∀ word ∈ words, ∃ line, word = .ok (some line) ∧ Operator.answer? line = none

theorem Unclear.nil : Unclear [] := by
  intro word h
  cases h

theorem Unclear.concat {words : List Operator.Line} (h : Unclear words) {line : String}
    (answer : Operator.answer? line = none) : Unclear (words ++ [.ok (some line)]) := by
  intro word hword
  rcases List.mem_append.mp hword with hword | hword
  · exact h word hword
  · exact ⟨line, List.mem_singleton.mp hword, answer⟩

theorem Unclear.confirmation?_append {words : List Operator.Line} (h : Unclear words)
    (more : List Operator.Line) : confirmation? (words ++ more) = confirmation? more := by
  induction words with
  | nil => rfl
  | cons word rest ih =>
    obtain ⟨line, rfl, answer⟩ := h word (by simp)
    have := ih fun w hw => h w (by simp [hw])
    simpa [confirmation?, answer] using this

/-- Once a line is an answer, the operator's word is given. -/
theorem FoundLeg.isAccepted_withWord {rules : Rules} {l : FoundLeg} {word : Operator.Line}
    {answer : Bool} (heard : l.isHeard = true) (confirms : rules.confirms = true)
    (unclear : Unclear l.words) (given : confirmation? [word] = some answer) :
    (l.withWord word).isAccepted rules = (answer || (rules.automated && !rules.judges)) := by
  have said : confirmation? (l.withWord word).words = some answer :=
    (unclear.confirmation?_append [word]).trans given
  have checked : (l.withWord word).isChecked rules = true := by
    rw [isChecked, said, confirms, show (l.withWord word).isHeard = l.isHeard from rfl, heard]
    rfl
  rw [isAccepted, checked, said, confirms]
  cases answer <;> rfl

/-- Nothing is accepted if the operator could not be asked. -/
theorem FoundLeg.isAccepted_withWord_error {rules : Rules} {l : FoundLeg} {e : String}
    (confirms : rules.confirms = true) (unclear : Unclear l.words) :
    (l.withWord (.error e)).isAccepted rules = false := by
  have said : confirmation? (l.withWord (.error e)).words = none :=
    unclear.confirmation?_append [.error e]
  rw [isAccepted, isChecked, said, confirms]
  simp

/-- Nothing is accepted if the judge could not be asked. -/
theorem FoundLeg.isAccepted_withReply_error (rules : Rules) (l : FoundLeg) (e : String) :
    (l.withReply (.error e)).isAccepted rules = false :=
  rfl

theorem Judge.isSome_begin? (j : Judge) :
    j.begin?.isSome = (j.enabled && decide (j.budget.count < j.budget.limit)) := by
  unfold Judge.begin? Budget.spend?
  cases j.enabled with
  | false => rfl
  | true => by_cases h : j.budget.count < j.budget.limit <;> simp [h]

theorem Outcome.checked_feasible {outcome : Outcome} {leg : Trajectory} {controls : List Control}
    (h : outcome.checked = .feasible leg controls) : leg.states ≠ [] := by
  intro empty
  cases outcome with
  | infeasible reason => cases h
  | feasible t controls' =>
    cases valid : t.isAllInvalid with
    | true => simp [checked, valid] at h
    | false =>
      simp only [checked, valid, Bool.false_eq_true, if_false, feasible.injEq] at h
      rw [h.1, Trajectory.isAllInvalid, empty] at valid
      cases valid

/-! ## What a session makes of legs -/

/-- A session has flown these legs and no others. -/
structure Flown (s : Session) (legs : List Trajectory) : Prop where
  trajectory : s.trajectory.states = route s.mission.scenario.start legs
  start : StartsAfter s.mission.scenario.start legs s.start

theorem Flown.congr {s t : Session} {legs : List Trajectory} (h : Flown s legs)
    (mission : t.mission = s.mission) (trajectory : t.trajectory = s.trajectory)
    (start : t.start = s.start) : Flown t legs := by
  constructor
  · rw [trajectory, mission]
    exact h.trajectory
  · rw [start, mission]
    exact h.start

theorem Flown.new (mission : Mission) : Flown (Session.new mission) [] :=
  ⟨rfl, rfl⟩

theorem Flown.fly {s : Session} {legs : List Trajectory} (h : Flown s legs) {leg : Trajectory}
    (samples : leg.states ≠ []) : Flown (s.fly leg) (legs ++ [leg]) := by
  have started : s.trajectory.states ≠ [] := by simp [h.trajectory, route]
  constructor
  · rw [fly_trajectory, fly_mission, Trajectory.append_states started, h.trajectory, route_concat]
  · rw [fly_start, startsAfter_concat, Trajectory.last?, List.getLast?_eq_some_getLast samples]
    rfl

/-- The last leg found is being checked, and so much is known of it; the session has flown
the accepted ones among those before. -/
def Checking (s : Session) (leg : Trajectory) (known : FoundLeg → Prop) : Prop :=
  ∃ before l, foundLegs s.rules s.log = before ++ [l] ∧ l.leg = leg ∧ leg.states ≠ [] ∧
    Flown s (accepted s.rules before) ∧ known l

/-- No leg is being checked: the session has flown the accepted legs. -/
def Settled (s : Session) : Prop :=
  Flown s (acceptedLegs s.rules s.log)

/-- How far the check of the last leg has come at a juncture, and what
the session has flown. -/
def Juncture.FlownSoFar : Juncture → Prop
  | turn s | reading s | repair s _ => Settled s
  | found s leg => Checking s leg fun l =>
    l.toJudge = s.judge.begin?.isSome ∧ l.judged = none ∧ l.words = []
  | judged s leg accepted => Checking s leg fun l =>
    l.isHeard = true ∧ l.isRejected = !accepted ∧ l.words = []
  | settled s leg accepted => Checking s leg fun l =>
    l.isAccepted s.rules = (accepted || (s.rules.automated && !s.rules.judges))
  | waiting s => match s.stage with
    | .judging leg => Checking s leg fun l =>
      l.toJudge = true ∧ l.judged = none ∧ l.words = []
    | .confirming leg => Checking s leg fun l =>
      l.isHeard = true ∧ s.rules.confirms = true ∧ Unclear l.words
    | _ => Settled s

/-- The judge's attempts are the legs that were judged. -/
def Juncture.CountsJudged (p : Juncture) : Prop :=
  (foundLegs p.session.rules p.session.log).countP (·.judged.isSome) + p.judgementsAwaited =
    p.session.judge.budget.count

/-! ## The steps of a session -/

theorem Settled.congr {s t : Session} (h : Settled s) (mission : t.mission = s.mission)
    (trajectory : t.trajectory = s.trajectory) (start : t.start = s.start)
    (found : foundLegs t.rules t.log = foundLegs s.rules s.log) : Settled t := by
  unfold Settled acceptedLegs
  rw [found, Session.rules, mission]
  exact Flown.congr h mission trajectory start

/-- A check goes on: more has been said about the leg. -/
theorem Checking.step {s t : Session} {leg : Trajectory} {known known' : FoundLeg → Prop}
    (h : Checking s leg known) (f : FoundLeg → FoundLeg) (mission : t.mission = s.mission)
    (trajectory : t.trajectory = s.trajectory) (start : t.start = s.start)
    (found : foundLegs t.rules t.log = (foundLegs s.rules s.log).modifyLast f)
    (same : ∀ l, (f l).leg = l.leg) (next : ∀ l, known l → known' (f l)) :
    Checking t leg known' := by
  obtain ⟨before, l, hfound, hleg, samples, flown, hl⟩ := h
  refine ⟨before, f l, ?_, (same l).trans hleg, samples, ?_, next l hl⟩
  · rw [found, hfound, List.modifyLast_concat]
  · rw [Session.rules, mission]
    exact flown.congr mission trajectory start

/-- A check goes on although nothing was said about the leg. -/
theorem Checking.mono {s t : Session} {leg : Trajectory} {known known' : FoundLeg → Prop}
    (h : Checking s leg known) (mission : t.mission = s.mission)
    (trajectory : t.trajectory = s.trajectory) (start : t.start = s.start)
    (found : foundLegs t.rules t.log = foundLegs s.rules s.log)
    (next : ∀ l, known l → known' l) : Checking t leg known' := by
  obtain ⟨before, l, hfound, hleg, samples, flown, hl⟩ := h
  refine ⟨before, l, found.trans hfound, hleg, samples, ?_, next l hl⟩
  rw [Session.rules, mission]
  exact flown.congr mission trajectory start

/-- A leg whose check failed is not accepted. -/
theorem Checking.settled {s : Session} {leg : Trajectory} {known : FoundLeg → Prop}
    (h : Checking s leg known) (fails : ∀ l, known l → l.isAccepted s.rules = false) :
    Settled s := by
  obtain ⟨before, l, hfound, -, -, flown, hl⟩ := h
  unfold Settled acceptedLegs
  rw [hfound, accepted_concat, fails l hl]
  exact flown

/-- A leg that is accepted is flown. -/
theorem Checking.fly {s : Session} {leg : Trajectory} {known : FoundLeg → Prop}
    (h : Checking s leg known) (accepts : ∀ l, known l → l.isAccepted s.rules = true) :
    Settled (s.fly leg) := by
  obtain ⟨before, l, hfound, hleg, samples, flown, hl⟩ := h
  obtain ⟨lines, hlog⟩ := fly_log s leg
  have legs : accepted s.mission.rules (foundLegs s.mission.rules s.log) =
      accepted s.rules before ++ [leg] := by
    rw [← Session.rules, hfound, accepted_concat, accepts l hl, hleg]
    rfl
  unfold Settled acceptedLegs
  rw [Session.rules, fly_mission, hlog, foundLegs_append_printed, legs]
  exact flown.fly samples

/-- An answer moves the vehicle nowhere. -/
theorem Hears.flight {s : Session} {e : Event} {p : Juncture} (h : Hears s e p) :
    p.session.trajectory = s.trajectory ∧ p.session.start = s.start := by
  cases h <;> exact ⟨rfl, rfl⟩

theorem Hears.foundLegs_eq {s : Session} {e : Event} {p : Juncture} (h : Hears s e p) :
    foundLegs p.session.rules p.session.log =
      FoundLeg.note s.rules (foundLegs s.rules s.log) e := by
  obtain ⟨lines, hlog⟩ := h.log
  rw [hlog, Session.rules, h.mission, foundLegs_append_printed, foundLegs_concat]
  rfl

theorem Juncture.FlownSoFar.hears {s : Session} {e : Event} {p : Juncture}
    (equipped : Equipped s) (counts : (waiting s).CountsJudged) (h : (waiting s).FlownSoFar)
    (step : Hears s e p) : p.FlownSoFar := by
  have found := step.foundLegs_eq
  have mission := step.mission
  obtain ⟨trajectory, start⟩ := step.flight
  simp only [CountsJudged, judgementsAwaited, session] at counts
  simp only [FlownSoFar] at h
  cases step with
  | taskFailed stage | taskLeft stage | taskPut stage =>
    rw [stage] at h
    have other : Operator.taskPrompt ≠ Operator.confirmPrompt := by decide
    simp only [FoundLeg.note, if_neg other] at found
    exact Settled.congr h mission trajectory start found
  | replyFailed stage | feedbackReply stage | automatedReply stage | nudged stage | nudgedLast stage
  | interactiveReply stage | askedAgain stage | askedLast stage | repairFailed stage
  | repaired stage | unrepaired stage =>
    -- what the model says in the conversation or in a repair is about no leg
    rw [stage] at h
    exact Settled.congr h mission trajectory start found
  | unsolvedRepair stage checked | unsolvedAbort stage checked | unsolvedRefine stage checked =>
    rw [stage] at h
    simp only [FoundLeg.note, checked] at found
    exact Settled.congr h mission trajectory start found
  | solved stage checked =>
    rw [stage] at h counts
    simp only [FoundLeg.note, checked] at found
    refine ⟨_, _, found, rfl, Outcome.checked_feasible checked, ?_, ?_, rfl, rfl⟩
    · exact Flown.congr h mission trajectory start
    · -- the log and the judge's budget agree on whether an attempt is left
      show (s.rules.judges && decide (_ < s.rules.judgeLimit)) = s.judge.begin?.isSome
      rw [Judge.isSome_begin?, equipped.judges, equipped.judgeLimit]
      cases judges : s.rules.judges with
      | false => rfl
      | true => rw [← counts]; rfl
  | @judgementFailed leg e stage =>
    rw [stage] at h
    exact (Checking.step h (.withReply (.error e)) mission trajectory start found (fun _ => rfl)
      (fun l _ => FoundLeg.isAccepted_withReply_error _ l e)).settled fun _ fails => fails
  | @approved leg reply stage read | @turnedDown leg reply stage read =>
    rw [stage] at h
    refine Checking.step h (.withReply (.ok reply)) mission trajectory start found (fun _ => rfl) ?_
    rintro l ⟨-, -, unasked⟩
    exact ⟨rfl, by simp [FoundLeg.isRejected, FoundLeg.withReply, Judge.conclude, read], unasked⟩
  | @wordFailed leg e stage =>
    rw [stage] at h
    refine (Checking.step h (.withWord (.error e)) mission trajectory start found (fun _ => rfl)
      ?_).settled fun _ fails => fails
    rintro l ⟨-, confirms, unclear⟩
    exact FoundLeg.isAccepted_withWord_error confirms unclear
  | wordMissing stage =>
    rw [stage] at h
    refine Checking.step h (.withWord _) mission trajectory start found (fun _ => rfl) ?_
    rintro l ⟨heard, confirms, unclear⟩
    exact FoundLeg.isAccepted_withWord heard confirms unclear rfl
  | wordGiven stage answer =>
    rw [stage] at h
    refine Checking.step h (.withWord _) mission trajectory start found (fun _ => rfl) ?_
    rintro l ⟨heard, confirms, unclear⟩
    exact FoundLeg.isAccepted_withWord heard confirms unclear (by simp [confirmation?, answer])
  | @wordUnclear leg line stage answer =>
    rw [stage] at h
    refine Checking.step h (.withWord (.ok (some line))) mission trajectory start found
      (fun _ => rfl) ?_
    rintro l ⟨heard, confirms, unclear⟩
    exact ⟨heard, confirms, unclear.concat answer⟩

theorem Move.foundLegs_eq {p q : Juncture} (h : Move p q) :
    foundLegs q.session.rules q.session.log = foundLegs p.session.rules p.session.log := by
  obtain ⟨lines, hlog⟩ := h.log
  rw [hlog, foundLegs_append_printed, Session.rules, h.mission]
  rfl

theorem Juncture.FlownSoFar.moves {p q : Juncture} (equipped : Equipped p.session)
    (h : p.FlownSoFar) (step : Move p q) : q.FlownSoFar := by
  have found := step.foundLegs_eq
  have mission := step.mission
  cases step with
  | instruct | instructAloud | nudgeFeedback | putTask | putTaskUnheard | askTask | askTaskUnheard
  | unreadable | read | noRepair | tryRepair =>
    exact Settled.congr h mission rfl rfl found
  | unjudged skips =>
    refine Checking.mono h mission rfl rfl found ?_
    rintro l ⟨toJudge, unjudged, unasked⟩
    rw [skips] at toJudge
    exact ⟨by simp [FoundLeg.isHeard, unjudged, toJudge],
      by simp [FoundLeg.isRejected, unjudged], unasked⟩
  | judge asks =>
    refine Checking.mono h mission rfl rfl found ?_
    rintro l ⟨toJudge, unjudged, unasked⟩
    exact ⟨toJudge.trans (by rw [asks]; rfl), unjudged, unasked⟩
  | confirm confirms =>
    refine Checking.mono h mission rfl rfl found ?_
    rintro l ⟨heard, -, unasked⟩
    exact ⟨heard, confirms, unasked ▸ Unclear.nil⟩
  | settle confirms =>
    refine Checking.mono h mission rfl rfl found ?_
    rintro l ⟨heard, rejected, -⟩
    simp [FoundLeg.isAccepted, FoundLeg.isChecked, heard, rejected, confirms]
  | @complete s leg accepted automated flies =>
    refine Settled.congr (Checking.fly h ?_) rfl rfl rfl rfl
    intro l known
    rw [known, automated]
    rcases flies with rfl | skips
    · rfl
    · -- a leg that the operator turned down is flown as well, and counts as accepted
      have judges : s.rules.judges = false := equipped.judges.symm.trans skips
      rw [judges]
      simp
  | flyOn automated =>
    refine Checking.fly h ?_
    intro l known
    rw [known]
    rfl
  | @refuse s leg stays =>
    refine Checking.settled h ?_
    intro l known
    rw [known]
    rcases stays with automated | enabled
    · rw [automated]
      rfl
    · have judges : s.rules.judges = true := equipped.judges.symm.trans enabled
      rw [judges]
      simp

theorem countP_modifyLast {legs : List FoundLeg} {f : FoundLeg → FoundLeg}
    (same : ∀ l, (f l).judged.isSome = l.judged.isSome) :
    (legs.modifyLast f).countP (·.judged.isSome) = legs.countP (·.judged.isSome) := by
  rcases List.eq_nil_or_concat legs with rfl | ⟨before, l, rfl⟩
  · rfl
  · rw [List.concat_eq_append, List.modifyLast_concat, List.countP_append, List.countP_append]
    simp [same]

theorem Juncture.CountsJudged.hears {s : Session} {e : Event} {p : Juncture}
    (flown : (waiting s).FlownSoFar) (h : (waiting s).CountsJudged) (step : Hears s e p) :
    p.CountsJudged := by
  obtain ⟨-, -, -, awaited⟩ := step.awaited
  unfold CountsJudged
  rw [step.foundLegs_eq, step.checkers.2, awaited, Nat.add_zero]
  rw [← show _ = s.judge.budget.count from h]
  simp only [judgementsAwaited, session]
  cases step with
  | judgementFailed stage | approved stage | turnedDown stage =>
    simp only [FlownSoFar, stage] at flown
    obtain ⟨before, l, hfound, -, -, -, -, unjudged, -⟩ := flown
    simp only [FoundLeg.note]
    rw [stage, hfound, List.modifyLast_concat, List.countP_append, List.countP_append]
    simp [FoundLeg.withReply, unjudged, Stage.judgementsAwaited]
  | solved stage checked | unsolvedRepair stage checked | unsolvedAbort stage checked
  | unsolvedRefine stage checked =>
    rw [stage]
    simp [FoundLeg.note, checked, Stage.judgementsAwaited]
  | wordFailed stage | wordMissing stage | wordGiven stage | wordUnclear stage =>
    rw [stage]
    simp only [FoundLeg.note, if_true]
    exact countP_modifyLast fun _ => rfl
  | taskFailed stage | taskLeft stage | taskPut stage =>
    have other : Operator.taskPrompt ≠ Operator.confirmPrompt := by decide
    rw [stage]
    simp only [FoundLeg.note, if_neg other]
    rfl
  | replyFailed stage | feedbackReply stage | automatedReply stage | nudged stage | nudgedLast stage
  | interactiveReply stage | askedAgain stage | askedLast stage | repairFailed stage
  | repaired stage | unrepaired stage =>
    rw [stage]
    rfl

theorem Juncture.CountsJudged.moves {p q : Juncture} (h : p.CountsJudged) (step : Move p q) :
    q.CountsJudged := by
  have found := step.foundLegs_eq
  unfold CountsJudged at h ⊢
  rw [found]
  cases step with
  | judge asks =>
    obtain ⟨-, spends, -⟩ := Judge.of_begin? asks
    obtain ⟨-, -, count⟩ := Budget.remaining_of_spend? spends
    exact (congrArg (· + 1) h).trans count.symm
  | complete | flyOn => exact h.trans (congrArg (·.budget.count) (fly_judge _ _).symm)
  | _ => exact h

theorem Invariant.flownSoFar (mission : Mission) :
    Invariant mission fun p => Equipped p.session ∧ p.FlownSoFar ∧ p.CountsJudged :=
  (Invariant.equipped mission).and
    ⟨Flown.new mission, (Attempts.new mission).judgements⟩
    (fun equipped hs step => ⟨hs.1.hears equipped hs.2 step, hs.2.hears hs.1 step⟩)
    (fun equipped hp step => ⟨hp.1.moves equipped step, hp.2.moves step⟩)

/-! ## Main results -/

/-- A leg is not accepted before its check is over, so a session that waits has
flown the accepted legs. -/
theorem Juncture.FlownSoFar.settled {s : Session} (h : (waiting s).FlownSoFar) : Settled s := by
  simp only [FlownSoFar] at h
  cases stage : s.stage with
  | judging leg =>
    rw [stage] at h
    refine Checking.settled h ?_
    rintro l ⟨toJudge, unjudged, -⟩
    simp [FoundLeg.isAccepted, FoundLeg.isChecked, FoundLeg.isHeard, toJudge, unjudged]
  | confirming leg =>
    rw [stage] at h
    refine Checking.settled h ?_
    rintro l ⟨-, confirms, unclear⟩
    have unsaid : confirmation? l.words = none := by
      rw [← List.append_nil l.words, unclear.confirmation?_append []]
      rfl
    simp [FoundLeg.isAccepted, FoundLeg.isChecked, confirms, unsaid]
  | _ =>
    rw [stage] at h
    exact h

/-- If an event asks the solver, it asks to start where the accepted
legs found so far end. -/
def AsksToGoOn (mission : Mission) (before : List Event) (e : Event) : Prop :=
  ∀ request outcome, e = .solverAsked request outcome →
    StartsAfter mission.scenario.start (acceptedLegs mission.rules before) request.start

theorem Hears.asksToGoOn {s : Session} {e : Event} {p : Juncture}
    (flown : (Juncture.waiting s).FlownSoFar) (h : Hears s e p) : AsksToGoOn s.mission s.log e := by
  simp only [Juncture.FlownSoFar] at flown
  rintro request outcome rfl
  cases h with
  | solved stage | unsolvedRepair stage | unsolvedAbort stage | unsolvedRefine stage =>
    rw [stage] at flown
    exact flown.start

theorem Invariant.asksToGoOn (mission : Mission) :
    Invariant mission fun p => (Equipped p.session ∧ p.FlownSoFar ∧ p.CountsJudged) ∧
      EachAfter (AsksToGoOn p.session.mission) p.session.log := by
  have printed : ∀ (m : Mission) before line, AsksToGoOn m before (.printed line) := by
    rintro m before line request outcome ⟨⟩
  refine (Invariant.flownSoFar mission).and .nil ?_ ?_
  · intro s e p hs each step
    obtain ⟨lines, hlog⟩ := step.log
    rw [hlog, step.mission]
    exact (each.concat (step.asksToGoOn hs.2.1)).append_printed (printed _) lines
  · intro p q _ each step
    obtain ⟨lines, hlog⟩ := step.log
    rw [hlog, step.mission]
    exact each.append_printed (printed _) lines

/-- A session that waits has flown the accepted legs of its log. -/
theorem flown_after (mission : Mission) (answers : List Answer) :
    Flown (Session.after mission answers)
      (acceptedLegs mission.rules (Session.after mission answers).log) := by
  obtain ⟨-, flown, -⟩ := (Invariant.flownSoFar mission).after answers
  have settled : Flown _ (acceptedLegs (Session.after mission answers).mission.rules _) :=
    flown.settled
  rwa [mission_after] at settled

/-- Whatever happens, a session's trajectory is the start and the tails of the accepted
legs in the order in which they were found; the session goes on from the end of the last
one, and so was the solver asked to at each time. -/
theorem trajectory_of_acceptedLegs (mission : Mission) (answers : List Answer) :
    let s := Session.after mission answers
    let x0 := mission.scenario.start
    s.result.trajectory.states = route x0 (acceptedLegs mission.rules s.log) ∧
      StartsAfter x0 (acceptedLegs mission.rules s.log) s.start ∧
      ∀ before request outcome rest, s.log = before ++ .solverAsked request outcome :: rest →
        StartsAfter x0 (acceptedLegs mission.rules before) request.start := by
  intro s x0
  have same : s.mission = mission := mission_after mission answers
  have flown : Flown s (acceptedLegs mission.rules s.log) := flown_after mission answers
  have trajectory := flown.trajectory
  have start := flown.start
  obtain ⟨-, each⟩ := (Invariant.asksToGoOn mission).after answers
  have each : EachAfter (AsksToGoOn s.mission) s.log := each
  rw [same] at trajectory start each
  refine ⟨trajectory, start, ?_⟩
  intro before request outcome rest hlog
  exact each before _ rest hlog request outcome rfl

/-- The trajectory ends where the next leg starts unless the last accepted leg is a single
sample elsewhere: the next leg starts there, but a first sample is never flown. -/
theorem start_eq_last_iff (mission : Mission) (answers : List Answer) :
    let s := Session.after mission answers
    s.trajectory.last? = some s.start ↔
      ∀ flown leg, acceptedLegs mission.rules s.log = flown ++ [leg] →
        1 < leg.length ∨ leg.last? = (route mission.scenario.start flown).getLast? := by
  intro s
  obtain ⟨states, start⟩ : Flown s _ := flown_after mission answers
  rw [show s.mission = mission from mission_after mission answers] at states start
  rw [Trajectory.last?, states]
  rcases List.eq_nil_or_concat (acceptedLegs mission.rules s.log) with none | ⟨flown, leg, some⟩
  · rw [none] at start ⊢
    have start : s.start = mission.scenario.start := start
    simp [route, start]
  · rw [some, List.concat_eq_append] at start ⊢
    rw [startsAfter_concat] at start
    rw [getLast?_route_concat, ← start]
    constructor
    · intro same flown' leg' hlegs
      obtain ⟨rfl, hleg⟩ := List.append_inj' hlegs rfl
      cases hleg
      by_cases long : 1 < leg.length
      · exact .inl long
      · rw [if_neg long] at same
        exact .inr same.symm
    · intro h
      rcases h flown leg rfl with long | same
      · rw [if_pos long]
      · rw [same]
        exact ite_self _

/-- A task, a specification and a leg of one sample that is not where the vehicle is. -/
def jump : List Answer :=
  [.line (.ok (some "Go.")), .reply (.ok "<finally goal>"),
    .outcome (.feasible ⟨[.atRest 4.5 4.5 0.5]⟩ [])]

/-- The next leg starts in the goal, yet the trajectory has never left the start. -/
theorem jump_moves_start :
    let s := Session.after (openMission .unchecked) jump
    s.trajectory.last? = some (.atRest 0 0 0) ∧ s.start = .atRest 4.5 4.5 0.5 ∧
      s.trajectory.last? ≠ some s.start := by
  intro s
  have last : s.trajectory.last? = some (.atRest 0 0 0) := rfl
  have start : s.start = .atRest 4.5 4.5 0.5 := rfl
  refine ⟨last, start, ?_⟩
  rw [last, start]
  intro same
  have coordinate : (0 : Float) = 4.5 := congrArg State.x (Option.some.inj same)
  exact absurd coordinate (by decide)

end Sortie
