import Sortie.Proofs.Session.Feedback
import Sortie.Proofs.Session.Transcript
/-!
# What the judge is shown

The judge is shown the conversation by position: all of it but the first message and the
last. That these are the instructions and the reply whose leg is judged is no matter of
course, since there are many ways to a judgement: after nudges, after repairs, after legs
that were turned down. `Chain` follows the calls from a reply to its leg, through all
repairs, which leave the conversation as it was when the reply came. The main result puts
this together with the grammar of conversations.
-/

namespace Sortie

open Session

/-! ## From a reply to its leg -/

/-- The calls since this reply in the conversation, up to the stage that they lead to. A
reply holds a specification; the solver finds a leg for it, or the model repairs it,
perhaps after some attempts, and the solver is asked again. -/
inductive Chain (reply : String) : List Event → Stage → Prop
  | read {spec : Specification} (extracted : Specification.extract reply = .ok spec) :
      Chain reply [] (.solving spec false)
  | unsolved {chain : List Event} {spec : Specification} {repaired : Bool} {request : SolveRequest}
      {outcome : Outcome} {reason : String} (before : Chain reply chain (.solving spec repaired))
      (asked : request.spec = spec.text) (checked : outcome.checked = .infeasible reason) :
      Chain reply (chain ++ [.solverAsked request outcome]) (.repairing spec)
  | unrepaired {chain : List Event} {spec : Specification} {asked : List Message} {text : String}
      {fault : Fault} (before : Chain reply chain (.repairing spec))
      (extracted : Specification.extract text = .error fault) :
      Chain reply (chain ++ [.modelAsked .repair asked (.ok text)]) (.repairing spec)
  | repaired {chain : List Event} {spec fixed : Specification} {asked : List Message}
      {text : String} (before : Chain reply chain (.repairing spec))
      (extracted : Specification.extract text = .ok fixed) :
      Chain reply (chain ++ [.modelAsked .repair asked (.ok text)]) (.solving fixed true)
  | solved {chain : List Event} {spec : Specification} {repaired : Bool} {request : SolveRequest}
      {outcome : Outcome} {leg : Trajectory} {controls : List Control}
      (before : Chain reply chain (.solving spec repaired)) (asked : request.spec = spec.text)
      (checked : outcome.checked = .feasible leg controls) :
      Chain reply (chain ++ [.solverAsked request outcome]) (.judging leg)

/-- The last reply in the conversation is its last message, and led to this stage. -/
def StartedBy (s : Session) (stage : Stage) : Prop :=
  ∃ before asked reply chain,
    calls s.log = before ++ .modelAsked .conversation asked (.ok reply) :: chain ∧
    s.conversation.messages = asked ++ [.assistant reply] ∧ Chain reply chain stage

section StartedBy

variable {s t : Session} {stage stage' : Stage}

theorem StartedBy.carry (h : StartedBy s stage) (called : calls t.log = calls s.log)
    (conversation : t.conversation = s.conversation) : StartedBy t stage := by
  unfold StartedBy
  rw [called, conversation]
  exact h

/-- A call leads on to the next stage. -/
theorem StartedBy.leadsOn {e : Event} (h : StartedBy s stage)
    (called : calls t.log = calls s.log ++ [e]) (conversation : t.conversation = s.conversation)
    (next : ∀ reply chain, Chain reply chain stage → Chain reply (chain ++ [e]) stage') :
    StartedBy t stage' := by
  obtain ⟨before, asked, reply, chain, hcalls, hmessages, hchain⟩ := h
  refine ⟨before, asked, reply, chain ++ [e], ?_, ?_, next reply chain hchain⟩
  · rw [called, hcalls, List.append_assoc, List.cons_append]
  · rw [conversation]
    exact hmessages

end StartedBy

/-- What is worked on when a session waits at a stage was started by the last reply. -/
def TracedAt (s : Session) (stage : Stage) : Prop :=
  match stage with
  | .solving _ _ | .repairing _ | .judging _ => StartedBy s stage
  | _ => True

/-- What is worked on was started by the last reply. -/
def Juncture.Traced : Juncture → Prop
  | reading s => ∀ spec, Specification.extract (s.conversation.lastReply?.getD "") = .ok spec →
    StartedBy s (.solving spec false)
  | repair s spec => StartedBy s (.repairing spec)
  | found s leg => StartedBy s (.judging leg)
  | waiting s => TracedAt s s.stage
  | _ => True

theorem Juncture.Traced.at_stage {s : Session} (h : (Juncture.waiting s).Traced) {stage : Stage}
    (waits : s.stage = stage) : TracedAt s stage :=
  waits ▸ h

theorem Conversation.unread_of_unopened {c : Conversation} {reply : String} {spec : Specification}
    (said : c.lastReply? = some reply) (unopened : opensPair reply = false) :
    Specification.extract (c.lastReply?.getD "") ≠ .ok spec := by
  rw [said]
  intro extracted
  cases (opensPair_of_extract extracted).symm.trans unopened

theorem Conversation.unread_of_unsaid {c : Conversation} {spec : Specification}
    (unsaid : c.lastReply? = none) : Specification.extract (c.lastReply?.getD "") ≠ .ok spec := by
  rw [unsaid, Option.getD_none, Specification.extract_empty]
  nofun

/-- A reply that has just come starts what is in it. -/
theorem StartedBy.takeReply {s : Session} {reply : String} {spec : Specification}
    (called : calls (s.takeReply reply).log =
      calls s.log ++ [.modelAsked .conversation s.conversation.messages (.ok reply)])
    (extracted : Specification.extract ((s.takeReply reply).conversation.lastReply?.getD "") =
      .ok spec) : StartedBy (s.takeReply reply) (.solving spec false) := by
  rw [lastReply?_takeReply] at extracted
  exact ⟨_, _, reply, [], called, rfl, .read extracted⟩

theorem Hears.traced {s : Session} {e : Event} {p : Juncture} (h : (Juncture.waiting s).Traced)
    (step : Hears s e p) : p.Traced := by
  have called := step.calls_eq
  cases step with
  | feedbackReply | automatedReply | interactiveReply | askedLast =>
    exact fun spec extracted => .takeReply called extracted
  | @nudgedLast reply stage opens =>
    have said := lastReply?_nudged s reply
    exact fun spec extracted => absurd extracted (Conversation.unread_of_unopened said opens)
  | solved stage checked =>
    have started : StartedBy s _ := h.at_stage stage
    exact started.leadsOn called rfl fun _ _ chain => .solved chain rfl checked
  | unsolvedRepair stage checked =>
    have started : StartedBy s _ := h.at_stage stage
    exact started.leadsOn called rfl fun _ _ chain => .unsolved chain rfl checked
  | repaired stage extracted =>
    have started : StartedBy s _ := h.at_stage stage
    exact started.leadsOn called rfl fun _ _ chain => .repaired chain extracted
  | unrepaired stage extracted =>
    have started : StartedBy s _ := h.at_stage stage
    exact started.leadsOn called rfl fun _ _ chain => .unrepaired chain extracted
  | _ => trivial

theorem Move.traced {p q : Juncture} (silent : p.Silent) (h : p.Traced) (step : Move p q) :
    q.Traced := by
  have called := step.calls_eq
  have silent' := silent.moves step
  cases step with
  | putTaskUnheard _ _ _ replies | askTaskUnheard _ _ _ replies =>
    obtain ⟨-, unsaid, -⟩ := silent' replies
    exact fun spec extracted => absurd extracted (Conversation.unread_of_unsaid unsaid)
  | read extracted => exact (h _ extracted).carry called rfl
  | tryRepair | judge => exact StartedBy.carry h called rfl
  | _ => trivial

theorem Invariant.traced (mission : Mission) :
    Invariant mission fun p => p.Silent ∧ p.Traced :=
  (Invariant.silent mission).and trivial (fun _ h step => step.traced h)
    (fun silent h step => step.traced silent h)

/-! ## What the judge is told -/

/-- A judge that may be asked has the instructions of the mission. -/
def JudgeInstructed (s : Session) : Prop :=
  s.judge.enabled = true → s.judge.instructions = s.mission.instructions.judge

theorem JudgeInstructed.congr {s t : Session} (h : JudgeInstructed s)
    (mission : t.mission = s.mission) (judge : t.judge = s.judge) : JudgeInstructed t := by
  unfold JudgeInstructed
  rw [mission, judge]
  exact h

theorem JudgeInstructed.new (mission : Mission) : JudgeInstructed (.new mission) := by
  unfold JudgeInstructed Session.new
  cases mission.rules.judges with
  | true => exact fun _ => rfl
  | false => exact nofun

theorem Invariant.judgeInstructed (mission : Mission) :
    Invariant mission fun p => JudgeInstructed p.session where
  begins := .new mission
  hears hs step := hs.congr step.mission step.checkers.2
  moves hp step := by
    cases step with
    | judge asks =>
      obtain ⟨enabled, -, same⟩ := Judge.of_begin? asks
      exact fun _ => (congrArg Judge.instructions same).trans (hp enabled)
    | complete | flyOn => exact hp.congr (fly_mission _ _) (fly_judge _ _)
    | _ => exact hp

/-- Nobody waits for a judge that is switched off. -/
theorem enabled_of_judging {s : Session} {leg : Trajectory} (equipped : Equipped s)
    (attempts : Attempts (.waiting s)) (stage : s.stage = .judging leg) :
    s.judge.enabled = true := by
  have counted : callsFor .judgement s.log + s.stage.judgementsAwaited = s.judge.budget.count :=
    attempts.judgements
  have within := s.judge.budget.count_le_limit
  rw [stage] at counted
  rw [equipped.judgeLimit] at within
  rw [equipped.judges]
  split at within
  · assumption
  · exact absurd within (by simp [← counted, Stage.judgementsAwaited])

/-- A judgement is asked for with all of the conversation but its first
and its last message. -/
theorem judging_of_query {s : Session} {asked : List Message}
    (h : s.query = some (.model .judgement asked)) :
    ∃ leg, s.stage = .judging leg ∧ asked = s.judgementRequest leg := by
  unfold query at h
  cases stage : s.stage <;> rw [stage] at h <;> cases h
  exact ⟨_, rfl, rfl⟩

/-! ## Main result -/

/-- What a session shows the judge of its conversation, when it asks about a leg. -/
structure ShowsJudge (mission : Mission) (s : Session) (asked said : List Message)
    (reply : String) (leg : Trajectory) : Prop where
  /-- The conversation at that time. -/
  conversation : s.conversation.messages =
    .system mission.instructions.conversation :: (said ++ [.assistant reply])
  several : said ≠ []
  shown : asked = .system mission.instructions.judge ::
    (said ++ [.system (mission.scenario.occupancy leg).evidence])
  /-- The reply that is not shown is the one that the leg comes from. -/
  started : ∃ before chain, calls s.log =
    before ++ .modelAsked .conversation (.system mission.instructions.conversation :: said)
      (.ok reply) :: chain ∧ Chain reply chain (.judging leg)

theorem exists_showsJudge {s : Session} {leg : Trajectory} (enabled : s.judge.enabled = true)
    (instructed : JudgeInstructed s) (between : Between s .turn)
    (started : StartedBy s (.judging leg)) :
    ∃ said reply, ShowsJudge s.mission s (s.judgementRequest leg) said reply leg := by
  obtain ⟨before, asked, reply, chain, hcalls, hmessages, hchain⟩ := started
  have told := between.told
  rw [hmessages] at told
  obtain ⟨said, several, rfl⟩ := told.before_reply
  refine ⟨said, reply, hmessages, several, ?_, before, chain, hcalls, hchain⟩
  have middle : s.conversation.middle = said := by
    rw [Conversation.middle, hmessages, List.cons_append, List.tail_cons, List.dropLast_concat]
  rw [judgementRequest, Judge.request, middle, instructed enabled]

/-- Whenever the judge is asked, it is shown all of the conversation at that time
but its first message, which is the instructions, and its last, which is the reply
that the leg comes from. -/
theorem judge_sees_conversation (mission : Mission) (answers : List Answer)
    (before : List Event) (asked : List Message) (reply : Except String String)
    (rest : List Event)
    (h : (Session.after mission answers).log =
      before ++ .modelAsked .judgement asked reply :: rest) :
    ∃ earlier, earlier <+: answers ∧ (Session.after mission earlier).log = before ∧
      ∃ said reply leg,
        ShowsJudge mission (Session.after mission earlier) asked said reply leg := by
  obtain ⟨earlier, answer, first, hlog, fits⟩ :=
    eachAfter_putAfter mission answers before _ rest h nofun
  obtain ⟨leg, stage, rfl⟩ := judging_of_query (query_of_answered fits)
  have enabled : (Session.after mission earlier).judge.enabled = true :=
    enabled_of_judging ((Invariant.equipped mission).after earlier)
      ((Invariant.attempts mission).after earlier) stage
  have instructed : JudgeInstructed (Session.after mission earlier) :=
    (Invariant.judgeInstructed mission).after earlier
  obtain ⟨-, tells⟩ := (Invariant.tells mission).after earlier
  obtain ⟨-, traced⟩ := (Invariant.traced mission).after earlier
  obtain ⟨said, reply, shows⟩ :=
    exists_showsJudge enabled instructed (tells.at_stage stage) (traced.at_stage stage)
  rw [mission_after] at shows
  exact ⟨earlier, (List.prefix_append _ _).trans first, hlog, said, reply, leg, shows⟩

/-- The judge who turns down the leg to the goal has been shown what the operator said. -/
theorem overruled_judge_sees_task :
    let log := (Session.after (openMission .overruling) overruling).log
    ∃ before asked reply rest, log = before ++ .modelAsked .judgement asked reply :: rest ∧
      ∃ earlier, earlier <+: overruling ∧
        (Session.after (openMission .overruling) earlier).log = before ∧
        ∃ reply leg, ShowsJudge (openMission .overruling)
          (Session.after (openMission .overruling) earlier) asked [.user "Go."] reply leg := by
  intro log
  have split : log = log.take 6 ++ .modelAsked .judgement _ _ :: log.drop 7 := rfl
  obtain ⟨earlier, first, hlog, said, reply, leg, shows⟩ :=
    judge_sees_conversation (openMission .overruling) overruling _ _ _ _ split
  refine ⟨_, _, _, _, split, earlier, first, hlog, reply, leg, ?_⟩
  have same : [.user "Go."] = said := by
    have shown : [.user "Go."] = (said ++ [_]).dropLast :=
      congrArg (fun asked => asked.tail.dropLast) shows.shown
    rwa [List.dropLast_concat] at shown
  rw [same]
  exact shows

end Sortie
