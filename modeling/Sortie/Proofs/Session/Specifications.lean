import Sortie.Proofs.Session.Calls
import Sortie.Session.Result
/-!
# Where specifications come from

The calls of a session are its questions to the model and the solver. What the solver is
asked to solve is what the model wrote in the call just before: in the conversation, or as
a repair of the specification that the solver was asked for last and could not use. So it
is with every call of every session, and no repair is lost.
-/

namespace Sortie

open Session

/-! ## Calls in their order -/

/-- The model or the solver was asked. -/
def Event.isCall (e : Event) : Bool :=
  e.asksModel || e.asksSolver

/-- The questions to the model and the solver, with their answers, oldest first. -/
def calls (log : List Event) : List Event :=
  log.filter Event.isCall

/-- The request to the solver and its outcome. -/
def Event.solve? : Event → Option (SolveRequest × Outcome)
  | solverAsked request outcome => some (request, outcome)
  | _ => none

/-- The last question to the solver. -/
def lastSolve? (calls : List Event) : Option (SolveRequest × Outcome) :=
  (calls.filterMap Event.solve?).getLast?

/-- The specification that the solver was last asked to solve. -/
def lastSolved? (calls : List Event) : Option Specification :=
  (lastSolve? calls).map fun solve => ⟨solve.1.spec⟩

/-- The last call asked the model for a repair, and the reply holds this specification. -/
def Repaired (calls : List Event) (spec : Specification) : Prop :=
  ∃ messages reply, calls.getLast? = some (.modelAsked .repair messages (.ok reply)) ∧
    Specification.extract reply = .ok spec

/-- The solver was last asked for this specification and could not use it. -/
def Unsolved (calls : List Event) (spec : Specification) : Prop :=
  ∃ request outcome reason, lastSolve? calls = some (request, outcome) ∧
    request.spec = spec.text ∧ outcome.checked = .infeasible reason

/-- The last call is the model's reply that holds this specification. It was given
in the conversation, or to the request to repair what the solver was last asked
for and could not use. -/
def WrittenLast (mission : Mission) (calls : List Event) (spec : Specification) : Prop :=
  ∃ purpose messages reply, calls.getLast? = some (.modelAsked purpose messages (.ok reply)) ∧
    Specification.extract reply = .ok spec ∧
    (purpose = .conversation ∨ purpose = .repair ∧ ∃ previous outcome reason,
      lastSolve? calls = some (previous, outcome) ∧ outcome.checked = .infeasible reason ∧
      messages = [.system mission.instructions.repair,
        .user ("Original specification: " ++ previous.spec)])

/-! ## Small facts -/

theorem calls_append (log more : List Event) : calls (log ++ more) = calls log ++ calls more :=
  List.filter_append ..

@[simp] theorem calls_printed (lines : List String) : calls (lines.map .printed) = [] := by
  rw [calls, List.filter_eq_nil_iff]
  intro e he
  obtain ⟨line, -, rfl⟩ := List.mem_map.mp he
  exact Bool.false_ne_true

@[simp] theorem lastSolve?_concat_model (calls : List Event) (purpose : Purpose)
    (messages : List Message) (reply : Except String String) :
    lastSolve? (calls ++ [.modelAsked purpose messages reply]) = lastSolve? calls := by
  simp [lastSolve?, Event.solve?]

@[simp] theorem lastSolve?_concat_solver (calls : List Event) (request : SolveRequest)
    (outcome : Outcome) :
    lastSolve? (calls ++ [.solverAsked request outcome]) = some (request, outcome) := by
  simp [lastSolve?, Event.solve?]

@[simp] theorem lastSolved?_concat_model (calls : List Event) (purpose : Purpose)
    (messages : List Message) (reply : Except String String) :
    lastSolved? (calls ++ [.modelAsked purpose messages reply]) = lastSolved? calls := by
  simp [lastSolved?]

@[simp] theorem lastSolved?_concat_solver (calls : List Event) (request : SolveRequest)
    (outcome : Outcome) :
    lastSolved? (calls ++ [.solverAsked request outcome]) = some ⟨request.spec⟩ := by
  simp [lastSolved?]

theorem Repaired.of_concat {calls : List Event} {e : Event} {spec : Specification}
    (h : Repaired (calls ++ [e]) spec) :
    ∃ messages reply, e = .modelAsked .repair messages (.ok reply) ∧
      Specification.extract reply = .ok spec := by
  obtain ⟨messages, reply, last, extracted⟩ := h
  exact ⟨messages, reply, Option.some.inj (List.getLast?_concat.symm.trans last), extracted⟩

theorem lastSolved?_eq_none_iff (log : List Event) :
    lastSolved? (calls log) = none ↔ solverCalls log = 0 := by
  rw [lastSolved?, Option.map_eq_none_iff, lastSolve?, List.getLast?_eq_none_iff,
    List.filterMap_eq_nil_iff, solverCalls, List.countP_eq_zero]
  constructor
  · intro h e he asks
    have hcall : e ∈ calls log := List.mem_filter.mpr ⟨he, by simp [Event.isCall, asks]⟩
    have := h e hcall
    cases e <;> simp_all [Event.solve?, Event.asksSolver]
  · intro h e he
    have := h e (List.mem_filter.mp he).1
    cases e <;> simp_all [Event.solve?, Event.asksSolver]

/-- Only the model's own words are its replies. -/
theorem Conversation.lastReply?_push_of_ne (c : Conversation) {m : Message}
    (other : (m.role == .assistant) = false) : (c.push m).lastReply? = c.lastReply? := by
  simp [lastReply?, lastSaid?, other]

/-- There is no specification in nothing. -/
theorem Specification.extract_empty :
    Specification.extract "" = .error (.extraction "No specification found in the response.") :=
  rfl

theorem Hears.calls_eq {s : Session} {e : Event} {p : Juncture} (h : Hears s e p) :
    calls p.session.log = calls s.log ++ calls [e] := by
  obtain ⟨lines, hlog⟩ := h.log
  rw [hlog, calls_append, calls_append, calls_printed, List.append_nil]

theorem Move.calls_eq {p q : Juncture} (h : Move p q) :
    calls q.session.log = calls p.session.log := by
  obtain ⟨lines, hlog⟩ := h.log
  rw [hlog, calls_append, calls_printed, List.append_nil]

/-! ## Turns without replies -/

/-- In a session whose turns may take no reply, nobody is ever asked: its
first turn is its last. -/
def Juncture.Silent (p : Juncture) : Prop :=
  p.session.rules.maxReplies = 0 →
    calls p.session.log = [] ∧ p.session.conversation.lastReply? = none ∧
      match p with
      | turn s => s.feedbackDue = false
      | reading _ => True
      | waiting s => s.query = none
      | _ => False

theorem Juncture.Silent.moves {p q : Juncture} (h : p.Silent) (step : Move p q) : q.Silent := by
  intro replies
  rw [Session.rules, step.mission] at replies
  obtain ⟨uncalled, unsaid, known⟩ := h replies
  have uncalled : calls q.session.log = [] := step.calls_eq.trans uncalled
  cases step with
  | instruct | instructAloud =>
    exact ⟨uncalled, (Conversation.lastReply?_push_of_ne _ rfl).trans unsaid, known⟩
  | nudgeFeedback _ due => cases due.symm.trans known
  | putTask _ _ _ more | askTask _ _ _ more => cases more.symm.trans replies
  | putTaskUnheard =>
    exact ⟨uncalled, (Conversation.lastReply?_push_of_ne _ rfl).trans unsaid, trivial⟩
  | askTaskUnheard => exact ⟨uncalled, unsaid, trivial⟩
  | @unreadable s fault extracted => exact ⟨uncalled, unsaid, rfl⟩
  | @read s spec extracted =>
    rw [show s.conversation.lastReply? = none from unsaid, Option.getD_none,
      Specification.extract_empty] at extracted
    cases extracted
  | _ => exact known.elim

theorem Invariant.silent (mission : Mission) : Invariant mission Juncture.Silent where
  begins := fun _ => ⟨rfl, rfl, rfl⟩
  hears := by
    intro s e p hs step replies
    rw [Session.rules, step.mission] at replies
    obtain ⟨-, -, unasked⟩ := hs replies
    obtain ⟨q, answer, asks, -⟩ := step.answered
    cases unasked.symm.trans asks
  moves hp step := hp.moves step

/-! ## What is known of specifications -/

/-- The specification that the solver is being asked for. -/
def Stage.solving? : Stage → Option Specification
  | solving spec _ => some spec
  | _ => none

/-- The specification that the model is being asked to repair. -/
def Stage.repairing? : Stage → Option Specification
  | repairing spec => some spec
  | _ => none

/-- Sessions that wait may wait for the solver. -/
def Juncture.solving? : Juncture → Option Specification
  | waiting s => s.stage.solving?
  | _ => none

/-- The specification that is to be repaired. -/
def Juncture.repairing? : Juncture → Option Specification
  | repair _ spec => some spec
  | waiting s => s.stage.repairing?
  | _ => none

/-- A reply that is to be read is the last call's, if the session takes replies at all. -/
def Juncture.ReadsLast : Juncture → Prop
  | reading s => s.rules.maxReplies = 0 ∨ ∃ messages reply,
    (calls s.log).getLast? = some (.modelAsked .conversation messages (.ok reply)) ∧
      s.conversation.lastReply? = some reply
  | _ => True

/-- The session ended for want of a specification in the last call's
reply, if there was any. -/
def Juncture.EndsUnread : Juncture → Prop
  | waiting s => ∀ detail, s.stage = .ended (.aborted (.extraction detail)) →
    calls s.log = [] ∨ ∃ messages reply,
      (calls s.log).getLast? = some (.modelAsked .conversation messages (.ok reply)) ∧
        Specification.extract reply = .error (.extraction detail)
  | _ => True

/-- What is known of specifications at a juncture. -/
structure Juncture.Written (p : Juncture) : Prop where
  reading : p.ReadsLast
  unread : p.EndsUnread
  written : ∀ spec, p.solving? = some spec →
    WrittenLast p.session.mission (calls p.session.log) spec
  repaired : ∀ spec, Repaired (calls p.session.log) spec → p.solving? = some spec
  unsolved : ∀ spec, p.repairing? = some spec → Unsolved (calls p.session.log) spec
  specification : p.session.specification =
    (p.solving? <|> lastSolved? (calls p.session.log))

/-! ## What an answer adds -/

theorem Hears.readsLast {s : Session} {e : Event} {p : Juncture} (h : Hears s e p) :
    p.ReadsLast := by
  have called := h.calls_eq
  have said := Conversation.lastReply?_push_assistant s.conversation
  cases h with
  | @feedbackReply reply stage | @automatedReply _ reply stage | @interactiveReply _ reply stage
  | @askedLast reply stage =>
    exact .inr ⟨s.conversation.messages, reply, (congrArg _ called).trans List.getLast?_concat,
      said reply⟩
  | @nudgedLast reply stage =>
    exact .inr ⟨s.conversation.messages, reply, (congrArg _ called).trans List.getLast?_concat,
      (Conversation.lastReply?_push_of_ne _ rfl).trans (said reply)⟩
  | _ => trivial

theorem Hears.endsUnread {s : Session} {e : Event} {p : Juncture} (h : Hears s e p) :
    p.EndsUnread := by
  cases h with
  | taskFailed | taskLeft | taskPut | replyFailed | nudged | askedAgain | unsolvedAbort
  | repairFailed | repaired | judgementFailed | wordFailed | wordUnclear =>
    intro detail ended
    cases ended
  | _ => trivial

namespace Juncture.Written

variable {s : Session} {e : Event} {p q : Juncture}

/-- Only a repair leads to the solver at once. -/
theorem hears_written (equipped : Equipped s) (h : (waiting s).Written) (step : Hears s e p)
    (spec : Specification) (solves : p.solving? = some spec) :
    WrittenLast p.session.mission (calls p.session.log) spec := by
  have called := step.calls_eq
  cases step with
  | @repaired old fixed reply stage extracted =>
    cases solves
    obtain ⟨previous, outcome, reason, last, same, checked⟩ :=
      h.unsolved old (congrArg Stage.repairing? stage)
    rw [called]
    refine ⟨.repair, _, reply, List.getLast?_concat, extracted,
      .inr ⟨rfl, previous, outcome, reason, ?_, checked, ?_⟩⟩
    · exact (lastSolve?_concat_model ..).trans last
    · rw [repairRequest, equipped.repairInstructions, same]
      rfl
  | _ => cases solves

theorem hears_unsolved (h : (waiting s).Written) (step : Hears s e p)
    (spec : Specification) (repairs : p.repairing? = some spec) :
    Unsolved (calls p.session.log) spec := by
  have called := step.calls_eq
  cases step with
  | @unsolvedRepair _ repaired outcome reason stage checked =>
    cases repairs
    rw [called]
    exact ⟨_, outcome, reason, lastSolve?_concat_solver .., rfl, checked⟩
  | @unrepaired _ reply fault stage extracted =>
    cases repairs
    obtain ⟨previous, outcome, reason, last, same, checked⟩ :=
      h.unsolved spec (congrArg Stage.repairing? stage)
    rw [called]
    exact ⟨previous, outcome, reason, (lastSolve?_concat_model ..).trans last, same, checked⟩
  | _ => cases repairs

theorem hears_repaired (h : (waiting s).Written) (step : Hears s e p)
    (spec : Specification) (last : Repaired (calls p.session.log) spec) :
    p.solving? = some spec := by
  rw [step.calls_eq] at last
  cases step with
  | repaired stage extracted =>
    obtain ⟨messages, reply, same, extracted'⟩ := last.of_concat
    cases same
    exact congrArg some (Except.ok.inj (extracted.symm.trans extracted'))
  | unrepaired stage extracted =>
    obtain ⟨messages, reply, same, extracted'⟩ := last.of_concat
    cases same
    cases extracted.symm.trans extracted'
  | taskFailed stage | taskLeft stage | taskPut stage | wordFailed stage | wordMissing stage
  | wordGiven stage | wordUnclear stage =>
    -- the operator was asked, which is no call, so the repair would
    -- have been solved before
    have last : Repaired (calls s.log ++ []) spec := last
    rw [List.append_nil] at last
    have solves := h.repaired spec last
    cases (congrArg Stage.solving? stage).symm.trans solves
  | replyFailed stage | feedbackReply stage | automatedReply stage | nudged stage
  | nudgedLast stage | interactiveReply stage | askedAgain stage | askedLast stage | solved stage
  | unsolvedRepair stage | unsolvedAbort stage | unsolvedRefine stage | repairFailed stage
  | judgementFailed stage | approved stage | turnedDown stage =>
    obtain ⟨messages, reply, same, -⟩ := last.of_concat
    cases same

theorem specification_of_waiting (h : (waiting s).Written) {stage : Stage}
    (waits : s.stage = stage) :
    s.specification = (stage.solving? <|> lastSolved? (calls s.log)) :=
  waits ▸ h.specification

theorem hears_specification (h : (waiting s).Written) (step : Hears s e p) :
    p.session.specification = (p.solving? <|> lastSolved? (calls p.session.log)) := by
  rw [step.calls_eq]
  cases step with
  | repaired => rfl
  | solved stage | unsolvedRepair stage | unsolvedAbort stage | unsolvedRefine stage =>
    show s.specification = lastSolved? (_ ++ [.solverAsked (s.solveRequest _) _])
    rw [lastSolved?_concat_solver, h.specification_of_waiting stage]
    rfl
  | taskFailed stage | taskLeft stage | taskPut stage | wordFailed stage | wordMissing stage
  | wordGiven stage | wordUnclear stage =>
    show s.specification = lastSolved? (_ ++ [])
    rw [List.append_nil, h.specification_of_waiting stage]
    rfl
  | replyFailed stage | feedbackReply stage | automatedReply stage | nudged stage
  | nudgedLast stage | interactiveReply stage | askedAgain stage | askedLast stage
  | repairFailed stage | unrepaired stage | judgementFailed stage | approved stage
  | turnedDown stage =>
    show s.specification = lastSolved? (_ ++ [.modelAsked _ _ _])
    rw [lastSolved?_concat_model, h.specification_of_waiting stage]
    rfl

theorem hears (equipped : Equipped s) (h : (waiting s).Written) (step : Hears s e p) :
    p.Written where
  reading := step.readsLast
  unread := step.endsUnread
  written := h.hears_written equipped step
  repaired := h.hears_repaired step
  unsolved := h.hears_unsolved step
  specification := h.hears_specification step

/-- A reply that is read is the last call's, as there is nothing in a reply
that was never given. -/
theorem of_read (silent : (Juncture.reading s).Silent) (h : (Juncture.reading s).Written)
    {result : Except Fault Specification}
    (extracted : Specification.extract (s.conversation.lastReply?.getD "") = result) :
    (calls s.log = [] ∧ Specification.extract "" = result) ∨ ∃ messages reply,
      (calls s.log).getLast? = some (.modelAsked .conversation messages (.ok reply)) ∧
        Specification.extract reply = result := by
  rcases h.reading with replies | ⟨messages, reply, last, said⟩
  · obtain ⟨uncalled, unsaid, -⟩ := silent replies
    rw [show s.conversation.lastReply? = none from unsaid] at extracted
    exact .inl ⟨uncalled, extracted⟩
  · rw [said] at extracted
    exact .inr ⟨messages, reply, last, extracted⟩

theorem moves (silent : p.Silent) (h : p.Written) (step : Move p q) : q.Written := by
  have called := step.calls_eq
  constructor
  · cases step with
    | putTaskUnheard _ _ _ replies | askTaskUnheard _ _ _ replies => exact .inl replies
    | _ => trivial
  · cases step with
    | unreadable extracted =>
      intro detail ended
      cases ended
      rcases h.of_read silent extracted with ⟨uncalled, -⟩ | last
      · exact .inl uncalled
      · exact .inr last
    | nudgeFeedback | putTask | askTask | read | noRepair | tryRepair | judge | confirm
    | complete =>
      intro detail ended
      cases ended
    | _ => trivial
  · intro spec solves
    rw [called, step.mission]
    cases step with
    | read extracted =>
      cases solves
      rcases h.of_read silent extracted with ⟨-, nothing⟩ | ⟨messages, reply, last, extracted⟩
      · -- there is no specification in a reply that was never given
        cases nothing
      · exact ⟨.conversation, messages, reply, last, extracted, .inl rfl⟩
    | _ => cases solves
  · intro spec last
    rw [called] at last
    have solves := h.repaired spec last
    cases step <;> cases solves
  · intro spec repairs
    rw [called]
    cases step with
    | tryRepair =>
      cases repairs
      exact h.unsolved spec rfl
    | _ => cases repairs
  · rw [called]
    cases step with
    | read => rfl
    | complete | flyOn => exact (fly_specification _ _).trans h.specification
    | _ => exact h.specification

end Juncture.Written

/-- What is known of specifications, known all the time. -/
theorem Invariant.written (mission : Mission) :
    Invariant mission fun p => (Equipped p.session ∧ p.Silent) ∧ p.Written := by
  have supply : Invariant mission fun p => Equipped p.session ∧ p.Silent :=
    (Invariant.equipped mission).both (Invariant.silent mission)
  refine supply.and ?_ (fun hs h step => h.hears hs.1 step) (fun hp h step => h.moves hp.2 step)
  constructor
  · trivial
  · trivial
  · nofun
  · rintro spec ⟨messages, reply, ⟨⟩, -⟩
  · nofun
  · rfl

/-! ## Main result -/

/-- A call goes with those before it: what the solver is asked for was written in the call
just before, and a repair is what the solver is asked for next. -/
structure GoesWith (mission : Mission) (before : List Event) (e : Event) : Prop where
  written : ∀ request outcome, e = .solverAsked request outcome →
    WrittenLast mission before ⟨request.spec⟩
  solved : ∀ spec, Repaired before spec →
    ∃ request outcome, e = .solverAsked request outcome ∧ request.spec = spec.text

/-- The solver is asked for what is being solved. -/
theorem query_of_solving? {s : Session} {spec : Specification}
    (h : s.stage.solving? = some spec) : s.query = some (.solver (s.solveRequest spec)) := by
  unfold query
  cases stage : s.stage <;> rw [stage] at h <;> cases h
  rfl

theorem solving?_of_query {s : Session} {request : SolveRequest}
    (h : s.query = some (.solver request)) : s.stage.solving? = some ⟨request.spec⟩ := by
  unfold query at h
  cases stage : s.stage <;> rw [stage] at h <;> cases h
  rfl

theorem Hears.goesWith {s : Session} {e : Event} {p : Juncture}
    (known : (Juncture.waiting s).Written) (h : Hears s e p) :
    GoesWith s.mission (calls s.log) e := by
  obtain ⟨q, answer, asked, fits⟩ := h.answered
  constructor
  · rintro request outcome rfl
    cases q <;> cases answer <;> cases fits
    exact known.written _ (solving?_of_query asked)
  · intro spec last
    cases asked.symm.trans (query_of_solving? (known.repaired spec last))
    cases answer <;> cases fits
    exact ⟨_, _, rfl, rfl⟩

theorem calls_singleton (e : Event) : calls [e] = [e] ∨ calls [e] = [] := by
  cases e
  · exact .inl rfl
  · exact .inl rfl
  · exact .inr rfl
  · exact .inr rfl

theorem Invariant.goesWith (mission : Mission) :
    Invariant mission fun p => ((Equipped p.session ∧ p.Silent) ∧ p.Written) ∧
      EachAfter (GoesWith p.session.mission) (calls p.session.log) := by
  refine (Invariant.written mission).and .nil ?_ ?_
  · intro s e p hs each step
    rw [step.calls_eq, step.mission]
    rcases calls_singleton e with call | call
    · rw [call]
      exact each.concat (step.goesWith hs.2)
    · rw [call, List.append_nil]
      exact each
  · intro p q _ each step
    rw [step.calls_eq, step.mission]
    exact each

/-- Whatever happens, the solver is asked for exactly what the model wrote in the call
just before, in the conversation or to repair what the solver could not use. A repair
is what the solver is asked for next; a reply that is found to hold no specification is
the last one; and in the end the specification is the one that the solver was last
asked for, if it ever was. -/
theorem solver_asked_as_written (mission : Mission) (answers : List Answer) :
    let s := Session.after mission answers
    (∀ before request outcome rest,
      calls s.log = before ++ .solverAsked request outcome :: rest →
        WrittenLast mission before ⟨request.spec⟩) ∧
    (∀ before messages reply spec rest,
      calls s.log = before ++ .modelAsked .repair messages (.ok reply) :: rest →
        Specification.extract reply = .ok spec →
          match rest with
          | [] => ∃ request, s.query = some (.solver request) ∧ request.spec = spec.text
          | next :: _ => ∃ request outcome,
            next = .solverAsked request outcome ∧ request.spec = spec.text) ∧
    (∀ detail, s.stage = .ended (.aborted (.extraction detail)) →
      calls s.log = [] ∨ ∃ messages reply,
        (calls s.log).getLast? = some (.modelAsked .conversation messages (.ok reply)) ∧
          Specification.extract reply = .error (.extraction detail)) ∧
    (s.stage.ending?.isSome = true →
      s.result.specification = lastSolved? (calls s.log) ∧
        (s.result.specification = none ↔ solverCalls s.log = 0)) := by
  intro s
  have same : s.mission = mission := mission_after mission answers
  obtain ⟨⟨-, known⟩, each⟩ := (Invariant.goesWith mission).after answers
  have each : EachAfter (GoesWith s.mission) (calls s.log) := each
  rw [same] at each
  refine ⟨?_, ?_, known.unread, ?_⟩
  · intro before request outcome rest hcalls
    exact (each before _ rest hcalls).written request outcome rfl
  · intro before messages reply spec rest hcalls extracted
    cases rest with
    | nil =>
      have last : Repaired (calls s.log) spec :=
        ⟨messages, reply, hcalls ▸ List.getLast?_concat, extracted⟩
      exact ⟨_, query_of_solving? (known.repaired spec last), rfl⟩
    | cons next rest =>
      rw [List.append_cons] at hcalls
      exact (each _ next rest hcalls).solved spec
        ⟨messages, reply, List.getLast?_concat, extracted⟩
  · intro finished
    have none : s.stage.solving? = none := by
      cases stage : s.stage <;> rw [stage] at finished <;> first | rfl | cases finished
    have specification : s.specification = lastSolved? (calls s.log) := by
      rw [known.specification_of_waiting rfl, none]
      rfl
    refine ⟨specification, ?_⟩
    rw [show s.result.specification = _ from specification, lastSolved?_eq_none_iff]

end Sortie
