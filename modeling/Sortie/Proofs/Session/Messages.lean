import Sortie.Proofs.Session.Calls
import Sortie.Session.Result
/-!
# What the conversation holds

A conversation only grows. `Event.messages` says what each event puts into it: a task of
the operator, a reply of the model to the conversation, and a note of each rejection.
Repairs and judgements are asked for in conversations of their own, and nothing else of
them is ever heard here. Between the events a session says only words of its own. The main
result follows: every request that the session ever made in the conversation is still its
beginning, and what the model replied comes next.
-/

namespace Sortie

open Session

/-! ## What events say -/

/-- The model's reply in the conversation. -/
def Event.reply? : Event → Option String
  | modelAsked .conversation _ (.ok reply) => some reply
  | _ => none

/-- The judge's reply, if it turns the leg down. -/
def Event.rejection? : Event → Option String
  | modelAsked .judgement _ (.ok reply) => if Judge.read reply = .accepted then none else some reply
  | _ => none

/-- The replies in the conversation, oldest first. -/
def replies (log : List Event) : List String :=
  log.filterMap Event.reply?

/-- The rejections, oldest first. -/
def rejections (log : List Event) : List String :=
  log.filterMap Event.rejection?

/-- What an event puts into the conversation. -/
def Event.messages : Event → List Message
  | operatorAsked prompt (.ok (some line)) =>
    if prompt = Operator.taskPrompt ∧ Operator.isQuit line = false then [.user line] else []
  | modelAsked .conversation _ (.ok reply) => [.assistant reply]
  | modelAsked .judgement _ (.ok reply) =>
    if Judge.read reply = .accepted then [] else [.system ("Specification checker: " ++ reply)]
  | _ => []

/-- What a session says by itself. -/
def Mission.ownWords (mission : Mission) : List Message :=
  [.system mission.instructions.conversation, .user mission.scenario.task, .system feedbackNudge,
    .system specificationNudge]

/-- These messages are what the events of the log say, in their order, with the session's
own words before and between them. -/
inductive Retells (mission : Mission) : List Event → List Message → Prop
  | nil : Retells mission [] []
  | event {log : List Event} {messages : List Message} (h : Retells mission log messages)
      (e : Event) : Retells mission (log ++ [e]) (messages ++ e.messages)
  | own {log : List Event} {messages : List Message} {m : Message}
      (h : Retells mission log messages) (words : m ∈ mission.ownWords) :
      Retells mission log (messages ++ [m])

namespace Retells

variable {mission : Mission} {log : List Event} {messages : List Message}

theorem append_own (h : Retells mission log messages) {own : List Message}
    (words : ∀ m ∈ own, m ∈ mission.ownWords) : Retells mission log (messages ++ own) := by
  induction own generalizing messages with
  | nil => simpa using h
  | cons m rest ih =>
    rw [List.append_cons]
    exact ih (h.own (words m (by simp))) fun m' later => words m' (by simp [later])

theorem append_printed (h : Retells mission log messages) (lines : List String) :
    Retells mission (log ++ lines.map .printed) messages := by
  induction lines generalizing log with
  | nil => simpa using h
  | cons line rest ih =>
    rw [List.map_cons, List.append_cons]
    have next : Retells mission (log ++ [.printed line]) (messages ++ []) := h.event _
    rw [List.append_nil] at next
    exact ih next

end Retells

/-! ## What is added -/

/-- An answer adds what its event says, and maybe a nudge. -/
theorem Hears.messages {s : Session} {e : Event} {p : Juncture} (h : Hears s e p) :
    ∃ own, (∀ m ∈ own, m ∈ s.mission.ownWords) ∧
      p.session.conversation.messages = s.conversation.messages ++ e.messages ++ own := by
  cases h with
  | @taskLeft more line stage quits =>
    refine ⟨[], by simp, ?_⟩
    cases line with
    | none => simp [Event.messages]; rfl
    | some line => simp [Event.messages, quits line rfl]; rfl
  | taskPut stage stays =>
    exact ⟨[], by simp, by simp [Event.messages, stays]; rfl⟩
  | nudged | nudgedLast =>
    exact ⟨[.system specificationNudge], by simp [Mission.ownWords], rfl⟩
  | feedbackReply | automatedReply | interactiveReply | askedAgain | askedLast =>
    exact ⟨[], by simp, by simp [Event.messages]; rfl⟩
  | approved stage read =>
    exact ⟨[], by simp, by simp [Event.messages, read]; rfl⟩
  | turnedDown stage read =>
    exact ⟨[], by simp, by simp [Event.messages, read]; rfl⟩
  | wordGiven | wordUnclear =>
    have other : Operator.confirmPrompt ≠ Operator.taskPrompt := by decide
    exact ⟨[], by simp, by simp [Event.messages, other]; rfl⟩
  | _ => exact ⟨[], by simp, by simp [Event.messages]; rfl⟩

/-- A session that goes on by itself adds its own words only. -/
theorem Move.messages {p q : Juncture} (h : Move p q) :
    ∃ own, (∀ m ∈ own, m ∈ p.session.mission.ownWords) ∧
      q.session.conversation.messages = p.session.conversation.messages ++ own := by
  cases h with
  | @instruct s | @instructAloud s =>
    exact ⟨[.system s.mission.instructions.conversation],
      by simp [Mission.ownWords, Juncture.session], rfl⟩
  | nudgeFeedback => exact ⟨[.system feedbackNudge], by simp [Mission.ownWords], rfl⟩
  | @putTask s | @putTaskUnheard s =>
    exact ⟨[.user s.mission.scenario.task], by simp [Mission.ownWords, Juncture.session], rfl⟩
  | complete | flyOn =>
    refine ⟨[], by simp, ?_⟩
    rw [List.append_nil]
    exact congrArg Conversation.messages (fly_conversation _ _)
  | _ => exact ⟨[], by simp, by simp; rfl⟩

theorem Moves.messages {p q : Juncture} (h : Moves p q) :
    ∃ own, (∀ m ∈ own, m ∈ p.session.mission.ownWords) ∧
      q.session.conversation.messages = p.session.conversation.messages ++ own := by
  induction h with
  | refl => exact ⟨[], by simp, by simp⟩
  | tail moved step ih =>
    obtain ⟨own, words, hown⟩ := ih
    obtain ⟨more, later, hmore⟩ := step.messages
    rw [Moves.mission moved] at later
    refine ⟨own ++ more, ?_, by rw [hmore, hown, List.append_assoc]⟩
    intro m hm
    exact (List.mem_append.mp hm).elim (words m) (later m)

/-- An answer that fits adds what its event says, and then the session may
add words of its own. -/
theorem messages_resume {s : Session} {answer : Answer} {e : Event}
    (h : s.query.bind (·.answered? answer) = some e) :
    ∃ own, (∀ m ∈ own, m ∈ s.mission.ownWords) ∧
      (s.resume answer).conversation.messages = s.conversation.messages ++ e.messages ++ own := by
  rcases resume_eq s answer with ⟨unfit, -⟩ | ⟨e', p, fits, hears, next⟩
  · cases unfit.symm.trans h
  · cases fits.symm.trans h
    obtain ⟨own, words, hown⟩ := hears.messages
    obtain ⟨more, later, hmore⟩ := Moves.messages (moves_next p)
    rw [hears.mission] at later
    have hmore : p.next.conversation.messages = p.session.conversation.messages ++ more := hmore
    refine ⟨own ++ more, ?_, by rw [next, hmore, hown, List.append_assoc]⟩
    intro m hm
    exact (List.mem_append.mp hm).elim (words m) (later m)

/-- Nothing that was said is ever taken back. -/
theorem messages_prefix_resume (s : Session) (answer : Answer) :
    s.conversation.messages <+: (s.resume answer).conversation.messages := by
  cases fits : s.query.bind (·.answered? answer) with
  | none => simp [resume, fits]
  | some e =>
    obtain ⟨own, -, hown⟩ := messages_resume fits
    rw [hown, List.append_assoc]
    exact List.prefix_append _ _

theorem messages_prefix_after (mission : Mission) (answers more : List Answer) :
    (Session.after mission answers).conversation.messages <+:
      (Session.after mission (answers ++ more)).conversation.messages := by
  induction more using List.reverseRecOn with
  | nil => simp
  | append_singleton more answer ih =>
    rw [← List.append_assoc, after_concat]
    exact ih.trans (messages_prefix_resume _ answer)

/-- A conversation retells the log. -/
theorem Invariant.retells (mission : Mission) :
    Invariant mission fun p =>
      Retells p.session.mission p.session.log p.session.conversation.messages where
  begins := .nil
  hears := by
    intro s e p hs step
    obtain ⟨own, words, hown⟩ := step.messages
    obtain ⟨lines, hlog⟩ := step.log
    rw [step.mission, hown, hlog]
    exact ((Retells.event hs e).append_own words).append_printed lines
  moves := by
    intro p q hp step
    obtain ⟨own, words, hown⟩ := step.messages
    obtain ⟨lines, hlog⟩ := step.log
    rw [step.mission, hown, hlog]
    exact (hp.append_own words).append_printed lines

/-! ## Replies -/

/-- What the model said. -/
def ofAssistant (messages : List Message) : List Message :=
  messages.filter (·.role == .assistant)

theorem ofAssistant_append (messages more : List Message) :
    ofAssistant (messages ++ more) = ofAssistant messages ++ ofAssistant more :=
  List.filter_append ..

theorem Event.ofAssistant_messages (e : Event) :
    ofAssistant e.messages = e.reply?.toList.map .assistant := by
  rcases e with ⟨purpose, asked, why | reply⟩ | _ | ⟨prompt, why | _ | line⟩ | _
  · cases purpose <;> rfl
  · cases purpose with
    | conversation | repair => rfl
    | judgement =>
      rw [Event.messages]
      split <;> rfl
  · rfl
  · rfl
  · rfl
  · rw [Event.messages]
    split <;> rfl
  · rfl

theorem ofAssistant_own {mission : Mission} {m : Message} (words : m ∈ mission.ownWords) :
    ofAssistant [m] = [] := by
  simp only [Mission.ownWords, List.mem_cons, List.not_mem_nil, or_false] at words
  rcases words with rfl | rfl | rfl | rfl <;> rfl

/-- The model's messages are its replies in the conversation. -/
theorem Retells.ofAssistant_eq {mission : Mission} {log : List Event} {messages : List Message}
    (h : Retells mission log messages) : ofAssistant messages = (replies log).map .assistant := by
  induction h with
  | nil => rfl
  | event h e ih =>
    rw [ofAssistant_append, ih, e.ofAssistant_messages, replies, replies, List.filterMap_append,
      List.map_append]
    cases reply : e.reply? <;> simp [reply]
  | own h words ih => rw [ofAssistant_append, ih, ofAssistant_own words, List.append_nil]

theorem Retells.countP_assistant {mission : Mission} {log : List Event} {messages : List Message}
    (h : Retells mission log messages) :
    messages.countP (·.role == .assistant) = (replies log).length := by
  rw [List.countP_eq_length_filter, ← List.length_map Message.assistant]
  exact congrArg List.length h.ofAssistant_eq

/-! ## Requests -/

/-- Whoever waits for a reply in the conversation has not just got one. -/
def Juncture.Invites : Juncture → Prop
  | waiting s => ∀ turn, s.stage = .reply turn →
    ∃ m, s.conversation.messages.getLast? = some m ∧ (m.role = .user ∨ m.role = .system)
  | _ => True

theorem Hears.invites {s : Session} {e : Event} {p : Juncture} (h : Hears s e p) : p.Invites := by
  cases h with
  | taskPut => exact fun _ _ => ⟨_, List.getLast?_concat, .inl rfl⟩
  | nudged => exact fun _ _ => ⟨_, List.getLast?_concat, .inr rfl⟩
  | taskFailed | taskLeft | replyFailed | askedAgain | unsolvedAbort | repairFailed | repaired
  | judgementFailed | wordFailed | wordUnclear => exact nofun
  | _ => trivial

theorem Move.invites {p q : Juncture} (h : Move p q) : q.Invites := by
  cases h with
  | nudgeFeedback => exact fun _ _ => ⟨_, List.getLast?_concat, .inr rfl⟩
  | putTask => exact fun _ _ => ⟨_, List.getLast?_concat, .inl rfl⟩
  | askTask | unreadable | read | noRepair | tryRepair | judge | confirm | complete => exact nofun
  | _ => trivial

theorem Invariant.invites (mission : Mission) : Invariant mission Juncture.Invites where
  begins := trivial
  hears _ step := step.invites
  moves _ step := step.invites

/-- The session that asked the model this, and its answer. -/
theorem query_of_answered {s : Session} {answer : Answer} {purpose : Purpose}
    {asked : List Message} {reply : Except String String}
    (h : s.query.bind (·.answered? answer) = some (.modelAsked purpose asked reply)) :
    s.query = some (.model purpose asked) := by
  obtain ⟨q, asks, fits⟩ := Option.bind_eq_some_iff.mp h
  cases q <;> cases answer <;> cases fits
  exact asks

/-- In the conversation, the model is sent all of it. -/
theorem stage_of_query {s : Session} {asked : List Message}
    (h : s.query = some (.model .conversation asked)) :
    asked = s.conversation.messages ∧ ∃ turn, s.stage = .reply turn := by
  unfold query at h
  cases stage : s.stage <;> rw [stage] at h <;> cases h
  exact ⟨rfl, _, rfl⟩

/-! ## Main result -/

/-- The conversation only ever grows. Each request in it was all of it at that time, up to
the operator's or the session's last word, and a reply comes next. The model's messages are
its replies in the conversation, in their order; and altogether there is nothing in it but
what the events of the log say, among the session's own words. -/
theorem conversation_is_kept (mission : Mission) (answers : List Answer) :
    let s := Session.after mission answers
    let messages := s.result.messages
    (∀ more, messages <+: (Session.after mission (answers ++ more)).result.messages) ∧
    (∀ before asked reply rest, s.log = before ++ .modelAsked .conversation asked reply :: rest →
      asked <+: messages ∧
      (∃ m, asked.getLast? = some m ∧ (m.role = .user ∨ m.role = .system)) ∧
      ∀ text, reply = .ok text → asked ++ [.assistant text] <+: messages) ∧
    messages.filter (·.role == .assistant) = (replies s.log).map .assistant ∧
    Retells mission s.log messages := by
  intro s messages
  have retells : Retells s.mission s.log messages := (Invariant.retells mission).after answers
  rw [show s.mission = mission from mission_after mission answers] at retells
  refine ⟨messages_prefix_after mission answers, ?_, retells.ofAssistant_eq, retells⟩
  intro before asked reply rest hlog
  obtain ⟨earlier, answer, ⟨later, hanswers⟩, -, fits⟩ :=
    eachAfter_putAfter mission answers before _ rest hlog nofun
  obtain ⟨all, turn, stage⟩ := stage_of_query (query_of_answered fits)
  have grows :
      (Session.after mission (earlier ++ [answer])).conversation.messages <+: messages := by
    have grows := messages_prefix_after mission (earlier ++ [answer]) later
    rwa [hanswers] at grows
  obtain ⟨own, -, hown⟩ := messages_resume fits
  rw [after_concat, hown, ← all, List.append_assoc] at grows
  refine ⟨(List.prefix_append _ _).trans grows, ?_, ?_⟩
  · rw [all]
    exact (Invariant.invites mission).after earlier turn stage
  · rintro text rfl
    rw [← List.append_assoc] at grows
    exact (List.prefix_append _ _).trans grows

end Sortie
