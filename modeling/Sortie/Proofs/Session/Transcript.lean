import Sortie.Proofs.Extraction
import Sortie.Proofs.Session.Messages
import Sortie.Proofs.Session.Specifications
/-!
# How a conversation goes

A conversation has a grammar. After the instructions it is a sequence of turns: the
operator's tasks with their replies, or the scenario's task with replies and nudges, up to
the first reply that opens a specification. Between turns stand the judge's rejections, and
each is followed by a turn of one reply to it. `Told` is the grammar of what is complete.
The last turn may still be going on or be cut short (`OpenTurn`), or none of its replies
may open a specification (`VainTurn`), which is the end of the session. The main result
says that there are no other conversations.
-/

namespace Sortie

open Session

/-! ## The grammar -/

/-- What stands last in a conversation between two turns. -/
inductive Mark where
  | instructions
  | turn
  | rejection

/-- A turn that began with a task and has taken so many replies, none of which opens a
specification. Each reply to the operator is followed by the next task, each one to
the scenario by a nudge. -/
inductive IdleTurn (mission : Mission) : Nat → List Message → Prop
  | asked (attended : mission.rules.automated = false) : IdleTurn mission 0 []
  | exchange {n : Nat} {said : List Message} {reply : String}
      (attended : mission.rules.automated = false) (before : IdleTurn mission n said)
      (line : String) (unopened : opensPair reply = false) :
      IdleTurn mission (n + 1) (said ++ [.user line, .assistant reply])
  | put (automated : mission.rules.automated = true) :
      IdleTurn mission 0 [.user mission.scenario.task]
  | nudge {n : Nat} {said : List Message} {reply : String}
      (automated : mission.rules.automated = true) (before : IdleTurn mission n said)
      (unopened : opensPair reply = false) :
      IdleTurn mission (n + 1) (said ++ [.assistant reply, .system specificationNudge])

/-- A turn that waits at a stage, and what was said in it so far. A turn that begins with a
task takes no more replies than the rules allow, and does not follow a rejection; a
rejection is followed by a turn that asks to heed it. -/
inductive OpenTurn (mission : Mission) : Mark → Stage → List Message → Prop
  | task {mark : Mark} {n more : Nat} {said : List Message}
      (attended : mission.rules.automated = false) (fresh : mark ≠ .rejection)
      (idle : IdleTurn mission n said) (few : n + more + 1 = mission.rules.maxReplies) :
      OpenTurn mission mark (.task more) said
  | interactive {mark : Mark} {more : Nat} {said : List Message}
      (asked : OpenTurn mission mark (.task more) said) (line : String) :
      OpenTurn mission mark (.reply (.interactive more)) (said ++ [.user line])
  | automated {mark : Mark} {n more : Nat} {said : List Message}
      (automated : mission.rules.automated = true) (fresh : mark ≠ .rejection)
      (idle : IdleTurn mission n said) (few : n + more + 1 = mission.rules.maxReplies) :
      OpenTurn mission mark (.reply (.automated more)) said
  | feedback : OpenTurn mission .rejection (.reply .feedback) [.system feedbackNudge]

/-- A turn that has taken all the replies that it may take, and none
opens a specification. -/
inductive VainTurn (mission : Mission) : Mark → List Message → Prop
  | idle {mark : Mark} {said : List Message} (fresh : mark ≠ .rejection)
      (idle : IdleTurn mission mission.rules.maxReplies said) : VainTurn mission mark said
  | feedback {reply : String} (unopened : opensPair reply = false) :
      VainTurn mission .rejection [.system feedbackNudge, .assistant reply]

/-- A conversation of complete turns, and of these rejections. A turn is complete with the
first reply that opens a specification. -/
inductive Told (mission : Mission) : List String → Mark → List Message → Prop
  | instructions : Told mission [] .instructions [.system mission.instructions.conversation]
  | turn {rejected : List String} {mark : Mark} {told said : List Message} {turn : Turn}
      {reply : String} (before : Told mission rejected mark told)
      (asked : OpenTurn mission mark (.reply turn) said) (opens : opensPair reply = true) :
      Told mission rejected .turn (told ++ said ++ [.assistant reply])
  | rejection {rejected : List String} {told : List Message}
      (before : Told mission rejected .turn told) (why : String) :
      Told mission (rejected ++ [why]) .rejection
        (told ++ [.system ("Specification checker: " ++ why)])

/-- A turn that waits at a stage goes on as long as the session does, or it is cut short:
the operator leaves or cannot be asked, or the model gives no reply. -/
inductive BreaksOff : Stage → Stage → Prop
  | goesOn {stage : Stage} : BreaksOff stage stage
  | left {more : Nat} : BreaksOff (.task more) (.ended .exited)
  | unread {more : Nat} {e : String} : BreaksOff (.task more) (.ended (.aborted (.io e)))
  | unanswered {turn : Turn} {e : String} : BreaksOff (.reply turn) (.ended (.aborted (.llm e)))

/-- What follows the complete turns in a session's conversation. If the last turn was in
vain, the session is over, and it has called nobody since the last reply of that turn. -/
inductive LastTurn (mission : Mission) (s : Session) : Mark → List Message → Prop
  | none {mark : Mark} (elsewhere : s.stage.phase ≠ .gatheringInput) : LastTurn mission s mark []
  | cutShort {mark : Mark} {stage : Stage} {said : List Message}
      (turn : OpenTurn mission mark stage said) (off : BreaksOff stage s.stage) :
      LastTurn mission s mark said
  | inVain {mark : Mark} {said : List Message} {detail : String} (turn : VainTurn mission mark said)
      (ended : s.stage = .ended (.aborted (.extraction detail)))
      (last : ∀ e, (calls s.log).getLast? = some e → e.asksModelFor .conversation = true) :
      LastTurn mission s mark said

/-! ## Small facts -/

/-- There is no specification in a reply that opens none. -/
theorem opensPair_of_extract {reply : String} {spec : Specification}
    (h : Specification.extract reply = .ok spec) : opensPair reply = true := by
  refine eq_true_of_ne_false fun unopened => ?_
  have none : '<' ∉ reply.toList := by simpa [opensPair] using unopened
  rw [Specification.extract, Specification.lastPair?, Specification.scan_of_not_mem _ none] at h
  cases h

theorem lastReply?_takeReply (s : Session) (reply : String) :
    (s.takeReply reply).conversation.lastReply? = some reply :=
  Conversation.lastReply?_push_assistant ..

/-- A nudge is no reply. -/
theorem lastReply?_nudged (s : Session) (reply : String) :
    ((s.takeReply reply).push (.system specificationNudge)).conversation.lastReply? = some reply :=
  (Conversation.lastReply?_push_of_ne _ rfl).trans (lastReply?_takeReply s reply)

theorem Hears.rejections_eq {s : Session} {e : Event} {p : Juncture} (h : Hears s e p) :
    rejections p.session.log = rejections s.log ++ e.rejection?.toList :=
  h.filterMap_log fun _ => rfl

/-- A mission's session has come so far, and nothing was turned down on the way. -/
structure Unrejected (s t : Session) : Prop where
  mission : t.mission = s.mission
  rejected : rejections t.log = rejections s.log

theorem Hears.unrejected {s : Session} {e : Event} {p : Juncture} (h : Hears s e p)
    (none : e.rejection? = none) : Unrejected s p.session where
  mission := h.mission
  rejected := by rw [h.rejections_eq, none, Option.toList_none, List.append_nil]

theorem Move.unrejected {p q : Juncture} (h : Move p q) : Unrejected p.session q.session where
  mission := h.mission
  rejected := h.filterMap_log fun _ => rfl

/-! ## What has been said before a reply -/

theorem IdleTurn.ne_nil {mission : Mission} {n : Nat} {said : List Message}
    (h : IdleTurn mission n said) (automated : mission.rules.automated = true) : said ≠ [] := by
  cases h with
  | asked attended => cases automated.symm.trans attended
  | exchange | put | nudge => simp

/-- Whoever waits for a reply has said something in this turn. -/
theorem OpenTurn.ne_nil {mission : Mission} {mark : Mark} {turn : Turn} {said : List Message}
    (h : OpenTurn mission mark (.reply turn) said) : said ≠ [] := by
  cases h with
  | interactive | feedback => simp
  | automated automated _ idle => exact idle.ne_nil automated

/-- A conversation begins with the instructions. -/
theorem Told.instructed {mission : Mission} {rejected : List String} {mark : Mark}
    {told : List Message} (h : Told mission rejected mark told) :
    ∃ rest, told = .system mission.instructions.conversation :: rest := by
  induction h with
  | instructions => exact ⟨[], rfl⟩
  | turn before asked opens ih =>
    obtain ⟨rest, rfl⟩ := ih
    exact ⟨_, rfl⟩
  | rejection before why ih =>
    obtain ⟨rest, rfl⟩ := ih
    exact ⟨_, rfl⟩

/-- Before the last reply stand the instructions and something else. -/
theorem Told.before_reply {mission : Mission} {rejected : List String} {asked : List Message}
    {m : Message} (h : Told mission rejected .turn (asked ++ [m])) :
    ∃ said, said ≠ [] ∧ asked = .system mission.instructions.conversation :: said := by
  generalize all : asked ++ [m] = told at h
  cases h with
  | turn before waits opens =>
    obtain ⟨rest, rfl⟩ := before.instructed
    obtain ⟨rfl, -⟩ := List.append_inj' all rfl
    exact ⟨_, by simp [waits.ne_nil], rfl⟩

/-! ## One reply more -/

namespace OpenTurn

variable {mission : Mission} {mark : Mark} {more : Nat} {said : List Message} {reply : String}

theorem askedAgain (h : OpenTurn mission mark (.reply (.interactive (more + 1))) said)
    (unopened : opensPair reply = false) :
    OpenTurn mission mark (.task more) (said ++ [.assistant reply]) := by
  cases h with
  | interactive asked line =>
    cases asked with
    | task attended fresh idle few =>
      have next := IdleTurn.exchange attended idle line unopened
      rw [List.append_assoc]
      exact .task attended fresh next (by omega)

theorem askedLast (h : OpenTurn mission mark (.reply (.interactive 0)) said)
    (unopened : opensPair reply = false) : VainTurn mission mark (said ++ [.assistant reply]) := by
  cases h with
  | interactive asked line =>
    cases asked with
    | task attended fresh idle few =>
      have next := IdleTurn.exchange attended idle line unopened
      rw [show _ + 1 = mission.rules.maxReplies from few] at next
      rw [List.append_assoc]
      exact .idle fresh next

theorem nudged (h : OpenTurn mission mark (.reply (.automated (more + 1))) said)
    (unopened : opensPair reply = false) :
    OpenTurn mission mark (.reply (.automated more))
      (said ++ [.assistant reply, .system specificationNudge]) := by
  cases h with
  | automated automated fresh idle few =>
    exact .automated automated fresh (.nudge automated idle unopened) (by omega)

theorem nudgedLast (h : OpenTurn mission mark (.reply (.automated 0)) said)
    (unopened : opensPair reply = false) :
    VainTurn mission mark (said ++ [.assistant reply, .system specificationNudge]) := by
  cases h with
  | automated automated fresh idle few =>
    have next := IdleTurn.nudge automated idle unopened
    rw [show _ + 1 = mission.rules.maxReplies from few] at next
    exact .idle fresh next

theorem unheeded (h : OpenTurn mission mark (.reply .feedback) said)
    (unopened : opensPair reply = false) : VainTurn mission mark (said ++ [.assistant reply]) := by
  cases h with
  | feedback => exact .feedback unopened

end OpenTurn

/-! ## Where a session stands in its conversation -/

/-- The conversation is complete up to this mark, and feedback is due
exactly after a rejection. -/
structure Between (s : Session) (mark : Mark) : Prop where
  told : Told s.mission (rejections s.log) mark s.conversation.messages
  due : s.feedbackDue = true ↔ mark = .rejection

/-- The conversation is complete up to a turn that is not. -/
def Within (s : Session) (last : Mark → List Message → Prop) : Prop :=
  ∃ mark told said, s.conversation.messages = told ++ said ∧
    Told s.mission (rejections s.log) mark told ∧ last mark said

/-- A turn waits at this stage. -/
def WaitsAt (s : Session) (stage : Stage) : Prop :=
  Within s fun mark said => OpenTurn s.mission mark stage said

/-- The last turn was in vain, and so is reading its last reply. -/
structure IsVain (s : Session) : Prop where
  vain : Within s (VainTurn s.mission)
  unopened : opensPair (s.conversation.lastReply?.getD "") = false

theorem IsVain.of_said {s : Session} {reply : String} (vain : Within s (VainTurn s.mission))
    (said : s.conversation.lastReply? = some reply) (unopened : opensPair reply = false) :
    IsVain s where
  vain := vain
  unopened := by
    rw [said]
    exact unopened

theorem IsVain.of_unsaid {s : Session} (vain : Within s (VainTurn s.mission))
    (unsaid : s.conversation.lastReply? = none) : IsVain s where
  vain := vain
  unopened := by
    rw [unsaid]
    rfl

section Carried

variable {s t : Session} {mark : Mark} {last last' : Mark → List Message → Prop}

theorem Between.carry (h : Between s mark) (same : Unrejected s t)
    (conversation : t.conversation = s.conversation) (due : t.feedbackDue = s.feedbackDue) :
    Between t mark := by
  obtain ⟨told, rejects⟩ := h
  constructor
  · rw [same.mission, same.rejected, conversation]
    exact told
  · rw [due]
    exact rejects

/-- A specification was read in the last reply. -/
theorem Between.of_told (told : Told s.mission (rejections s.log) .turn s.conversation.messages)
    (same : Unrejected s t) (conversation : t.conversation = s.conversation)
    (notDue : t.feedbackDue = false) : Between t .turn := by
  constructor
  · rw [same.mission, same.rejected, conversation]
    exact told
  · rw [notDue]
    exact ⟨nofun, nofun⟩

/-- The leg of a turn is turned down. -/
theorem Between.rejection {why : String} (h : Between s .turn) (mission : t.mission = s.mission)
    (rejected : rejections t.log = rejections s.log ++ [why])
    (adds : t.conversation.messages =
      s.conversation.messages ++ [.system ("Specification checker: " ++ why)])
    (due : t.feedbackDue = true) : Between t .rejection := by
  constructor
  · rw [mission, rejected, adds]
    exact .rejection h.told why
  · rw [due]
    exact ⟨fun _ => rfl, fun _ => rfl⟩

theorem Between.isEmpty (h : Between s mark) : s.conversation.isEmpty = false := by
  obtain ⟨rest, all⟩ := h.told.instructed
  rw [Conversation.isEmpty, all]
  rfl

theorem Between.fresh (h : Between s mark) (notDue : s.feedbackDue = false) :
    mark ≠ .rejection := by
  intro rejected
  cases notDue.symm.trans (h.due.mpr rejected)

theorem Between.begins (h : Between s mark) (same : Unrejected s t) {said : List Message}
    (adds : t.conversation.messages = s.conversation.messages ++ said) (turn : last mark said) :
    Within t last := by
  refine ⟨mark, s.conversation.messages, said, adds, ?_, turn⟩
  rw [same.mission, same.rejected]
  exact h.told

theorem Within.carry (h : Within s last) (same : Unrejected s t)
    (conversation : t.conversation = s.conversation) : Within t last := by
  unfold Within
  rw [same.mission, same.rejected, conversation]
  exact h

theorem Within.goesOn (h : Within s last) (same : Unrejected s t) {more : List Message}
    (adds : t.conversation.messages = s.conversation.messages ++ more)
    (next : ∀ mark said, last mark said → last' mark (said ++ more)) : Within t last' := by
  obtain ⟨mark, told, said, hsaid, htold, hlast⟩ := h
  refine ⟨mark, told, said ++ more, ?_, ?_, next mark said hlast⟩
  · rw [adds, hsaid, List.append_assoc]
  · rw [same.mission, same.rejected]
    exact htold

/-- A turn is complete with a reply that opens a specification. -/
theorem WaitsAt.complete {turn : Turn} {reply : String} (h : WaitsAt s (.reply turn))
    (same : Unrejected s t)
    (adds : t.conversation.messages = s.conversation.messages ++ [.assistant reply])
    (opens : opensPair reply = true) :
    Told t.mission (rejections t.log) .turn t.conversation.messages := by
  obtain ⟨mark, told, said, hsaid, htold, hturn⟩ := h
  rw [same.mission, same.rejected, adds, hsaid]
  exact .turn htold hturn opens

end Carried

/-- How far the conversation has come when a session waits at a stage. -/
def TellsAt (s : Session) : Stage → Prop
  | .opening => False
  | .task more => WaitsAt s (.task more)
  | .reply turn => WaitsAt s (.reply turn)
  | .solving _ _ | .repairing _ | .judging _ => Between s .turn
  | .confirming _ => ∃ mark, Between s mark
  | .ended ending =>
    (∃ mark, Told s.mission (rejections s.log) mark s.conversation.messages) ∨
    (∃ stage, BreaksOff stage (.ended ending) ∧ WaitsAt s stage) ∨
    IsVain s ∧ ∃ detail, ending = .aborted (.extraction detail)

/-- How far the conversation has come at a juncture. -/
def Juncture.Tells : Juncture → Prop
  | turn s => (s.conversation.messages = [] ∧ s.feedbackDue = false ∧ rejections s.log = []) ∨
    ∃ mark, Between s mark
  | reading s => Told s.mission (rejections s.log) .turn s.conversation.messages ∨ IsVain s
  | repair s _ | found s _ => Between s .turn
  | judged s _ _ | settled s _ _ => ∃ mark, Between s mark
  | waiting s => TellsAt s s.stage

theorem Juncture.Tells.at_stage {s : Session} (h : (Juncture.waiting s).Tells) {stage : Stage}
    (waits : s.stage = stage) : TellsAt s stage :=
  waits ▸ h

theorem Hears.tells {s : Session} {e : Event} {p : Juncture} (h : (Juncture.waiting s).Tells)
    (step : Hears s e p) : p.Tells := by
  have same := step.unrejected
  have rejected := step.rejections_eq
  cases step with
  | taskFailed stage =>
    have waits : WaitsAt s _ := h.at_stage stage
    exact .inr (.inl ⟨_, .unread, waits.carry (same rfl) rfl⟩)
  | taskLeft stage =>
    have waits : WaitsAt s _ := h.at_stage stage
    exact .inr (.inl ⟨_, .left, waits.carry (same rfl) rfl⟩)
  | @taskPut more line stage =>
    have waits : WaitsAt s _ := h.at_stage stage
    exact waits.goesOn (same rfl) rfl fun _ _ turn => turn.interactive line
  | replyFailed stage =>
    have waits : WaitsAt s _ := h.at_stage stage
    exact .inr (.inl ⟨_, .unanswered, waits.carry (same rfl) rfl⟩)
  | @feedbackReply reply stage =>
    have waits : WaitsAt s _ := h.at_stage stage
    -- the one reply to a rejection is read, whether or not it opens a specification
    cases opens : opensPair reply with
    | true => exact .inl (waits.complete (same rfl) rfl opens)
    | false =>
      have vain := waits.goesOn (same rfl) rfl fun _ _ turn => turn.unheeded opens
      exact .inr (.of_said vain (lastReply?_takeReply s reply) opens)
  | automatedReply stage opens | interactiveReply stage opens =>
    have waits : WaitsAt s _ := h.at_stage stage
    exact .inl (waits.complete (same rfl) rfl opens)
  | nudged stage opens =>
    have waits : WaitsAt s _ := h.at_stage stage
    exact waits.goesOn (same rfl) (List.append_assoc ..) fun _ _ turn => turn.nudged opens
  | @nudgedLast reply stage opens =>
    have waits : WaitsAt s _ := h.at_stage stage
    have vain := waits.goesOn (same rfl) (List.append_assoc ..)
      fun _ _ turn => turn.nudgedLast opens
    exact .inr (.of_said vain (lastReply?_nudged s reply) opens)
  | askedAgain stage opens =>
    have waits : WaitsAt s _ := h.at_stage stage
    exact waits.goesOn (same rfl) rfl fun _ _ turn => turn.askedAgain opens
  | @askedLast reply stage opens =>
    have waits : WaitsAt s _ := h.at_stage stage
    have vain := waits.goesOn (same rfl) rfl fun _ _ turn => turn.askedLast opens
    exact .inr (.of_said vain (lastReply?_takeReply s reply) opens)
  | solved stage | unsolvedRepair stage | repaired stage | unrepaired stage =>
    have between : Between s .turn := h.at_stage stage
    exact between.carry (same rfl) rfl rfl
  | unsolvedRefine stage =>
    have between : Between s .turn := h.at_stage stage
    exact .inr ⟨.turn, between.carry (same rfl) rfl rfl⟩
  | unsolvedAbort stage | repairFailed stage | judgementFailed stage =>
    have between : Between s .turn := h.at_stage stage
    exact .inl ⟨.turn, (between.carry (same rfl) rfl rfl).told⟩
  | @approved leg reply stage read =>
    have between : Between s .turn := h.at_stage stage
    exact ⟨.turn, between.carry (same (by simp [Event.rejection?, read])) rfl rfl⟩
  | @turnedDown leg reply stage read =>
    have between : Between s .turn := h.at_stage stage
    have why : (Event.modelAsked .judgement (s.judgementRequest leg) (.ok reply)).rejection? =
        some reply := by simp [Event.rejection?, read]
    rw [why] at rejected
    exact ⟨.rejection, between.rejection rfl rejected rfl rfl⟩
  | wordFailed stage =>
    obtain ⟨mark, between⟩ : ∃ mark, Between s mark := h.at_stage stage
    exact .inl ⟨mark, (between.carry (same rfl) rfl rfl).told⟩
  | wordMissing stage | wordGiven stage | wordUnclear stage =>
    obtain ⟨mark, between⟩ : ∃ mark, Between s mark := h.at_stage stage
    exact ⟨mark, between.carry (same rfl) rfl rfl⟩

theorem Juncture.Tells.between {s : Session} (h : (Juncture.turn s).Tells)
    (instructed : s.conversation.isEmpty = false) : ∃ mark, Between s mark := by
  rcases h with ⟨nothing, -⟩ | between
  · rw [Conversation.isEmpty, nothing] at instructed
    cases instructed
  · exact between

/-- The first message of a conversation is the instructions. -/
theorem Juncture.Tells.instructed {s : Session} (h : (Juncture.turn s).Tells)
    (opening : s.conversation.isEmpty = true) {t : Session} (same : Unrejected s t)
    (adds : t.conversation.messages =
      s.conversation.messages ++ [.system s.mission.instructions.conversation])
    (due : t.feedbackDue = s.feedbackDue) : Between t .instructions := by
  rcases h with ⟨nothing, notDue, unrejected⟩ | ⟨mark, between⟩
  · constructor
    · rw [same.rejected, unrejected, adds, nothing, ← same.mission]
      exact .instructions
    · rw [due, notDue]
      exact ⟨nofun, nofun⟩
  · cases opening.symm.trans between.isEmpty

theorem Move.tells {p q : Juncture} (silent : p.Silent) (h : p.Tells) (step : Move p q) :
    q.Tells := by
  have same := step.unrejected
  cases step with
  | instruct opening | instructAloud opening =>
    exact .inr ⟨.instructions, h.instructed opening same rfl rfl⟩
  | nudgeFeedback instructed due =>
    obtain ⟨mark, between⟩ := h.between instructed
    -- feedback is due, so the last thing that was said is a rejection
    cases between.due.mp due
    exact between.begins same rfl .feedback
  | putTask instructed due automated replies =>
    obtain ⟨mark, between⟩ := h.between instructed
    exact between.begins same rfl
      (.automated automated (between.fresh due) (.put automated) (Nat.zero_add _ ▸ replies.symm))
  | @putTaskUnheard s instructed due automated replies =>
    obtain ⟨mark, between⟩ := h.between instructed
    -- a turn that may take no reply is in vain as soon as it begins
    obtain ⟨-, unsaid, -⟩ := silent replies
    have idle : IdleTurn s.mission s.rules.maxReplies [.user s.mission.scenario.task] :=
      replies ▸ .put automated
    have vain := between.begins same rfl (VainTurn.idle (between.fresh due) idle)
    exact .inr (.of_unsaid vain ((Conversation.lastReply?_push_of_ne _ rfl).trans unsaid))
  | askTask instructed due automated replies =>
    obtain ⟨mark, between⟩ := h.between instructed
    exact between.begins same (List.append_nil _).symm
      (.task automated (between.fresh due) (.asked automated) (Nat.zero_add _ ▸ replies.symm))
  | @askTaskUnheard s instructed due automated replies =>
    obtain ⟨mark, between⟩ := h.between instructed
    obtain ⟨-, unsaid, -⟩ := silent replies
    have idle : IdleTurn s.mission s.rules.maxReplies [] := replies ▸ .asked automated
    have vain := between.begins same (List.append_nil _).symm
      (VainTurn.idle (between.fresh due) idle)
    exact .inr (.of_unsaid vain unsaid)
  | unreadable extracted =>
    rcases h with told | vain
    · exact .inl ⟨.turn, told⟩
    · obtain ⟨detail, rfl⟩ := Specification.eq_extraction_of_extract extracted
      exact .inr (.inr ⟨⟨vain.vain, vain.unopened⟩, detail, rfl⟩)
  | @read s spec extracted =>
    rcases h with told | vain
    · exact .of_told told same rfl rfl
    · -- there is no specification in a reply that opens none
      cases (opensPair_of_extract extracted).symm.trans vain.unopened
  | noRepair => exact .inl ⟨_, (Between.carry h same rfl rfl).told⟩
  | tryRepair | judge => exact Between.carry h same rfl rfl
  | unjudged => exact ⟨_, Between.carry h same rfl rfl⟩
  | confirm | settle =>
    obtain ⟨mark, between⟩ := h
    exact ⟨mark, between.carry same rfl rfl⟩
  | complete =>
    obtain ⟨mark, between⟩ := h
    exact .inl ⟨mark, (between.carry same (fly_conversation ..) (fly_feedbackDue ..)).told⟩
  | flyOn =>
    obtain ⟨mark, between⟩ := h
    exact .inr ⟨mark, between.carry same (fly_conversation ..) (fly_feedbackDue ..)⟩
  | refuse => exact .inr h

theorem Invariant.tells (mission : Mission) :
    Invariant mission fun p => p.Silent ∧ p.Tells :=
  (Invariant.silent mission).and (.inl ⟨rfl, rfl, rfl⟩) (fun _ h step => step.tells h)
    (fun silent h step => step.tells silent h)

/-! ## Main result -/

/-- The conversation is complete turns with the rejections between
them, and a last turn. -/
def FollowsGrammar (s : Session) : Prop :=
  ∃ mark told last, s.conversation.messages = told ++ last ∧
    Told s.mission (rejections s.log) mark told ∧ LastTurn s.mission s mark last

namespace FollowsGrammar

variable {s : Session}

theorem of_told {mark : Mark}
    (told : Told s.mission (rejections s.log) mark s.conversation.messages)
    (elsewhere : s.stage.phase ≠ .gatheringInput) : FollowsGrammar s :=
  ⟨mark, _, [], (List.append_nil _).symm, told, .none elsewhere⟩

theorem of_waitsAt {stage : Stage} (waits : WaitsAt s stage) (off : BreaksOff stage s.stage) :
    FollowsGrammar s := by
  obtain ⟨mark, told, said, hsaid, htold, turn⟩ := waits
  exact ⟨mark, told, said, hsaid, htold, .cutShort turn off⟩

theorem of_isVain {detail : String} (unread : (Juncture.waiting s).EndsUnread) (vain : IsVain s)
    (ended : s.stage = .ended (.aborted (.extraction detail))) :
    FollowsGrammar s := by
  obtain ⟨mark, told, said, hsaid, htold, turn⟩ := vain.vain
  refine ⟨mark, told, said, hsaid, htold, .inVain turn ended fun e last => ?_⟩
  rcases unread detail ended with uncalled | ⟨messages, reply, replied, -⟩
  · rw [uncalled] at last
    cases last
  · cases replied.symm.trans last
    rfl

theorem of_tells (unread : (Juncture.waiting s).EndsUnread) (tells : (Juncture.waiting s).Tells) :
    FollowsGrammar s := by
  cases stage : s.stage with
  | opening => exact (tells.at_stage stage).elim
  | task | reply => exact of_waitsAt (tells.at_stage stage) (stage ▸ .goesOn)
  | solving | repairing | judging =>
    have between : Between s .turn := tells.at_stage stage
    exact of_told between.told (by rw [stage]; nofun)
  | confirming =>
    obtain ⟨mark, between⟩ : ∃ mark, Between s mark := tells.at_stage stage
    exact of_told between.told (by rw [stage]; nofun)
  | ended ending =>
    rcases tells.at_stage stage with ⟨mark, told⟩ | ⟨waited, off, waits⟩ | ⟨vain, detail, rfl⟩
    · exact of_told told (by rw [stage]; nofun)
    · exact of_waitsAt waits (stage ▸ off)
    · exact of_isVain unread vain stage

end FollowsGrammar

/-- Whatever happens, the conversation of a session is complete turns with the
rejections between them, each of which was told once, and a last turn that goes on, was
cut short or was in vain. -/
theorem conversation_follows_grammar (mission : Mission) (answers : List Answer) :
    let s := Session.after mission answers
    ∃ mark told last, s.result.messages = told ++ last ∧
      Told mission (rejections s.log) mark told ∧ LastTurn mission s mark last := by
  intro s
  obtain ⟨-, written⟩ := (Invariant.written mission).after answers
  obtain ⟨-, tells⟩ := (Invariant.tells mission).after answers
  have grammar := FollowsGrammar.of_tells written.unread tells
  rwa [FollowsGrammar, show s.mission = mission from mission_after mission answers] at grammar

end Sortie
