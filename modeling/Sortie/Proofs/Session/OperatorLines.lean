import Sortie.Proofs.Session.Completion
/-!
# What becomes of the operator's lines

The operator's lines are one list, and two prompts read from it: a task at one, a
word on a leg at the other. A log tells what was read at which prompt. The main
result says that nothing is lost or read twice: the lines read are the first ones of
the list; the tasks among them are what the user says in the conversation; and all
others belong to confirmations, one for each leg that was found and judged, if the
operator has the last word.
-/

namespace Sortie

open Session

/-! ## Readings -/

/-- The prompt at which the operator was asked, and what came of it. -/
def Event.reading? : Event → Option (String × Operator.Line)
  | operatorAsked prompt line => some (prompt, line)
  | _ => none

/-- What was read of the operator, prompt by prompt. -/
def readings (log : List Event) : List (String × Operator.Line) :=
  log.filterMap Event.reading?

/-- The task that the operator put. -/
def Event.task? : Event → Option String
  | operatorAsked prompt (.ok (some line)) =>
    if prompt = Operator.taskPrompt ∧ Operator.isQuit line = false then some line else none
  | _ => none

/-- The lines read at the prompt for a task, but for one that asks to leave. -/
def tasks (log : List Event) : List String :=
  log.filterMap Event.task?

/-- What was read at the prompt for the last word on a leg. -/
def Event.word? : Event → Option Operator.Line
  | operatorAsked prompt line => if prompt = Operator.confirmPrompt then some line else none
  | _ => none

/-- Everything that was read at the prompt for the last word on a leg. -/
def words (log : List Event) : List Operator.Line :=
  log.filterMap Event.word?

/-! ## One list of lines -/

/-- The world with an operator who types these lines, whatever the prompt. -/
def World.reading {σ : Type} (w : World (StateM σ)) :
    World (StateM (List (Except String String) × σ)) where
  model messages := fun (lines, env) =>
    let (reply, env) := (w.model messages).run env
    (reply, lines, env)
  solver request := fun (lines, env) =>
    let (outcome, env) := (w.solver request).run env
    (outcome, lines, env)
  operator _ := fun (lines, env) =>
    let (line, lines) := Operator.nextLine lines
    (line, lines, env)

/-- Of these lines, so much was read and so much is left. Beyond the last line nothing is
read but the end of the input. -/
def ReadOff (lines left : List (Except String String)) (read : List Operator.Line) : Prop :=
  ∃ taken beyond, lines = taken ++ left ∧
    read = taken.map (·.map some) ++ List.replicate beyond (.ok none) ∧ (left = [] ∨ beyond = 0)

theorem ReadOff.start (lines : List (Except String String)) : ReadOff lines lines [] :=
  ⟨[], 0, rfl, rfl, .inr rfl⟩

theorem ReadOff.next {lines left : List (Except String String)} {read : List Operator.Line}
    (h : ReadOff lines left read) :
    ReadOff lines (Operator.nextLine left).2 (read ++ [(Operator.nextLine left).1]) := by
  obtain ⟨taken, beyond, rfl, rfl, ends⟩ := h
  cases left with
  | nil =>
    refine ⟨taken, beyond + 1, rfl, ?_, .inl rfl⟩
    rw [List.replicate_succ', List.append_assoc]
    rfl
  | cons line rest =>
    obtain rfl : beyond = 0 := ends.resolve_left nofun
    refine ⟨taken ++ [line], 0, (List.append_cons ..), ?_, .inr rfl⟩
    simp [Operator.nextLine]

/-- A run reads off the list, line by line. -/
theorem readOff_run {σ : Type} (w : World (StateM σ)) (questions : Nat) (mission : Mission)
    (lines : List (Except String String)) (env : σ) :
    let final := (run w.reading questions (begin mission)).run (lines, env)
    ReadOff lines final.2.1 ((readings final.1.log).map (·.2)) := by
  refine run_keeps (P := fun s (env : List (Except String String) × σ) =>
    ReadOff lines env.1 ((readings s.log).map (·.2))) ?_ questions ?_
  · rintro s ⟨left, env⟩ q asks h
    obtain ⟨e, fits⟩ := answered?_answer w.reading q (left, env)
    -- an answer adds a reading if the operator gave it, and what is
    -- printed afterwards adds none
    have told : readings (s.resume ((w.reading.answer q).run (left, env)).1).log =
        readings s.log ++ e.reading?.toList :=
      filterMap_log_resume (fun _ => rfl) (by rw [asks]; exact fits)
    rw [told, List.map_append]
    cases q with
    | model purpose messages | solver request =>
      obtain rfl := Option.some.inj fits
      exact (List.append_nil _).symm ▸ h
    | operator prompt =>
      obtain rfl := Option.some.inj fits
      exact h.next
  · have unread : readings (begin mission).log = [] := filterMap_log_begin (fun _ => rfl) mission
    rw [unread]
    exact .start lines

/-! ## Prompts -/

/-- Tasks are asked for in interactive sessions only, and a word on a leg only
if the operator has it. -/
theorem prompt_of_reading {mission : Mission} {answers : List Answer} {prompt : String}
    {line : Operator.Line} (h : (prompt, line) ∈ readings (Session.after mission answers).log) :
    (prompt = Operator.taskPrompt ∧ mission.rules.automated = false) ∨
      (prompt = Operator.confirmPrompt ∧ mission.rules.confirms = true) := by
  obtain ⟨e, logged, reading⟩ := List.mem_filterMap.mp h
  obtain ⟨before, after, hlog⟩ := List.append_of_mem logged
  cases e with
  | modelAsked | solverAsked | printed => cases reading
  | operatorAsked =>
    cases reading
    obtain ⟨earlier, answer, -, -, fits⟩ :=
      eachAfter_putAfter mission answers before _ after hlog nofun
    obtain ⟨q, asks, fits⟩ := Option.bind_eq_some_iff.mp fits
    have rules : (Session.after mission earlier).rules = mission.rules :=
      congrArg Mission.rules (mission_after mission earlier)
    have begun := (Invariant.begunAsRuled mission).after earlier
    obtain ⟨-, flown, -⟩ := (Invariant.flownSoFar mission).after earlier
    cases q <;> cases answer <;> cases fits
    unfold query at asks
    cases stage : (Session.after mission earlier).stage <;> rw [stage] at asks <;> cases asks
    · exact .inl ⟨rfl, rules ▸ begun.1 (by rw [stage]; rfl)⟩
    · simp only [Juncture.FlownSoFar, stage] at flown
      obtain ⟨-, -, -, -, -, -, -, confirms, -⟩ := flown
      exact .inr ⟨rfl, rules ▸ confirms⟩

/-! ## Tasks -/

/-- Of all answers only a task is said by a user. -/
theorem Hears.userMessages {s : Session} {e : Event} {p : Juncture} (h : Hears s e p) :
    p.session.conversation.userMessages =
      s.conversation.userMessages ++ e.task?.toList.map .user := by
  have reply : ∀ c text,
      (Conversation.push c (.assistant text)).userMessages = c.userMessages ++ [] :=
    fun c text => (userMessages_push_of_ne c rfl).trans (List.append_nil _).symm
  have system : ∀ c text,
      (Conversation.push c (.system text)).userMessages = c.userMessages ++ [] :=
    fun c text => (userMessages_push_of_ne c rfl).trans (List.append_nil _).symm
  cases h with
  | @taskLeft more line stage quits =>
    cases line with
    | none => exact (List.append_nil _).symm
    | some line =>
      have leaves : Operator.isQuit line = true := quits line rfl
      rw [Event.task?, leaves]
      exact (List.append_nil _).symm
  | taskPut stage stays =>
    rw [Event.task?, stays]
    exact userMessages_push_user _ _
  | feedbackReply | automatedReply | interactiveReply | askedAgain | askedLast => exact reply _ _
  | nudged | nudgedLast => exact (system _ _).trans ((List.append_nil _).trans (reply _ _))
  | turnedDown => exact system _ _
  | wordGiven | wordUnclear =>
    have other : Operator.confirmPrompt ≠ Operator.taskPrompt := by decide
    rw [Event.task?, if_neg fun both => other both.1]
    exact (List.append_nil _).symm
  | _ => exact (List.append_nil _).symm

theorem Move.userMessages {p q : Juncture} (h : Move p q)
    (interactive : p.session.rules.automated = false) :
    q.session.conversation.userMessages = p.session.conversation.userMessages := by
  cases h with
  | instruct | instructAloud | nudgeFeedback => exact userMessages_push_of_ne _ rfl
  | putTask _ _ automated | putTaskUnheard _ _ automated => cases automated.symm.trans interactive
  | complete | flyOn => exact congrArg Conversation.userMessages (fly_conversation _ _)
  | _ => rfl

/-- In an interactive session users say what the operator put. -/
theorem Invariant.saysTasks {mission : Mission} (interactive : mission.rules.automated = false) :
    Invariant mission fun p => p.session.rules.automated = false ∧
      p.session.conversation.userMessages = (tasks p.session.log).map .user where
  begins := ⟨interactive, rfl⟩
  hears hs step := by
    refine ⟨(congrArg (·.rules.automated) step.mission).trans hs.1, ?_⟩
    have said : _ = (tasks _).map Message.user := hs.2
    rw [step.userMessages, tasks, step.filterMap_log fun _ => rfl, List.map_append]
    exact congrArg (· ++ _) said
  moves hp step := by
    refine ⟨(congrArg (·.rules.automated) step.mission).trans hp.1, ?_⟩
    rw [step.userMessages hp.1, tasks, step.filterMap_log fun _ => rfl]
    exact hp.2

/-! ## Leaving -/

/-- The operator leaves: the line read at the prompt for a task asks to,
or the input has ended. -/
def Event.isFarewell : Event → Bool
  | operatorAsked prompt (.ok line) => prompt = Operator.taskPrompt && line.all Operator.isQuit
  | _ => false

/-- How often the session has come to its end because the operator left. -/
def Stage.farewells : Stage → Nat
  | ended .exited => 1
  | _ => 0

def Juncture.farewells : Juncture → Nat
  | waiting s => s.stage.farewells
  | _ => 0

theorem Stage.farewells_of_query {s : Session} {q : Query} (h : s.query = some q) :
    s.stage.farewells = 0 := by
  unfold query at h
  cases stage : s.stage with
  | ended ending =>
    rw [stage] at h
    cases h
  | _ => rfl

theorem Hears.farewells {s : Session} {e : Event} {p : Juncture} (h : Hears s e p) :
    s.stage.farewells = 0 ∧ [e].countP Event.isFarewell = p.farewells := by
  cases h with
  | @taskLeft more line stage quits =>
    rw [stage]
    refine ⟨rfl, ?_⟩
    have leaves : line.all Operator.isQuit = true := by
      cases line with
      | none => rfl
      | some line => exact quits line rfl
    rw [List.countP_singleton, Event.isFarewell, leaves]
    rfl
  | taskPut stage stays =>
    rw [stage, List.countP_singleton, Event.isFarewell, Option.all_some, stays]
    exact ⟨rfl, rfl⟩
  | taskFailed stage | replyFailed stage | feedbackReply stage
  | automatedReply stage | nudged stage | nudgedLast stage | interactiveReply stage
  | askedAgain stage | askedLast stage | solved stage | unsolvedRepair stage | unsolvedAbort stage
  | unsolvedRefine stage | repairFailed stage | repaired stage | unrepaired stage
  | judgementFailed stage | approved stage | turnedDown stage | wordFailed stage
  | wordMissing stage | wordGiven stage | wordUnclear stage =>
    rw [stage]
    exact ⟨rfl, rfl⟩

/-- Only the operator makes a session exit. -/
theorem Move.farewells {p q : Juncture} (h : Move p q) : p.farewells = 0 ∧ q.farewells = 0 := by
  cases h <;> exact ⟨rfl, rfl⟩

/-- The operator has left once if the session has exited, and never before. -/
theorem Invariant.leavesOnce (mission : Mission) :
    Invariant mission fun p => p.session.log.countP Event.isFarewell = p.farewells where
  begins := rfl
  hears := by
    intro s e p hs step
    obtain ⟨before, now⟩ := step.farewells
    have hs : s.log.countP Event.isFarewell = s.stage.farewells := hs
    rw [step.countP fun _ => rfl, hs, before, now, Nat.zero_add]
  moves := by
    intro p q hp step
    obtain ⟨before, now⟩ := step.farewells
    rw [step.countP fun _ => rfl, hp, before, now]

/-- The last thing that an operator who leaves is asked for is a task. Nothing is
said or asked afterwards. -/
structure Leaves (mission : Mission) (earlier : List Answer) (line : Option String) : Prop where
  quits : ∀ l ∈ line, Operator.isQuit l = true
  asked : (Session.after mission earlier).query = some (.operator Operator.taskPrompt)
  log : (Session.after mission (earlier ++ [.line (.ok line)])).log =
    (Session.after mission earlier).log ++
      [.operatorAsked Operator.taskPrompt (.ok line), .printed exitNotice]
  messages : (Session.after mission (earlier ++ [.line (.ok line)])).result.messages =
    (Session.after mission earlier).result.messages

theorem exists_leaves {mission : Mission} {answers : List Answer}
    (fitting : Fitting mission answers)
    (exited : (Session.after mission answers).stage = .ended .exited) :
    ∃ earlier line, answers = earlier ++ [.line (.ok line)] ∧ Leaves mission earlier line := by
  have leaves : (Session.after mission answers).log.countP Event.isFarewell =
      (Session.after mission answers).stage.farewells :=
    (Invariant.leavesOnce mission).after answers
  rw [exited] at leaves
  cases fitting with
  | nil =>
    obtain ⟨lines, hlog⟩ := Moves.log (moves_next (.turn (.new mission)))
    have hlog : (Session.after mission []).log = lines.map .printed := hlog
    rw [hlog, countP_printed fun _ => rfl] at leaves
    cases leaves
  | @concat earlier answer e before fits =>
    have stayed : (Session.after mission earlier).log.countP Event.isFarewell =
        (Session.after mission earlier).stage.farewells :=
      (Invariant.leavesOnce mission).after earlier
    rw [after_concat] at leaves
    rcases resume_eq (Session.after mission earlier) answer with
      ⟨unfit, -⟩ | ⟨e', p, fits', hears, next⟩
    · cases unfit.symm.trans fits
    · obtain ⟨lines, hlog⟩ := log_resume fits'
      obtain ⟨unended, farewell⟩ := hears.farewells
      rw [hlog, List.countP_append, List.countP_append, countP_printed fun _ => rfl, stayed,
        unended, farewell] at leaves
      cases hears with
      | @taskLeft more line stage quits =>
        have asks :
            (Session.after mission earlier).query = some (.operator Operator.taskPrompt) := by
          rw [query, stage]
        rw [asks] at fits'
        cases answer <;> cases fits'
        refine ⟨earlier, line, rfl, quits, asks, ?_, ?_⟩
        · rw [after_concat, next]
          exact List.append_assoc ..
        · rw [after_concat, next]
          rfl
      | _ => cases leaves

/-- Once the operator leaves, the session is over, and only says so. -/
theorem exited_of_farewell {mission : Mission} {answers : List Answer}
    (fitting : Fitting mission answers) {before after : List Event} {line : Option String}
    (quits : ∀ l ∈ line, Operator.isQuit l = true)
    (hlog : (Session.after mission answers).log =
      before ++ .operatorAsked Operator.taskPrompt (.ok line) :: after) :
    (Session.after mission answers).stage = .ended .exited ∧ after = [.printed exitNotice] := by
  have farewell : Event.isFarewell (.operatorAsked Operator.taskPrompt (.ok line)) = true := by
    cases line with
    | none => rfl
    | some line => exact quits line rfl
  have leaves : (Session.after mission answers).log.countP Event.isFarewell =
      (Session.after mission answers).stage.farewells :=
    (Invariant.leavesOnce mission).after answers
  have exited : (Session.after mission answers).stage = .ended .exited := by
    rw [hlog, List.countP_append, List.countP_cons_of_pos farewell] at leaves
    unfold Stage.farewells at leaves
    split at leaves
    · assumption
    · omega
  refine ⟨exited, ?_⟩
  obtain ⟨earlier, last, rfl, left⟩ := exists_leaves fitting exited
  have stayed : (Session.after mission earlier).log.countP Event.isFarewell = 0 :=
    ((Invariant.leavesOnce mission).after earlier).trans (Stage.farewells_of_query left.asked)
  -- the log ends with the farewell and the notice, and the event at hand is a
  -- farewell: it is that one
  have hlog := left.log.symm.trans hlog
  rcases List.append_eq_append_iff.mp hlog with ⟨more, -, tail⟩ | ⟨more, same, tail⟩
  · match more, tail with
    | [], tail => exact (List.cons.inj tail).2.symm
    | [_], tail => cases (List.cons.inj (List.cons.inj tail).2).1
    | _ :: _ :: _, tail => exact absurd (congrArg List.length tail) (by simp)
  · match more, tail with
    | [], tail => exact (List.cons.inj tail).2
    | e :: _, tail =>
      obtain rfl := (List.cons.inj tail).1
      rw [same, List.countP_append, List.countP_cons_of_pos farewell] at stayed
      omega

/-! ## Confirmations -/

/-- Asking for a confirmation reads off the list what belongs to it,
and gives its answer. -/
theorem Operator.confirm_reads (lines : List (Except String String)) :
    Confirmation (confirm lines).2.1 (confirm lines).1 ∧
      ReadOff lines (confirm lines).2.2 (confirm lines).2.1 := by
  induction lines with
  | nil => exact ⟨.inputEnded, [], 1, rfl, rfl, .inl rfl⟩
  | cons line rest ih =>
    have first : ReadOff (line :: rest) rest [line.map some] :=
      ⟨[line], 0, rfl, rfl, .inr rfl⟩
    cases line with
    | error e => exact ⟨.failed e, first⟩
    | ok text =>
      rw [confirm]
      cases answer : answer? text with
      | some b => exact ⟨.of_answer answer, first⟩
      | none =>
        obtain ⟨notYes, notNo⟩ := (answer?_eq_none_iff text).mp answer
        obtain ⟨taken, beyond, taken_append, read, ends⟩ := ih.2
        refine ⟨.unclear notYes notNo ih.1, .ok text :: taken, beyond, ?_, ?_, ends⟩
        · exact congrArg (_ :: ·) taken_append
        · exact congrArg (_ :: ·) read

/-! ## One confirmation a leg -/

/-- The operator has confirmed a leg, if the last word on it is the operator's and the
judge did not fail: there was one confirmation, and its answer counts. Else the operator
was not asked about it. -/
structure FoundLeg.Confirmed (rules : Rules) (l : FoundLeg) : Prop where
  asked : rules.confirms = true → l.isHeard = true → ∃ answer, Confirmation l.words answer ∧
    ∀ b, answer = .ok b → l.isAccepted rules = (b || (rules.automated && !rules.judges))
  unasked : rules.confirms = false ∨ l.isHeard = false → l.words = []

theorem FoundLeg.Confirmed.of_unasked {rules : Rules} {l : FoundLeg} (unasked : l.words = [])
    (silent : rules.confirms = false ∨ l.isHeard = false) : l.Confirmed rules where
  asked confirms heard := by
    rcases silent with off | unheard
    · cases off.symm.trans confirms
    · cases unheard.symm.trans heard
  unasked _ := unasked

/-- The operator's word ends a confirmation. -/
theorem FoundLeg.Confirmed.of_word {rules : Rules} {l : FoundLeg} {word : Operator.Line}
    {answer : Except String Bool} (heard : l.isHeard = true) (confirms : rules.confirms = true)
    (unclear : Unclear l.words) (given : Confirmation [word] answer) :
    (l.withWord word).Confirmed rules where
  asked _ _ := by
    refine ⟨answer, unclear.confirmation given, ?_⟩
    rintro b rfl
    exact FoundLeg.isAccepted_withWord heard confirms unclear given.confirmation?_eq
  unasked silent := by
    rcases silent with off | unheard
    · cases off.symm.trans confirms
    · cases unheard.symm.trans heard

/-- Every leg that is past its check is confirmed as the rules say. -/
def Juncture.AllConfirmed (p : Juncture) : Prop :=
  ∀ l ∈ p.pastLegs, l.Confirmed p.session.rules

theorem forall_mem_concat {α : Type} {P : α → Prop} {legs before : List α} {l : α}
    (same : legs = before ++ [l]) (all : ∀ l ∈ before, P l) (last : P l) : ∀ l ∈ legs, P l := by
  intro l' hl
  rw [same] at hl
  rcases List.mem_append.mp hl with hl | hl
  · exact all l' hl
  · exact List.mem_singleton.mp hl ▸ last

/-- Of the ways in which the check of a leg ends, each confirms it as the rules say. -/
theorem FoundLeg.EndsWith.confirmed {rules : Rules} {e : Event} {l : FoundLeg}
    (h : l.EndsWith rules e) : l.Confirmed rules := by
  cases h with
  | failure unasked => exact .of_unasked unasked (.inr rfl)
  | word heard confirms unclear given => exact .of_word heard confirms unclear given

theorem Hears.allConfirmed {s : Session} {e : Event} {p : Juncture}
    (flown : (Juncture.waiting s).FlownSoFar) (h : (Juncture.waiting s).AllConfirmed)
    (step : Hears s e p) : p.AllConfirmed := by
  have rules : p.session.rules = s.rules := congrArg Mission.rules step.mission
  unfold Juncture.AllConfirmed
  rw [rules]
  rcases step.pastLegs flown with same | ⟨l, ends, more⟩
  · rw [same]
    exact h
  · exact forall_mem_concat more h ends.confirmed

theorem Move.allConfirmed {p q : Juncture} (flown : p.FlownSoFar) (h : p.AllConfirmed)
    (step : Move p q) : q.AllConfirmed := by
  have rules : q.session.rules = p.session.rules := congrArg Mission.rules step.mission
  unfold Juncture.AllConfirmed
  rw [rules]
  rcases step.pastLegs flown with
    ⟨same, -⟩ | ⟨s, leg, accepts, l, rfl, rfl, silent, unasked, -, more⟩
  · rw [same]
    exact h
  · exact forall_mem_concat more h (.of_unasked unasked (.inl silent))

theorem Invariant.allConfirmed (mission : Mission) :
    Invariant mission fun p =>
      (Equipped p.session ∧ p.FlownSoFar ∧ p.CountsJudged) ∧ p.AllConfirmed :=
  (Invariant.flownSoFar mission).and (by intro l hl; cases hl)
    (fun known h step => step.allConfirmed known.2.1 h)
    (fun known h step => step.allConfirmed known.2.1 h)

/-! ## Words and legs -/

/-- What an event adds to what was read about legs is read about the last one. -/
theorem FoundLeg.flatMap_words_note {rules : Rules} {legs : List FoundLeg} {e : Event}
    (asked : e.word?.isSome = true → legs ≠ []) :
    (note rules legs e).flatMap (·.words) = legs.flatMap (·.words) ++ e.word?.toList := by
  have modified (f : FoundLeg → FoundLeg) (more : List Operator.Line)
      (adds : ∀ l, (f l).words = l.words ++ more) (found : more = [] ∨ legs ≠ []) :
      (legs.modifyLast f).flatMap (·.words) = legs.flatMap (·.words) ++ more := by
    rcases List.eq_nil_or_concat legs with rfl | ⟨before, l, rfl⟩
    · rw [found.resolve_right fun none => none rfl]
      rfl
    · rw [List.concat_eq_append, List.modifyLast_concat]
      simp [adds]
  cases e with
  | solverAsked request outcome =>
    simp only [note]
    split <;> simp [Event.word?]
  | modelAsked purpose messages reply =>
    cases purpose with
    | judgement =>
      exact modified (withReply reply) [] (fun l => (List.append_nil _).symm) (.inl rfl)
    | conversation | repair => exact (List.append_nil _).symm
  | operatorAsked prompt line =>
    simp only [Event.word?] at asked ⊢
    simp only [note]
    by_cases confirm : prompt = Operator.confirmPrompt
    · simp only [if_pos confirm] at asked ⊢
      exact modified (withWord line) [line] (fun _ => rfl) (.inr (asked rfl))
    · rw [if_neg confirm, if_neg confirm]
      exact (List.append_nil _).symm
  | printed line => exact (List.append_nil _).symm

/-- The operator is asked for a word on a leg that was found. -/
theorem Hears.foundLegs_ne_nil {s : Session} {e : Event} {p : Juncture}
    (flown : (Juncture.waiting s).FlownSoFar) (h : Hears s e p) (word : e.word?.isSome = true) :
    foundLegs s.rules s.log ≠ [] := by
  simp only [Juncture.FlownSoFar] at flown
  cases h with
  | wordFailed stage | wordMissing stage | wordGiven stage | wordUnclear stage =>
    rw [stage] at flown
    obtain ⟨before, l, found, -⟩ := flown
    rw [found]
    exact List.concat_ne_nil l before
  | _ => cases word

/-- Every word that was read is about a leg, in the order in which the legs were found. -/
theorem Invariant.wordsOfLegs (mission : Mission) :
    Invariant mission fun p => (Equipped p.session ∧ p.FlownSoFar ∧ p.CountsJudged) ∧
      words p.session.log = (foundLegs p.session.rules p.session.log).flatMap (·.words) := by
  refine (Invariant.flownSoFar mission).and rfl ?_ ?_
  · intro s e p known same step
    have same : words s.log = (foundLegs s.rules s.log).flatMap (·.words) := same
    rw [step.foundLegs_eq, FoundLeg.flatMap_words_note (step.foundLegs_ne_nil known.2.1), ← same]
    exact step.filterMap_log fun _ => rfl
  · intro p q _ same step
    rw [step.foundLegs_eq, ← same]
    exact step.filterMap_log fun _ => rfl

/-! ## Main result -/

/-- The operator is asked for the last word on this leg, and has given
no clear answer yet. -/
structure Session.AwaitsWord (s : Session) (l : FoundLeg) : Prop where
  last : (foundLegs s.rules s.log).getLast? = some l
  stage : s.stage = .confirming l.leg
  unclear : Unclear l.words

theorem confirmed_or_awaited (mission : Mission) (answers : List Answer) :
    let s := Session.after mission answers
    ∀ l ∈ foundLegs s.rules s.log, l.Confirmed s.rules ∨ s.AwaitsWord l := by
  intro s l hl
  obtain ⟨⟨-, flown, -⟩, past⟩ := (Invariant.allConfirmed mission).after answers
  have past : ∀ l ∈ s.stage.pastLegs (foundLegs s.rules s.log), l.Confirmed s.rules := past
  have flown : (Juncture.waiting s).FlownSoFar := flown
  simp only [Juncture.FlownSoFar] at flown
  cases stage : s.stage with
  | judging leg =>
    rw [stage] at past flown
    obtain ⟨before, last, found, -, -, -, toJudge, unjudged, unasked⟩ := flown
    have past : ∀ l ∈ (foundLegs s.rules s.log).dropLast, l.Confirmed s.rules := past
    rw [found, List.dropLast_concat] at past
    have unheard : last.isHeard = false := by rw [FoundLeg.isHeard, unjudged, toJudge]; rfl
    exact .inl (forall_mem_concat found past (.of_unasked unasked (.inr unheard)) l hl)
  | confirming leg =>
    rw [stage] at past flown
    obtain ⟨before, last, found, rfl, -, -, -, -, unclear⟩ := flown
    have past : ∀ l ∈ (foundLegs s.rules s.log).dropLast, l.Confirmed s.rules := past
    rw [found, List.dropLast_concat] at past
    have awaits : s.AwaitsWord last := ⟨by rw [found, List.getLast?_concat], stage, unclear⟩
    exact forall_mem_concat (P := fun l => l.Confirmed s.rules ∨ s.AwaitsWord l) found
      (fun l hl => .inl (past l hl)) (.inr awaits) l hl
  | opening | task more | reply turn | solving spec repaired | repairing spec | ended ending =>
    rw [stage] at past
    exact .inl (past l hl)

/-- In any world, the lines that a run reads are the first ones of the operator's list, in
order. At the prompt for a task only interactive sessions read, and what they read there,
but for a line that asks to leave, is all that the user says in the conversation.
Everything else is read about legs. About each leg there is one confirmation if the
operator has the last word and the judge did not fail, and none otherwise; the session
flies the legs as it was answered. When the operator leaves, that was the last question,
and nothing is said any more. -/
theorem operator_lines_are_read_once {σ : Type} (w : World (StateM σ)) (env : σ) (mission : Mission)
    (questions : Nat) (lines : List (Except String String)) :
    let final := (run w.reading questions (begin mission)).run (lines, env)
    let s := final.1
    let rules := mission.rules
    ReadOff lines final.2.1 ((readings s.log).map (·.2)) ∧
    (∀ r ∈ readings s.log, (r.1 = Operator.taskPrompt ∧ rules.automated = false) ∨
      (r.1 = Operator.confirmPrompt ∧ rules.confirms = true)) ∧
    (rules.automated = false →
      s.result.messages.filter (·.role == .user) = (tasks s.log).map .user) ∧
    words s.log = (foundLegs rules s.log).flatMap (·.words) ∧
    (∀ l ∈ foundLegs rules s.log, l.Confirmed rules ∨ s.AwaitsWord l) ∧
    Flown s (acceptedLegs rules s.log) ∧
    (∀ before line after,
      s.log = before ++ .operatorAsked Operator.taskPrompt (.ok line) :: after →
      (∀ l ∈ line, Operator.isQuit l = true) →
      s.result.status = .exited ∧ after = [.printed exitNotice]) ∧
    (s.result.status = .exited → ∃ earlier line,
      s = Session.after mission (earlier ++ [.line (.ok line)]) ∧ Leaves mission earlier line) := by
  intro final s rules
  obtain ⟨answers, fitting, ends, -⟩ := exists_run_eq_after w.reading mission questions (lines, env)
  have ends : s = Session.after mission answers := ends
  have same : (Session.after mission answers).rules = rules :=
    congrArg Mission.rules (mission_after mission answers)
  refine ⟨readOff_run w questions mission lines env, ?_⟩
  rw [ends]
  refine ⟨fun _ => prompt_of_reading, ?_, ?_, ?_, flown_after mission answers, ?_, ?_⟩
  · intro interactive
    exact ((Invariant.saysTasks interactive).after answers).2
  · rw [← same]
    exact ((Invariant.wordsOfLegs mission).after answers).2
  · rw [← same]
    exact confirmed_or_awaited mission answers
  · intro before line after hlog quits
    obtain ⟨exited, rest⟩ := exited_of_farewell fitting quits hlog
    exact ⟨status_of_ended exited, rest⟩
  · intro exited
    obtain ⟨ending, ended, status⟩ := ended_of_status exited (by decide)
    cases ending <;> cases status
    obtain ⟨earlier, line, rfl, leaves⟩ := exists_leaves fitting ended
    exact ⟨earlier, line, rfl, leaves⟩

/-- A solver who always finds the leg to the goal, for a model that always asks for it. -/
def readyWorld : World (StateM Unit) where
  model _ := pure (.ok "<goal>")
  solver _ := pure (.feasible ⟨[.atRest 0 0 0, .atRest 4.5 4.5 0.5]⟩ [])
  operator _ := pure (.ok none)

example :
    let mission := openMission { Rules.unchecked with confirms := true }
    let lines := ["Go.", "maybe", " Y ", "Back.", "quit", "quit", "y"].map .ok
    let final := (run readyWorld.reading 20 (begin mission)).run (lines, ())
    tasks final.1.log = ["Go.", "Back."] ∧
      words final.1.log = [.ok (some "maybe"), .ok (some " Y "), .ok (some "quit"),
        .ok (some "quit"), .ok (some "y")] ∧
      final.2.1 = [] := by
  exact ⟨rfl, rfl, rfl⟩

end Sortie
