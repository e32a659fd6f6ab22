import Mathlib.Data.Nat.Find
import Sortie.Proofs.Session.Calls
/-!
# Repairs

A specification that the solver cannot use is sent to the model again and again, until the
model fails, or replies with a specification, or no attempt is left. The session may be any
one, with any budget, and the model may reply whatever it likes: `repair_ends_as_replied`
says how many calls are made and how the repair ends, and that all else stays as it was.
-/

namespace Sortie

open Session

/-! ## How a repair ends -/

/-- A reply to a request for a repair that holds no specification. -/
def IsUnusable (reply : Except String String) : Prop :=
  ∃ text fault, reply = .ok text ∧ Specification.extract text = .error fault

/-- How a repair ends if so many attempts of a budget are left and the model would reply
like this: the number of calls, what the session is about then, and the specification
that waits to be solved. -/
inductive RepairEnds (limit attempts : Nat) (replies : Nat → Except String String) :
    Nat → Stage → Option Specification → Prop
  /-- The first reply that is not skipped fails. -/
  | failed {last : Nat} {e : String} (left : last < attempts)
      (skipped : ∀ i < last, IsUnusable (replies i)) (fails : replies last = .error e) :
      RepairEnds limit attempts replies (last + 1) (.ended (.aborted (.llm e))) none
  /-- The first reply that is not skipped holds a specification. -/
  | repaired {last : Nat} {text : String} {fixed : Specification} (left : last < attempts)
      (skipped : ∀ i < last, IsUnusable (replies i)) (replied : replies last = .ok text)
      (extracted : Specification.extract text = .ok fixed) :
      RepairEnds limit attempts replies (last + 1) (.solving fixed true) (some fixed)
  /-- All are skipped. -/
  | exhausted (skipped : ∀ i < attempts, IsUnusable (replies i)) :
      RepairEnds limit attempts replies attempts
        (.ended (.aborted (.syntaxBudgetExhausted limit))) none

/-- The session once it was given the first of the model's replies. -/
def Session.told (s : Session) (replies : Nat → Except String String) (count : Nat) : Session :=
  ((List.range count).map fun i => Answer.reply (replies i)).foldl resume s

/-- The calls of a repair. -/
def repairCalls (request : List Message) (replies : Nat → Except String String) (count : Nat) :
    List Event :=
  (List.range count).map fun i => .modelAsked .repair request (replies i)

/-- Since `s`, so many calls were made for a repair, and nothing else has happened. -/
structure Session.Retried (s : Session) (spec : Specification)
    (replies : Nat → Except String String) (count : Nat) (t : Session) : Prop where
  conversation : t.conversation = s.conversation
  trajectory : t.trajectory = s.trajectory
  start : t.start = s.start
  feedbackDue : t.feedbackDue = s.feedbackDue
  instructions : t.repair.instructions = s.repair.instructions
  limit : t.repair.budget.limit = s.repair.budget.limit
  questions : t.log.filter Event.isQuestion =
    s.log.filter Event.isQuestion ++ repairCalls (s.repairRequest spec) replies count

/-! ## Single steps -/

theorem told_succ (s : Session) (replies : Nat → Except String String) (count : Nat) :
    s.told replies (count + 1) = (s.told replies count).resume (.reply (replies count)) := by
  simp [told, List.range_succ]

theorem repairCalls_succ (request : List Message) (replies : Nat → Except String String)
    (count : Nat) : repairCalls request replies (count + 1) =
      repairCalls request replies count ++ [.modelAsked .repair request (replies count)] := by
  simp [repairCalls, List.range_succ]

theorem filter_isQuestion_say (s : Session) (line : String) :
    (s.say line).log.filter Event.isQuestion = s.log.filter Event.isQuestion := by
  simp [say, record, Event.isQuestion, Event.asksModel, Event.asksSolver, Event.asksOperator]

theorem heardRepair_of_unusable (s : Session) (spec : Specification) {text : String} {fault : Fault}
    (extracted : Specification.extract text = .error fault) :
    s.heardRepair spec (.ok text) = (s.say (SyntaxRepair.note text)).requestRepair spec := by
  obtain ⟨detail, rfl⟩ := Specification.eq_extraction_of_extract extracted
  simp [heardRepair, SyntaxRepair.conclude, extracted]

theorem heardRepair_of_repaired (s : Session) (spec : Specification) {text : String}
    {fixed : Specification} (extracted : Specification.extract text = .ok fixed) :
    s.heardRepair spec (.ok text) = (s.say (SyntaxRepair.note text)).solve fixed true := by
  simp [heardRepair, SyntaxRepair.conclude, extracted]

/-- An attempt is counted when it is made, and there is one as long as the
budget is not used up. -/
theorem requestRepair_of_left {s : Session} (spec : Specification)
    (left : s.repair.budget.count < s.repair.budget.limit) :
    ∃ budget, s.requestRepair spec =
        { s with repair := { s.repair with budget } }.goTo (.repairing spec) ∧
      budget.limit = s.repair.budget.limit ∧ budget.count = s.repair.budget.count + 1 := by
  cases spends : s.repair.budget.spend? with
  | none =>
    have spent := Budget.spend?_eq_none_iff.mp spends
    unfold Budget.remaining at spent
    omega
  | some budget =>
    obtain ⟨-, limit, count⟩ := Budget.remaining_of_spend? spends
    exact ⟨budget, by rw [requestRepair, SyntaxRepair.begin, spends], limit, count⟩

theorem requestRepair_of_spent {s : Session} (spec : Specification)
    (spent : s.repair.budget.count = s.repair.budget.limit) :
    s.requestRepair spec = s.abort (.syntaxBudgetExhausted s.repair.budget.limit) := by
  have spends : s.repair.budget.spend? = none := by
    rw [Budget.spend?_eq_none_iff, Budget.remaining, spent, Nat.sub_self]
  rw [requestRepair, SyntaxRepair.begin, spends, spent]

/-! ## Many steps -/

namespace Session.Retried

variable {s t u : Session} {spec : Specification} {replies : Nat → Except String String}
  {count : Nat}

theorem refl (s : Session) (spec : Specification) (replies : Nat → Except String String) :
    s.Retried spec replies 0 s :=
  ⟨rfl, rfl, rfl, rfl, rfl, rfl, (List.append_nil _).symm⟩

theorem congr (h : s.Retried spec replies count t) (conversation : u.conversation = t.conversation)
    (trajectory : u.trajectory = t.trajectory) (start : u.start = t.start)
    (feedbackDue : u.feedbackDue = t.feedbackDue)
    (instructions : u.repair.instructions = t.repair.instructions)
    (limit : u.repair.budget.limit = t.repair.budget.limit)
    (questions : u.log.filter Event.isQuestion = t.log.filter Event.isQuestion) :
    s.Retried spec replies count u where
  conversation := conversation.trans h.conversation
  trajectory := trajectory.trans h.trajectory
  start := start.trans h.start
  feedbackDue := feedbackDue.trans h.feedbackDue
  instructions := instructions.trans h.instructions
  limit := limit.trans h.limit
  questions := questions.trans h.questions

/-- One more call was made. -/
theorem recorded (h : s.Retried spec replies count t) :
    s.Retried spec replies (count + 1) (t.recordRepair spec (replies count)) where
  conversation := h.conversation
  trajectory := h.trajectory
  start := h.start
  feedbackDue := h.feedbackDue
  instructions := h.instructions
  limit := h.limit
  questions := by
    have request : t.repairRequest spec = s.repairRequest spec := by
      rw [repairRequest, repairRequest, h.instructions]
    show (t.log ++ [Event.modelAsked .repair (t.repairRequest spec) (replies count)]).filter _ = _
    rw [List.filter_append, h.questions, request, repairCalls_succ, List.append_assoc]
    rfl

theorem said (h : s.Retried spec replies count t) (line : String) :
    s.Retried spec replies count (t.say line) :=
  h.congr rfl rfl rfl rfl rfl rfl (filter_isQuestion_say t line)

theorem aborted (h : s.Retried spec replies count t) (fault : Fault) :
    s.Retried spec replies count (t.abort fault) :=
  h.congr rfl rfl rfl rfl rfl rfl rfl

theorem solved (h : s.Retried spec replies count t) (fixed : Specification) :
    s.Retried spec replies count (t.solve fixed true) :=
  h.congr rfl rfl rfl rfl rfl rfl (filter_isQuestion_say t _)

/-- As long as an attempt is left, a repair is requested, and the attempt is counted. -/
theorem requests (h : s.Retried spec replies count t)
    (left : t.repair.budget.count < t.repair.budget.limit) :
    s.Retried spec replies count (t.requestRepair spec) ∧
      (t.requestRepair spec).stage = .repairing spec ∧
      (t.requestRepair spec).repair.budget.count = t.repair.budget.count + 1 := by
  obtain ⟨budget, requested, limit, counted⟩ := requestRepair_of_left spec left
  rw [requested]
  exact ⟨h.congr rfl rfl rfl rfl rfl limit rfl, rfl, counted⟩

end Session.Retried

section Episode

variable {s : Session} {replies : Nat → Except String String} {count : Nat}

/-- After replies that were all skipped, another repair is to be requested. -/
theorem told_eq_requestRepair (spec : Specification) (skipped : ∀ i < count, IsUnusable (replies i))
    (left : count ≤ s.repair.budget.remaining) :
    ∃ t, (s.requestRepair spec).told replies count = t.requestRepair spec ∧
      s.Retried spec replies count t ∧
      t.repair.budget.count = s.repair.budget.count + count := by
  induction count with
  | zero => exact ⟨s, rfl, .refl s spec replies, rfl⟩
  | succ count ih =>
    obtain ⟨t, told, retried, counted⟩ :=
      ih (fun i before => skipped i (Nat.lt_succ_of_lt before)) (Nat.le_of_succ_le left)
    have more : t.repair.budget.count < t.repair.budget.limit := by
      rw [counted, retried.limit]
      unfold Budget.remaining at left
      omega
    obtain ⟨waits, stage, spent⟩ := retried.requests more
    obtain ⟨text, fault, reply, extracted⟩ := skipped count (Nat.lt_succ_self count)
    have recorded := waits.recorded
    rw [reply] at recorded
    refine ⟨_, ?_, recorded.said (SyntaxRepair.note text), ?_⟩
    · rw [told_succ, told, resume_of_repairing stage, reply, heardRepair_of_unusable _ _ extracted]
    · exact spent.trans (by rw [counted]; rfl)

/-- The session waits for the next reply. -/
theorem told_waits (spec : Specification) (skipped : ∀ i < count, IsUnusable (replies i))
    (left : count < s.repair.budget.remaining) :
    s.Retried spec replies count ((s.requestRepair spec).told replies count) ∧
      ((s.requestRepair spec).told replies count).stage = .repairing spec ∧
      ((s.requestRepair spec).told replies count).repair.budget.count =
        s.repair.budget.count + count + 1 := by
  obtain ⟨t, told, retried, counted⟩ := told_eq_requestRepair spec skipped (Nat.le_of_lt left)
  have more : t.repair.budget.count < t.repair.budget.limit := by
    rw [counted, retried.limit]
    unfold Budget.remaining at left
    omega
  rw [told, ← counted]
  exact retried.requests more

/-- The next reply is heard. -/
theorem told_hears (spec : Specification) (skipped : ∀ i < count, IsUnusable (replies i))
    (left : count < s.repair.budget.remaining) :
    ∃ t, (s.requestRepair spec).told replies (count + 1) = t.heardRepair spec (replies count) ∧
      s.Retried spec replies (count + 1) t ∧
      t.repair.budget.count = s.repair.budget.count + (count + 1) := by
  obtain ⟨retried, stage, counted⟩ := told_waits spec skipped left
  exact ⟨_, by rw [told_succ, resume_of_repairing stage], retried.recorded, counted⟩

theorem told_spent (spec : Specification)
    (skipped : ∀ i < s.repair.budget.remaining, IsUnusable (replies i)) :
    ∃ t, (s.requestRepair spec).told replies s.repair.budget.remaining =
        t.abort (.syntaxBudgetExhausted s.repair.budget.limit) ∧
      s.Retried spec replies s.repair.budget.remaining t ∧
      t.repair.budget.count = s.repair.budget.count + s.repair.budget.remaining := by
  obtain ⟨t, told, retried, counted⟩ := told_eq_requestRepair spec skipped (Nat.le_refl _)
  have spent : t.repair.budget.count = t.repair.budget.limit := by
    have within := s.repair.budget.count_le_limit
    rw [counted, retried.limit]
    unfold Budget.remaining
    omega
  refine ⟨t, ?_, retried, counted⟩
  rw [told, requestRepair_of_spent spec spent, retried.limit]

end Episode

/-! ## Main result -/

/-- Among the next replies all are to be skipped, or there is a first one that is not. -/
theorem skipped_or_first (replies : Nat → Except String String) (attempts : Nat) :
    (∀ i < attempts, IsUnusable (replies i)) ∨
      ∃ last < attempts, ¬ IsUnusable (replies last) ∧ ∀ i < last, IsUnusable (replies i) := by
  classical
  by_cases settled : ∃ i, i < attempts ∧ ¬ IsUnusable (replies i)
  · obtain ⟨left, settles⟩ := Nat.find_spec settled
    refine .inr ⟨Nat.find settled, left, settles, fun i before => ?_⟩
    refine not_not.mp fun usable => Nat.find_min settled before ⟨?_, usable⟩
    exact Nat.lt_trans before left
  · exact .inl fun i before => not_not.mp fun usable => settled ⟨i, before, usable⟩

/-- Until a repair ends, attempts are left and all replies are skipped. -/
theorem RepairEnds.goesOn {limit attempts calls : Nat} {replies : Nat → Except String String}
    {stage : Stage} {pending : Option Specification}
    (h : RepairEnds limit attempts replies calls stage pending) {i : Nat} (before : i < calls) :
    i < attempts ∧ ∀ j < i, IsUnusable (replies j) := by
  cases h with
  | failed left skipped | repaired left skipped =>
    have le : i ≤ _ := Nat.le_of_lt_succ before
    exact ⟨Nat.lt_of_le_of_lt le left, fun j earlier => skipped j (Nat.lt_of_lt_of_le earlier le)⟩
  | exhausted skipped =>
    exact ⟨before, fun j earlier => skipped j (Nat.lt_trans earlier before)⟩

theorem pendingRepair?_of_repairing {s : Session} {spec : Specification}
    (stage : s.stage = .repairing spec) : s.pendingRepair? = none := by
  rw [Progress.pendingRepair?, stage]

/-- There is an end to every repair. -/
theorem exists_repairEnds (s : Session) (spec : Specification)
    (replies : Nat → Except String String) :
    ∃ calls t, (s.requestRepair spec).told replies calls = t ∧
      RepairEnds s.repair.budget.limit s.repair.budget.remaining replies calls t.stage
        t.pendingRepair? ∧
      s.Retried spec replies calls t ∧
      t.repair.budget.count = s.repair.budget.count + calls := by
  rcases skipped_or_first replies s.repair.budget.remaining with
    skipped | ⟨last, left, settles, skipped⟩
  · obtain ⟨t, told, retried, counted⟩ := told_spent spec skipped
    exact ⟨_, _, told, .exhausted skipped, retried.aborted _, counted⟩
  · obtain ⟨t, told, retried, counted⟩ := told_hears spec skipped left
    cases reply : replies last with
    | error e =>
      rw [reply] at told
      exact ⟨_, _, told, .failed left skipped reply, retried.aborted _, counted⟩
    | ok text =>
      cases extracted : Specification.extract text with
      | error fault => exact (settles ⟨text, fault, reply, extracted⟩).elim
      | ok fixed =>
        rw [reply, heardRepair_of_repaired t spec extracted] at told
        exact ⟨_, _, told, .repaired left skipped reply extracted,
          (retried.said _).solved fixed, counted⟩

/-- A repair always ends, with the first reply that is not skipped or with the last
attempt. Each call makes the same request and takes one attempt, and nobody else is asked.
What was said and flown stays as it was, and so does whether feedback is due; a
specification waits to be solved only at the end. -/
theorem repair_ends_as_replied (s : Session) (spec : Specification) (reason : String)
    (replies : Nat → Except String String) (repairs : s.rules.repairs = true) :
    let request : List Message :=
      [.system s.repair.instructions, .user ("Original specification: " ++ spec.text)]
    let told := (s.solverFailed spec reason).told replies
    ∃ calls, RepairEnds s.repair.budget.limit s.repair.budget.remaining replies calls
        (told calls).stage (told calls).pendingRepair? ∧
      (∀ i < calls, (told i).query = some (.model .repair request) ∧
        (told i).pendingRepair? = none ∧
        (told i).repair.budget.count = s.repair.budget.count + i + 1) ∧
      (told calls).log.filter Event.isQuestion =
        s.log.filter Event.isQuestion ++ repairCalls request replies calls ∧
      (told calls).repair.budget.count = s.repair.budget.count + calls ∧
      ∀ i ≤ calls, (told i).conversation = s.conversation ∧ (told i).trajectory = s.trajectory ∧
        (told i).start = s.start ∧ (told i).feedbackDue = s.feedbackDue := by
  intro request told
  have begins : s.solverFailed spec reason = s.requestRepair spec := by
    rw [solverFailed, if_pos repairs]
  obtain ⟨calls, _, rfl, ends, retried, counted⟩ := exists_repairEnds s spec replies
  rw [← begins] at ends retried counted
  have waits : ∀ i < calls, s.Retried spec replies i (told i) ∧
      (told i).stage = .repairing spec ∧
      (told i).repair.budget.count = s.repair.budget.count + i + 1 := by
    intro i before
    obtain ⟨left, skipped⟩ := ends.goesOn before
    have waits := told_waits spec skipped left
    rwa [← begins] at waits
  refine ⟨calls, ends, ?_, retried.questions, counted, ?_⟩
  · intro i before
    obtain ⟨retried, stage, counted⟩ := waits i before
    refine ⟨?_, pendingRepair?_of_repairing stage, counted⟩
    rw [query_of_repairing stage, repairRequest, retried.instructions]
    rfl
  · intro i within
    have retried : s.Retried spec replies i (told i) := by
      rcases Nat.lt_or_eq_of_le within with before | rfl
      · exact (waits i before).1
      · exact retried
    exact ⟨retried.conversation, retried.trajectory, retried.start, retried.feedbackDue⟩

/-- Two attempts are permitted. The first reply is skipped, and what the second one
holds is solved next. -/
theorem second_repair_is_solved :
    let s := Session.new (openMission { Rules.unchecked with repairs := true, repairLimit := 2 })
    let replies : Nat → Except String String := fun i => .ok (if i = 0 then "Hm." else "<goal>")
    let told := (s.solverFailed ⟨"goal("⟩ "syntax error").told replies
    s.rules.repairs = true ∧ (told 2).pendingRepair? = some ⟨"goal"⟩ ∧
      (told 2).repair.budget.count = 2 := by
  intro s replies told
  have repairs : s.rules.repairs = true := rfl
  obtain ⟨calls, ends, -, -, counted, -⟩ :=
    repair_ends_as_replied s ⟨"goal("⟩ "syntax error" replies repairs
  refine ⟨repairs, ?_⟩
  generalize (((s.solverFailed ⟨"goal("⟩ "syntax error").told replies) calls).stage = stage at ends
  generalize hpending :
    (((s.solverFailed ⟨"goal("⟩ "syntax error").told replies) calls).pendingRepair? = pending
    at ends
  cases ends with
  | failed left skipped fails => cases fails
  | exhausted skipped =>
    obtain ⟨text, fault, reply, extracted⟩ := skipped 1 (by decide)
    cases reply
    cases extracted
  | @repaired last text fixed left skipped replied extracted =>
    have left : last < 2 := left
    match last, left with
    | 0, _ =>
      cases replied
      cases extracted
    | 1, _ =>
      cases replied
      cases extracted
      exact ⟨hpending, counted⟩

end Sortie
