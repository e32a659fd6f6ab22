import Mathlib.Data.UInt
import Sortie.Proofs.Session.Bounds
import Sortie.Proofs.Session.Messages
/-!
# What the model was asked for

Every call of the model is accounted for in the result of a session: a reply in the
conversation is one of its messages, a repair or a judgement is an attempt that a budget
has counted, and at most one call is none of these, as the session is over when the model
gives no reply in the conversation. The limits bound the attempts, so budgets and counters
in words that have room for the limits never overflow.
-/

namespace Sortie

open Session

/-! ## Calls without a reply -/

/-- The model gave no reply in the conversation. -/
def Event.isUnanswered : Event → Bool
  | modelAsked .conversation _ (.error _) => true
  | _ => false

/-- How often the model gave no reply in the conversation. -/
def unanswered (log : List Event) : Nat :=
  log.countP Event.isUnanswered

/-- The session is over because the model gave no reply in the conversation. -/
def Session.endsUnanswered (s : Session) : Bool :=
  match s.stage with
  | .ended (.aborted (.llm _)) => s.log.getLast?.any Event.isUnanswered
  | _ => false

/-- Only a session that waits may be over. -/
def Juncture.endsUnanswered : Juncture → Bool
  | waiting s => s.endsUnanswered
  | _ => false

/-- In the conversation the model gives a reply or none. -/
theorem callsFor_conversation (log : List Event) :
    callsFor .conversation log = (replies log).length + unanswered log := by
  unfold callsFor replies unanswered
  induction log with
  | nil => rfl
  | cons e log ih =>
    rw [List.countP_cons, List.countP_cons, List.filterMap_cons, ih]
    rcases e with ⟨purpose, asked, why | reply⟩ | _ | _ | _
    · cases purpose <;> simp [Event.asksModelFor, Event.reply?, Event.isUnanswered, Nat.add_assoc]
    · cases purpose <;> simp [Event.asksModelFor, Event.reply?, Event.isUnanswered]
      omega
    · rfl
    · rfl
    · rfl

theorem Hears.unanswered_eq {s : Session} {e : Event} {p : Juncture} (h : Hears s e p) :
    unanswered p.session.log = unanswered s.log + unanswered [e] :=
  h.countP fun _ => rfl

theorem Move.unanswered_eq {p q : Juncture} (h : Move p q) :
    unanswered q.session.log = unanswered p.session.log :=
  h.countP fun _ => rfl

/-- Whoever hears an answer is not over. -/
theorem Hears.goesOn {s : Session} {e : Event} {p : Juncture} (h : Hears s e p) :
    s.stage.ending? = none := by
  cases h with
  | taskFailed stage | taskLeft stage | taskPut stage | replyFailed stage | feedbackReply stage
  | automatedReply stage | nudged stage | nudgedLast stage | interactiveReply stage
  | askedAgain stage | askedLast stage | solved stage | unsolvedRepair stage | unsolvedAbort stage
  | unsolvedRefine stage | repairFailed stage | repaired stage | unrepaired stage
  | judgementFailed stage | approved stage | turnedDown stage | wordFailed stage
  | wordMissing stage | wordGiven stage | wordUnclear stage =>
    rw [stage]
    rfl

theorem endsUnanswered_of_goesOn {s : Session} (goesOn : s.stage.ending? = none) :
    s.endsUnanswered = false := by
  unfold endsUnanswered
  cases stage : s.stage with
  | ended ending =>
    rw [stage] at goesOn
    cases goesOn
  | _ => rfl

/-- A call without a reply ends the session, and nothing else ends it so. -/
theorem Hears.endsUnanswered {s : Session} {e : Event} {p : Juncture} (h : Hears s e p) :
    unanswered [e] = p.endsUnanswered.toNat := by
  cases h with
  | replyFailed | repairFailed | judgementFailed =>
    simp [Juncture.endsUnanswered, Session.endsUnanswered, abort, finish, goTo, recordReply,
      recordRepair, recordJudgement, record, unanswered, Event.isUnanswered]
  | _ => rfl

theorem Move.endsUnanswered {p q : Juncture} (h : Move p q) :
    p.endsUnanswered = false ∧ q.endsUnanswered = false := by
  cases h with
  | unreadable extracted =>
    obtain ⟨detail, rfl⟩ := Specification.eq_extraction_of_extract extracted
    exact ⟨rfl, rfl⟩
  | _ => exact ⟨rfl, rfl⟩

/-- At most one call is without a reply, and then the session is over. -/
theorem Invariant.countsUnanswered (mission : Mission) :
    Invariant mission fun p => unanswered p.session.log = p.endsUnanswered.toNat where
  begins := rfl
  hears := by
    intro s e p hs step
    have none : unanswered s.log = 0 := by
      rw [show unanswered s.log = s.endsUnanswered.toNat from hs,
        endsUnanswered_of_goesOn step.goesOn]
      rfl
    rw [step.unanswered_eq, none, Nat.zero_add, step.endsUnanswered]
  moves := by
    intro p q hp step
    obtain ⟨before, after⟩ := step.endsUnanswered
    rw [step.unanswered_eq, hp, before, after]

/-- No reply is awaited once the session is over. -/
theorem unawaited_of_ending {stage : Stage} (finished : stage.ending?.isSome = true) :
    stage.repairsAwaited = 0 ∧ stage.judgementsAwaited = 0 := by
  cases stage with
  | ended ending => exact ⟨rfl, rfl⟩
  | _ => cases finished

/-! ## Counters of 32 bits -/

/-- A budget that is kept in words of 32 bits. -/
structure WordBudget where
  count : UInt32
  limit : UInt32
  deriving Repr, DecidableEq

/-- The budget after one more attempt, if one is left. The sum may wrap around. -/
def WordBudget.spend? (b : WordBudget) : Option WordBudget :=
  if b.count < b.limit then some { b with count := b.count + 1 } else none

/-- The words for a budget. -/
def Budget.words (b : Budget) : WordBudget :=
  ⟨.ofNat b.count, .ofNat b.limit⟩

/-- The words for a budget tell how many attempts were made, and the next one is permitted
and counted in words as it is without them. -/
structure Budget.FitsWords (b : Budget) : Prop where
  count : b.words.count.toNat = b.count
  spend : b.words.spend? = b.spend?.map Budget.words

theorem Budget.toNat_count_words {b : Budget} (fits : b.limit < 2 ^ 32) :
    b.words.count.toNat = b.count :=
  UInt32.toNat_ofNat_of_lt' (Nat.lt_of_le_of_lt b.count_le_limit fits)

theorem Budget.fitsWords {b : Budget} (fits : b.limit < 2 ^ 32) : b.FitsWords where
  count := toNat_count_words fits
  spend := by
    have limit : b.words.limit.toNat = b.limit := UInt32.toNat_ofNat_of_lt' fits
    have left : b.words.count < b.words.limit ↔ b.count < b.limit := by
      rw [UInt32.lt_iff_toNat_lt, toNat_count_words fits, limit]
    unfold WordBudget.spend? Budget.spend?
    by_cases permitted : b.count < b.limit
    · rw [if_pos (left.mpr permitted), dif_pos permitted, Option.map_some, words, words,
        UInt32.ofNat_add]
      rfl
    · rw [if_neg (mt left.mp permitted), dif_neg permitted, Option.map_none]

/-- A counter of 32 bits that starts from zero and is raised with every
call for this purpose. -/
def wordCount (purpose : Purpose) (log : List Event) : UInt32 :=
  log.foldl (fun n e => if e.asksModelFor purpose then n + 1 else n) 0

theorem wordCount_eq (purpose : Purpose) (log : List Event) :
    wordCount purpose log = .ofNat (callsFor purpose log) := by
  induction log using List.reverseRecOn with
  | nil => rfl
  | append_singleton log e ih =>
    rw [wordCount] at ih
    rw [wordCount, callsFor, List.foldl_append, ih, List.countP_append, List.countP_singleton]
    cases asks : e.asksModelFor purpose <;> simp [asks, callsFor]

/-- Such a counter tells the calls, and with them the attempts that a
budget has counted. -/
theorem wordCount_of_fits {purpose : Purpose} {log : List Event} {b : Budget} {awaited : Nat}
    (fits : b.limit < 2 ^ 32) (counted : callsFor purpose log + awaited = b.count) :
    (wordCount purpose log).toNat = callsFor purpose log ∧
      (wordCount purpose log).toNat + awaited = b.count := by
  have few : callsFor purpose log < 2 ^ 32 := by
    have within := b.count_le_limit
    omega
  have told : (wordCount purpose log).toNat = callsFor purpose log := by
    rw [wordCount_eq, UInt32.toNat_ofNat_of_lt' few]
  exact ⟨told, told ▸ counted⟩

/-! ## Main result -/

/-- When a session is over, every call of the model was a reply among its messages, a
repair or a judgement that was counted, whatever came of it, or the call for want of which
the session is over. The attempts of all legs together are within the limits, and none is
made of what is switched off. So words of 32 bits are enough for limits that fit them: the
budgets can be kept in them, and a counter that is raised with every call never wraps and
tells the attempts that its budget has counted, but for the one whose reply is awaited. -/
theorem calls_accounted (mission : Mission) (answers : List Answer) :
    let s := Session.after mission answers
    let r := mission.rules
    (s.stage.ending?.isSome = true →
      modelCalls s.log = s.result.messages.countP (·.role == .assistant) +
        s.result.repairs + s.result.judgements + (if s.endsUnanswered then 1 else 0) ∧
      callsFor .repair s.log = s.result.repairs ∧
      callsFor .judgement s.log = s.result.judgements) ∧
    s.result.repairs ≤ r.repairsPermitted ∧ s.result.judgements ≤ r.judgementsPermitted ∧
    (r.repairLimit < 2 ^ 32 → s.repair.budget.FitsWords ∧
      (wordCount .repair s.log).toNat = callsFor .repair s.log ∧
      (wordCount .repair s.log).toNat + s.stage.repairsAwaited = s.repair.budget.count) ∧
    (r.judgeLimit < 2 ^ 32 → s.judge.budget.FitsWords ∧
      (wordCount .judgement s.log).toNat = callsFor .judgement s.log ∧
      (wordCount .judgement s.log).toNat + s.stage.judgementsAwaited =
        s.judge.budget.count) := by
  intro s r
  have same : s.rules = r := congrArg Mission.rules (mission_after mission answers)
  have equipped : Equipped s := (Invariant.equipped mission).after answers
  have attempts : Attempts (.waiting s) := (Invariant.attempts mission).after answers
  have repairs : callsFor .repair s.log + s.stage.repairsAwaited = s.result.repairs :=
    attempts.repairs
  have judgements : callsFor .judgement s.log + s.stage.judgementsAwaited = s.result.judgements :=
    attempts.judgements
  refine ⟨fun finished => ?_, ?_, ?_, fun small => ?_, fun small => ?_⟩
  · -- nobody is waited for any more
    obtain ⟨noRepair, noJudgement⟩ := unawaited_of_ending finished
    have retells : Retells s.mission s.log s.result.messages :=
      (Invariant.retells mission).after answers
    have said := retells.countP_assistant
    have lost : unanswered s.log = s.endsUnanswered.toNat :=
      (Invariant.countsUnanswered mission).after answers
    refine ⟨?_, by omega, by omega⟩
    rw [modelCalls_eq, callsFor_conversation, said, lost, Bool.toNat]
    cases s.endsUnanswered <;> simp only [cond, Bool.false_eq_true, if_true, if_false] <;> omega
  · exact same ▸ (count_le_permitted equipped attempts).1
  · exact same ▸ (count_le_permitted equipped attempts).2
  · have fits : s.repair.budget.limit < 2 ^ 32 := by rwa [equipped.repairLimit, same]
    exact ⟨Budget.fitsWords fits, wordCount_of_fits fits repairs⟩
  · have fits : s.judge.budget.limit < 2 ^ 32 := by
      rw [equipped.judgeLimit, same]
      split <;> omega
    exact ⟨Budget.fitsWords fits, wordCount_of_fits fits judgements⟩

end Sortie
