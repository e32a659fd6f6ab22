import Sortie.Proofs.Session.Legs
/-!
# How the check of a leg ends

A leg that was found is judged, and then perhaps put to the operator, who may be asked
several times. The check ends where the judge fails, with the judgement, or with the
operator's answer. `Juncture.pastLegs` are the legs that have come so far, and one lemma
for answers and one for moves say how another leg joins them.
-/

namespace Sortie

open Session

/-! ## Confirmations -/

/-- The lines of a confirmation, and what it comes to. A line that is neither yes nor no
once it is trimmed and lowered is followed by another one. The end of the input is a no. -/
inductive Confirmation : List Operator.Line → Except String Bool → Prop
  | yes {line : String} (said : Text.lower (Text.trim line) = "y") :
      Confirmation [.ok (some line)] (.ok true)
  | no {line : String} (said : Text.lower (Text.trim line) = "n") :
      Confirmation [.ok (some line)] (.ok false)
  | inputEnded : Confirmation [.ok none] (.ok false)
  | failed (e : String) : Confirmation [.error e] (.error e)
  | unclear {line : String} {words : List Operator.Line} {answer : Except String Bool}
      (notYes : Text.lower (Text.trim line) ≠ "y") (notNo : Text.lower (Text.trim line) ≠ "n")
      (rest : Confirmation words answer) : Confirmation (.ok (some line) :: words) answer

theorem Operator.answer?_eq_none_iff (line : String) : answer? line = none ↔
    Text.lower (Text.trim line) ≠ "y" ∧ Text.lower (Text.trim line) ≠ "n" := by
  simp only [answer?, Text.readsAs, beq_iff_eq]
  split
  · simp_all
  · split <;> simp_all

theorem Confirmation.of_answer {line : String} {answer : Bool}
    (h : Operator.answer? line = some answer) : Confirmation [.ok (some line)] (.ok answer) := by
  simp only [Operator.answer?, Text.readsAs, beq_iff_eq] at h
  split at h
  · rename_i said
    cases h
    exact .yes said
  · split at h
    · rename_i said
      cases h
      exact .no said
    · cases h

theorem Unclear.confirmation {words more : List Operator.Line} {answer : Except String Bool}
    (h : Unclear words) (last : Confirmation more answer) :
    Confirmation (words ++ more) answer := by
  induction words with
  | nil => exact last
  | cons word rest ih =>
    obtain ⟨line, rfl, unanswered⟩ := h word (by simp)
    obtain ⟨notYes, notNo⟩ := (Operator.answer?_eq_none_iff line).mp unanswered
    exact .unclear notYes notNo (ih fun word hword => h word (by simp [hword]))

/-- The answer of a confirmation is the first one among its lines. -/
theorem Confirmation.confirmation?_eq {words : List Operator.Line} {answer : Except String Bool}
    (h : Confirmation words answer) : confirmation? words = answer.toOption := by
  induction h with
  | yes said => simp [confirmation?, Operator.answer?, Text.readsAs, said]; rfl
  | no said => simp [confirmation?, Operator.answer?, Text.readsAs, said]; rfl
  | inputEnded => rfl
  | failed e => rfl
  | unclear notYes notNo rest ih =>
    rw [confirmation?, (Operator.answer?_eq_none_iff _).mpr ⟨notYes, notNo⟩]
    exact ih

/-! ## Legs that are past their check -/

/-- Of the legs found, those that are past their check: the last one is being
checked at some stages. -/
def Stage.pastLegs (legs : List FoundLeg) : Stage → List FoundLeg
  | judging _ | confirming _ => legs.dropLast
  | _ => legs

/-- The legs that are past their check: nothing more is said about them. -/
def Juncture.pastLegs : Juncture → List FoundLeg
  | found s _ | judged s _ _ => (foundLegs s.rules s.log).dropLast
  | turn s | reading s | repair s _ | settled s _ _ => foundLegs s.rules s.log
  | waiting s => s.stage.pastLegs (foundLegs s.rules s.log)

/-- How an answer ends the check of a leg. -/
inductive FoundLeg.EndsWith (rules : Rules) : Event → FoundLeg → Prop
  | failure {messages : List Message} {e : String} {l : FoundLeg} (unasked : l.words = []) :
      EndsWith rules (.modelAsked .judgement messages (.error e)) (l.withReply (.error e))
  | word {line : Operator.Line} {l : FoundLeg} {answer : Except String Bool}
      (heard : l.isHeard = true) (confirms : rules.confirms = true) (unclear : Unclear l.words)
      (given : Confirmation [line] answer) :
      EndsWith rules (.operatorAsked Operator.confirmPrompt line) (l.withWord line)

/-- The operator's word ends the check of the leg that is being confirmed. -/
theorem Checking.endsWith_word {s : Session} {leg : Trajectory} {line : Operator.Line}
    {answer : Except String Bool} {legs : List FoundLeg}
    (checking : Checking s leg fun l =>
      l.isHeard = true ∧ s.rules.confirms = true ∧ Unclear l.words)
    (given : Confirmation [line] answer)
    (found : legs = (foundLegs s.rules s.log).modifyLast (.withWord line)) :
    ∃ l, FoundLeg.EndsWith s.rules (.operatorAsked Operator.confirmPrompt line) l ∧
      legs = (foundLegs s.rules s.log).dropLast ++ [l] := by
  obtain ⟨before, l, known, -, -, -, heard, confirms, unclear⟩ := checking
  refine ⟨_, .word heard confirms unclear given, ?_⟩
  rw [found, known, List.modifyLast_concat, List.dropLast_concat]

/-- With an answer, the leg that is being checked may be past its check. -/
theorem Hears.pastLegs {s : Session} {e : Event} {p : Juncture}
    (flown : (Juncture.waiting s).FlownSoFar) (h : Hears s e p) :
    p.pastLegs = (Juncture.waiting s).pastLegs ∨
      ∃ l, FoundLeg.EndsWith s.rules e l ∧ p.pastLegs = (Juncture.waiting s).pastLegs ++ [l] := by
  have found := h.foundLegs_eq
  have past : (Juncture.waiting s).pastLegs = s.stage.pastLegs (foundLegs s.rules s.log) := rfl
  simp only [Juncture.FlownSoFar] at flown
  rw [past]
  cases h with
  | taskFailed stage | taskLeft stage | taskPut stage =>
    have other : Operator.taskPrompt ≠ Operator.confirmPrompt := by decide
    simp only [FoundLeg.note, if_neg other] at found
    rw [stage]
    exact .inl found
  | replyFailed stage | feedbackReply stage | automatedReply stage | nudged stage | nudgedLast stage
  | interactiveReply stage | askedAgain stage | askedLast stage | repairFailed stage
  | repaired stage | unrepaired stage =>
    rw [stage]
    exact .inl found
  | unsolvedRepair stage checked | unsolvedAbort stage checked | unsolvedRefine stage checked =>
    simp only [FoundLeg.note, checked] at found
    rw [stage]
    exact .inl found
  | solved stage checked =>
    simp only [FoundLeg.note, checked] at found
    rw [stage]
    exact .inl ((congrArg List.dropLast found).trans List.dropLast_concat)
  | approved stage | turnedDown stage | wordUnclear stage =>
    -- more was said about the leg, and the check goes on
    rw [stage] at flown ⊢
    obtain ⟨before, l, legs, -⟩ := flown
    simp only [FoundLeg.note, if_true] at found
    rw [legs, List.modifyLast_concat] at found
    rw [legs]
    exact .inl ((congrArg List.dropLast found).trans
      (List.dropLast_concat.trans List.dropLast_concat.symm))
  | judgementFailed stage =>
    rw [stage] at flown ⊢
    obtain ⟨before, l, legs, -, -, -, -, -, unasked⟩ := flown
    simp only [FoundLeg.note] at found
    rw [legs, List.modifyLast_concat] at found
    rw [legs]
    exact .inr ⟨_, .failure unasked, found.trans (congrArg (· ++ _) List.dropLast_concat.symm)⟩
  | wordFailed stage =>
    rw [stage] at flown ⊢
    simp only [FoundLeg.note, if_true] at found
    exact .inr (Checking.endsWith_word flown (.failed _) found)
  | wordMissing stage =>
    rw [stage] at flown ⊢
    simp only [FoundLeg.note, if_true] at found
    exact .inr (Checking.endsWith_word flown .inputEnded found)
  | wordGiven stage answer =>
    rw [stage] at flown ⊢
    simp only [FoundLeg.note, if_true] at found
    exact .inr (Checking.endsWith_word flown (.of_answer answer) found)

/-- All have had their say on a leg, and it is about to be flown or dropped. -/
def Juncture.isSettled : Juncture → Bool
  | settled .. => true
  | _ => false

/-- When a session goes on by itself, the leg that was judged is past its check if nobody
else has a say in it. -/
theorem Move.pastLegs {p q : Juncture} (flown : p.FlownSoFar) (step : Move p q) :
    (q.pastLegs = p.pastLegs ∧ q.isSettled = false) ∨
      ∃ s leg accepted l, p = .judged s leg accepted ∧ q = .settled s leg accepted ∧
        s.rules.confirms = false ∧ l.words = [] ∧
        l.isAccepted s.rules = (accepted || (s.rules.automated && !s.rules.judges)) ∧
        q.pastLegs = p.pastLegs ++ [l] := by
  have found := step.foundLegs_eq
  cases step with
  | instruct | instructAloud | nudgeFeedback | putTask | putTaskUnheard | askTask | askTaskUnheard
  | unreadable | read | noRepair | tryRepair | refuse | complete | flyOn =>
    exact .inl ⟨found, rfl⟩
  | unjudged | judge | confirm => exact .inl ⟨congrArg List.dropLast found, rfl⟩
  | @settle s leg accepted confirms =>
    obtain ⟨before, l, legs, -, -, -, heard, rejected, unasked⟩ := flown
    refine .inr ⟨s, leg, accepted, l, rfl, rfl, confirms, unasked, ?_, ?_⟩
    · simp [FoundLeg.isAccepted, FoundLeg.isChecked, heard, rejected, confirms]
    · show foundLegs s.rules s.log = (foundLegs s.rules s.log).dropLast ++ [l]
      rw [legs, List.dropLast_concat]

end Sortie
