import Mathlib.Data.List.Forall2
import Sortie.Proofs.Session.Bounds
import Sortie.Session.Result
/-!
# What becomes of the prose of the checkers

The model repairs specifications and judges legs in conversations of their own. Of a repair
the session takes the specification, of a judgement that accepts only that it does. Two
replies with the same decision are alike, and two sessions that were given alike replies
are echoes of each other: they differ in nothing but what has been recorded and printed. So
they ask the same and come to the same, however long they are.
-/

namespace Sortie

open Session

/-! ## Alike replies -/

/-- Two replies to a request with this purpose come to the same. In the
conversation every word counts, and so it does in a judgement that turns a leg
down, as the model is told why. -/
def Purpose.SameDecision : Purpose → String → String → Prop
  | conversation, reply, reply' => reply = reply'
  | repair, reply, reply' => Specification.extract reply = Specification.extract reply'
  | judgement, reply, reply' =>
    (readVerdict? reply = some true ∧ readVerdict? reply' = some true) ∨ reply = reply'

/-- Two answers of the model come to the same: both failed in the same way, or both are
replies with the same decision. -/
inductive Purpose.Alike (purpose : Purpose) : Except String String → Except String String → Prop
  | failed (e : String) : Alike purpose (.error e) (.error e)
  | replied {reply reply' : String} (same : purpose.SameDecision reply reply') :
      Alike purpose (.ok reply) (.ok reply')

theorem Purpose.Alike.refl (purpose : Purpose) (reply : Except String String) :
    purpose.Alike reply reply := by
  cases reply with
  | error e => exact .failed e
  | ok reply =>
    cases purpose with
    | conversation | repair => exact .replied rfl
    | judgement => exact .replied (.inr rfl)

/-- What happened in one session is what happened in another, but for
the prose of a checker. -/
inductive Event.Alike : Event → Event → Prop
  | refl (e : Event) : Alike e e
  | asked {purpose : Purpose} (messages : List Message) {reply reply' : Except String String}
      (alike : purpose.Alike reply reply') :
      Alike (.modelAsked purpose messages reply) (.modelAsked purpose messages reply')
  | repairNoted {reply reply' : String} (same : Purpose.repair.SameDecision reply reply') :
      Alike (.printed (SyntaxRepair.note reply)) (.printed (SyntaxRepair.note reply'))
  | judgementNoted {reply reply' : String} (same : Purpose.judgement.SameDecision reply reply') :
      Alike (.printed (Judge.note reply)) (.printed (Judge.note reply'))

/-- A session differs from another in the prose of the checkers at most, and that prose is
nowhere but in the log. -/
inductive Session.Echoes (s : Session) : Session → Prop
  | of_log {log : List Event} (alike : List.Forall₂ Event.Alike s.log log) : Echoes s { s with log }

/-! ## Each step of a session carries an echo on -/

namespace Session.Echoes

variable {s t : Session}

theorem refl (s : Session) : s.Echoes s :=
  .of_log (List.forall₂_same.mpr fun e _ => .refl e)

theorem alike (h : s.Echoes t) : List.Forall₂ Event.Alike s.log t.log := by
  cases h with
  | of_log alike => exact alike

theorem progress (h : s.Echoes t) : t.toProgress = s.toProgress := by
  cases h
  rfl

theorem mission (h : s.Echoes t) : t.mission = s.mission := by
  cases h
  rfl

theorem judge (h : s.Echoes t) : t.judge = s.judge := by
  cases h
  rfl

theorem stage (h : s.Echoes t) : t.stage = s.stage :=
  congrArg Progress.stage h.progress

theorem rules (h : s.Echoes t) : t.rules = s.rules :=
  congrArg Mission.rules h.mission

theorem query (h : s.Echoes t) : t.query = s.query := by
  cases h
  rfl

theorem result (h : s.Echoes t) : t.result = s.result := by
  cases h
  rfl

theorem record (h : s.Echoes t) {e e' : Event} (same : e.Alike e') :
    (s.record e).Echoes (t.record e') := by
  cases h with
  | of_log alike => exact .of_log (List.rel_append alike (.cons same .nil))

theorem say (h : s.Echoes t) (line : String) : (s.say line).Echoes (t.say line) :=
  h.record (.refl _)

theorem push (h : s.Echoes t) (m : Message) : (s.push m).Echoes (t.push m) := by
  cases h with
  | of_log alike => exact .of_log alike

theorem goTo (h : s.Echoes t) (stage : Stage) : (s.goTo stage).Echoes (t.goTo stage) := by
  cases h with
  | of_log alike => exact .of_log alike

theorem finish (h : s.Echoes t) (ending : Ending) : (s.finish ending).Echoes (t.finish ending) :=
  h.goTo _

theorem abort (h : s.Echoes t) (fault : Fault) : (s.abort fault).Echoes (t.abort fault) :=
  h.finish _

theorem fly (h : s.Echoes t) (leg : Trajectory) : (s.fly leg).Echoes (t.fly leg) := by
  unfold Session.fly
  cases h with
  | of_log alike =>
    cases leg.last? with
    | none => exact .of_log alike
    | some last => exact (of_log (s := { s with trajectory := _, start := last }) alike).say _

theorem solve (h : s.Echoes t) (spec : Specification) (repaired : Bool) :
    (s.solve spec repaired).Echoes (t.solve spec repaired) := by
  have said := (h.say ("Extracted specification: " ++ spec.text)).alike
  cases h with
  | of_log alike => exact .of_log said

theorem readReply (h : s.Echoes t) : s.readReply.Echoes t.readReply := by
  unfold Session.readReply
  cases h with
  | of_log alike =>
    dsimp only
    cases Specification.extract (s.conversation.lastReply?.getD "") with
    | error fault => exact (of_log alike).abort fault
    | ok spec => exact (of_log (s := { s with feedbackDue := false }) alike).solve spec false

theorem instruct (h : s.Echoes t) : s.instruct.Echoes t.instruct := by
  unfold Session.instruct
  rw [h.progress, h.rules, h.mission]
  dsimp only
  split
  · split
    · exact (h.say _).push _
    · exact h.push _
  · exact h

theorem putTask (h : s.Echoes t) : s.putTask.Echoes t.putTask := by
  unfold Session.putTask
  rw [h.mission]
  exact (h.say _).push _

/-- A turn begins alike once the model is instructed. -/
theorem beginTurn (h : s.Echoes t) : s.beginTurn.Echoes t.beginTurn := by
  unfold Session.beginTurn
  -- what has been said by now does not matter any more
  generalize s.instruct = s', t.instruct = t', h.instruct = h
  dsimp only
  rw [h.progress, h.rules]
  split
  · exact (h.push _).goTo _
  · split
    · split
      · exact h.putTask.readReply
      · exact h.putTask.goTo _
    · split
      · exact (h.say _).readReply
      · exact (h.say _).goTo _

theorem heardTask (h : s.Echoes t) (more : Nat) (line : Operator.Line) :
    (s.heardTask more line).Echoes (t.heardTask more line) := by
  unfold Session.heardTask
  split
  · exact h.abort _
  · exact (h.say _).finish _
  · split
    · exact (h.say _).finish _
    · exact (h.push _).goTo _

theorem afterReply (h : s.Echoes t) (reply : String) (turn : Turn) :
    (s.afterReply reply turn).Echoes (t.afterReply reply turn) := by
  unfold Session.afterReply
  cases turn with
  | feedback => exact h.readReply
  | automated more =>
    dsimp only
    split
    · exact h.readReply
    · cases more with
      | zero => exact (h.push _).readReply
      | succ more => exact (h.push _).goTo _
  | interactive more =>
    dsimp only
    split
    · exact h.readReply
    · cases more with
      | zero => exact h.readReply
      | succ more => exact h.goTo _

theorem heardReply (h : s.Echoes t) (turn : Turn) (reply : Except String String) :
    (s.heardReply turn reply).Echoes (t.heardReply turn reply) := by
  cases reply with
  | error e => exact h.abort _
  | ok reply => exact ((h.say _).push _).afterReply reply turn

theorem requestRepair (h : s.Echoes t) (spec : Specification) :
    (s.requestRepair spec).Echoes (t.requestRepair spec) := by
  unfold Session.requestRepair
  cases h with
  | of_log alike =>
    dsimp only
    cases s.repair.begin with
    | error fault => exact (of_log alike).abort fault
    | ok repair => exact (of_log (s := { s with repair }) alike).goTo _

/-- The prose round a repaired specification is printed, and that is all. -/
theorem heardRepair (h : s.Echoes t) (spec : Specification) {reply reply' : Except String String}
    (alike : Purpose.repair.Alike reply reply') :
    (s.heardRepair spec reply).Echoes (t.heardRepair spec reply') := by
  unfold Session.heardRepair
  cases alike with
  | failed e => exact h.abort _
  | @replied reply reply' same =>
    have said := h.record (.repairNoted same)
    have extracted : Specification.extract reply = Specification.extract reply' := same
    dsimp only [SyntaxRepair.conclude]
    rw [← extracted]
    split
    · exact said.solve _ true
    · exact said.requestRepair spec
    · exact said.abort _

theorem solverFailed (h : s.Echoes t) (spec : Specification) (reason : String) :
    (s.solverFailed spec reason).Echoes (t.solverFailed spec reason) := by
  unfold Session.solverFailed
  rw [h.rules]
  split
  · exact h.requestRepair spec
  · split
    · exact h.abort _
    · exact (h.say _).beginTurn

theorem settle (h : s.Echoes t) (leg : Trajectory) (accepted : Bool) :
    (s.settle leg accepted).Echoes (t.settle leg accepted) := by
  unfold Session.settle
  rw [h.rules, h.judge]
  split
  · split
    · exact (h.fly leg).finish _
    · exact (h.fly leg).beginTurn
  · exact h.beginTurn

theorem afterJudgement (h : s.Echoes t) (leg : Trajectory) (accepted : Bool) :
    (s.afterJudgement leg accepted).Echoes (t.afterJudgement leg accepted) := by
  unfold Session.afterJudgement
  rw [h.rules]
  split
  · exact h.goTo _
  · exact h.settle leg accepted

theorem feedBack (h : s.Echoes t) (note : String) : (s.feedBack note).Echoes (t.feedBack note) := by
  cases h with
  | of_log alike => exact .of_log alike

/-- The prose round an acceptance is not heeded. A rejection is told word by word, but
there the replies are the same. -/
theorem heardJudgement (h : s.Echoes t) (leg : Trajectory) {reply reply' : Except String String}
    (alike : Purpose.judgement.Alike reply reply') :
    (s.heardJudgement leg reply).Echoes (t.heardJudgement leg reply') := by
  unfold Session.heardJudgement
  cases alike with
  | failed e => exact h.abort _
  | @replied reply reply' same =>
    have said := h.record (.judgementNoted same)
    dsimp only [Judge.conclude, Judge.read]
    rcases same with ⟨accepts, accepts'⟩ | rfl
    · rw [if_pos accepts, if_pos accepts']
      exact said.afterJudgement leg true
    · split
      · rename_i concluded
        cases concluded
      · exact (said.feedBack _).afterJudgement leg false
      · exact said.afterJudgement leg true

theorem requestJudgement (h : s.Echoes t) (leg : Trajectory) :
    (s.requestJudgement leg).Echoes (t.requestJudgement leg) := by
  unfold Session.requestJudgement
  cases h with
  | of_log alike =>
    dsimp only
    cases s.mission.scenario.verdict leg with
    | error fault => exact (of_log alike).abort fault
    | ok verdict =>
      cases s.judge.begin? with
      | none => exact (of_log alike).afterJudgement leg true
      | some judge => exact (of_log (s := { s with judge }) alike).goTo _

theorem heardOutcome (h : s.Echoes t) (spec : Specification) (outcome : Outcome) :
    (s.heardOutcome spec outcome).Echoes (t.heardOutcome spec outcome) := by
  unfold Session.heardOutcome
  split
  · exact h.requestJudgement _
  · exact h.solverFailed spec _

theorem heardWord (h : s.Echoes t) (leg : Trajectory) (line : Operator.Line) :
    (s.heardWord leg line).Echoes (t.heardWord leg line) := by
  unfold Session.heardWord
  split
  · exact h.abort _
  · exact h.settle leg false
  · split
    · exact h.settle leg _
    · exact h.say _

theorem hear (h : s.Echoes t) (answer : Answer) : (s.hear answer).Echoes (t.hear answer) := by
  unfold Session.hear
  rw [h.stage]
  split
  · exact h.heardTask _ _
  · exact h.heardReply _ _
  · exact h.heardOutcome _ _
  · exact h.heardRepair _ (.refl _ _)
  · exact h.heardJudgement _ (.refl _ _)
  · exact h.heardWord _ _
  · exact h

theorem hear_reply (h : s.Echoes t) {purpose : Purpose} {messages : List Message}
    (asks : s.query = some (.model purpose messages)) {reply reply' : Except String String}
    (alike : purpose.Alike reply reply') :
    (s.hear (.reply reply)).Echoes (t.hear (.reply reply')) := by
  unfold Session.query at asks
  unfold Session.hear
  rw [h.stage]
  cases stage : s.stage with
  | reply turn =>
    rw [stage] at asks
    cases asks
    cases alike with
    | failed e => exact h.heardReply turn (.error e)
    | replied same =>
      cases same
      exact h.heardReply turn (.ok _)
  | repairing spec =>
    rw [stage] at asks
    cases asks
    exact h.heardRepair spec alike
  | judging leg =>
    rw [stage] at asks
    cases asks
    exact h.heardJudgement leg alike
  | opening | task more | solving spec repaired | confirming leg | ended ending =>
    rw [stage] at asks
    cases asks

/-- Two sessions that are echoes stay echoes when they are given the same answer. -/
theorem resume (h : s.Echoes t) (answer : Answer) : (s.resume answer).Echoes (t.resume answer) := by
  unfold Session.resume
  rw [h.query]
  split
  · exact (h.record (.refl _)).hear answer
  · exact h

/-- Two sessions that are echoes stay echoes when they are given replies that come to the
same. -/
theorem resume_reply (h : s.Echoes t) {purpose : Purpose} {messages : List Message}
    (asks : s.query = some (.model purpose messages)) {reply reply' : Except String String}
    (alike : purpose.Alike reply reply') :
    (s.resume (.reply reply)).Echoes (t.resume (.reply reply')) := by
  unfold Session.resume
  rw [h.query, asks]
  exact (h.record (.asked messages alike)).hear_reply asks alike

end Session.Echoes

/-! ## Two runs -/

/-- The world with a model that gives these replies, one call after the other. -/
def World.replying {σ : Type} (w : World (StateM σ)) (replies : Nat → Except String String) :
    World (StateM (Nat × σ)) where
  model _ := fun (calls, env) => (replies calls, calls + 1, env)
  solver request := fun (calls, env) =>
    let (outcome, env) := (w.solver request).run env
    (outcome, calls, env)
  operator prompt := fun (calls, env) =>
    let (line, env) := (w.operator prompt).run env
    (line, calls, env)

/-- What the model was asked for. -/
def Event.purpose? : Event → Option Purpose
  | modelAsked purpose _ _ => some purpose
  | _ => none

/-- What the model was asked for in a session, call by call. -/
def purposes (log : List Event) : List Purpose :=
  log.filterMap Event.purpose?

def Event.query? : Event → Option Query
  | modelAsked purpose messages _ => some (.model purpose messages)
  | solverAsked request _ => some (.solver request)
  | operatorAsked prompt _ => some (.operator prompt)
  | printed _ => none

/-- What was asked in a session, in order. -/
def queries (log : List Event) : List Query :=
  log.filterMap Event.query?

/-- Alike events ask the same. -/
theorem queries_of_alike {log log' : List Event} (h : List.Forall₂ Event.Alike log log') :
    queries log' = queries log := by
  unfold queries
  induction h with
  | nil => rfl
  | cons alike _ ih =>
    rw [List.filterMap_cons, List.filterMap_cons, ih]
    cases alike <;> rfl

/-- What has been recorded stays. -/
theorem log_prefix_resume (s : Session) (answer : Answer) : s.log <+: (s.resume answer).log := by
  rcases resume_eq s answer with ⟨-, same⟩ | ⟨e, p, fits, -, -⟩
  · exact ⟨[], by rw [same, List.append_nil]⟩
  · obtain ⟨lines, hlog⟩ := log_resume fits
    exact ⟨[e] ++ lines.map .printed, by rw [hlog, List.append_assoc]⟩

theorem log_prefix_run {σ : Type} (w : World (StateM σ)) (questions : Nat) (s : Session) (env : σ) :
    s.log <+: ((run w questions s).run env).1.log :=
  run_keeps (P := fun t _ => s.log <+: t.log)
    (fun t _ _ _ h => h.trans (log_prefix_resume t _)) questions List.prefix_rfl

theorem purposes_resume {s : Session} {answer : Answer} {e : Event}
    (fits : s.query.bind (·.answered? answer) = some e) :
    purposes (s.resume answer).log = purposes s.log ++ e.purpose?.toList :=
  filterMap_log_resume (fun _ => rfl) fits

theorem getElem?_of_concat_prefix {α : Type} {l l' : List α} {a : α} {n : Nat}
    (length : n = l.length) (h : l ++ [a] <+: l') : l'[n]? = some a := by
  obtain ⟨later, rfl⟩ := h
  rw [length, List.append_assoc, List.getElem?_append_right (Nat.le_refl _), Nat.sub_self]
  rfl

/-- Two runs stay echoes as long as each reply that the first is given is alike the one
that the second is given. -/
theorem Session.Echoes.run {σ : Type} {w : World (StateM σ)}
    {replies replies' : Nat → Except String String} (questions : Nat) {s t : Session}
    (h : s.Echoes t) {calls : Nat}
    (counted : calls = (purposes s.log).length) (env : σ)
    (alike : ∀ (call : Nat) (purpose : Purpose),
      (purposes ((Session.run (w.replying replies) questions s).run (calls, env)).1.log)[call]? =
        some purpose → purpose.Alike (replies call) (replies' call)) :
    ((Session.run (w.replying replies) questions s).run (calls, env)).1.Echoes
      ((Session.run (w.replying replies') questions t).run (calls, env)).1 := by
  induction questions generalizing s t calls env with
  | zero => exact h
  | succ questions ih =>
    cases ending : s.stage.ending? with
    | some how =>
      rw [run_of_ending _ _ ending, run_of_ending _ _ (h.stage ▸ ending)]
      exact h
    | none =>
      have ending' : t.stage.ending? = none := h.stage ▸ ending
      cases asks : s.query with
      | none =>
        rw [run_of_no_query _ _ ending asks] at alike ⊢
        rw [run_of_no_query _ _ ending' (h.query.trans asks)]
        exact ih h counted env alike
      | some q =>
        rw [run_of_query _ _ ending asks] at alike ⊢
        rw [run_of_query _ _ ending' (h.query.trans asks)]
        cases q with
        | model purpose messages =>
          have asked : purposes (s.resume (.reply (replies calls))).log =
              purposes s.log ++ [purpose] :=
            purposes_resume (e := .modelAsked purpose messages (replies calls)) (by rw [asks]; rfl)
          have this : purpose.Alike (replies calls) (replies' calls) := by
            -- the rest of the run only adds to what was asked, so this
            -- call keeps its place
            refine alike calls purpose ?_
            have goesOn := (log_prefix_run (w.replying replies) questions
              (s.resume (.reply (replies calls))) (calls + 1, env)).filterMap Event.purpose?
            exact getElem?_of_concat_prefix counted (asked ▸ goesOn)
          exact ih (h.resume_reply asks this) (by rw [asked, counted, List.length_append]; rfl) env
            alike
        | solver request =>
          let outcome := ((w.solver request).run env).1
          have asked : purposes (s.resume (.outcome outcome)).log = purposes s.log ++ [] :=
            purposes_resume (e := .solverAsked request outcome) (by rw [asks]; rfl)
          exact ih (h.resume (.outcome outcome)) (by rw [asked, counted, List.append_nil])
            ((w.solver request).run env).2 alike
        | operator prompt =>
          let line := ((w.operator prompt).run env).1
          have asked : purposes (s.resume (.line line)).log = purposes s.log ++ [] :=
            purposes_resume (e := .operatorAsked prompt line) (by rw [asks]; rfl)
          exact ih (h.resume (.line line)) (by rw [asked, counted, List.append_nil])
            ((w.operator prompt).run env).2 alike

/-! ## Main result -/

/-- Take two runs of a mission with the same solver and the same operator, whose models
give replies that come to the same, call by call. Both ask the same, in the same order, and
come to the same; what happens in them differs in the prose of the checkers at most. -/
theorem prose_of_checkers_is_unheeded {σ : Type} (w : World (StateM σ)) (env : σ)
    (mission : Mission) (questions : Nat) (replies replies' : Nat → Except String String) :
    let s := ((run (w.replying replies) questions (begin mission)).run (0, env)).1
    let t := ((run (w.replying replies') questions (begin mission)).run (0, env)).1
    (∀ (call : Nat) (purpose : Purpose), (purposes s.log)[call]? = some purpose →
      purpose.Alike (replies call) (replies' call)) →
    queries t.log = queries s.log ∧ t.result = s.result ∧
      List.Forall₂ Event.Alike s.log t.log := by
  intro s t alike
  have unasked : purposes (begin mission).log = [] := filterMap_log_begin (fun _ => rfl) mission
  have echoes : s.Echoes t :=
    (Echoes.refl (begin mission)).run questions (by rw [unasked]; rfl) env alike
  exact ⟨queries_of_alike echoes.alike, echoes.result, echoes.alike⟩

/-- The solver cannot use the first specification, and finds a leg to
the goal for the second. -/
def secondTryWorld : World (StateM Nat) where
  model _ := pure (.error "unreachable")
  solver _ := fun calls =>
    (if calls = 0 then .infeasible "no formula"
      else .feasible ⟨[.atRest 0 0 0, .atRest 4.5 4.5 0.5]⟩ [], calls + 1)
  operator _ := pure (.ok none)

/-- A specification, its repair and a judgement, in as few words as possible. -/
def tersely : Nat → Except String String
  | 0 => .ok "<gaol>"
  | 1 => .ok "<goal>"
  | _ => .ok "<accepted>"

/-- What is said tersely, in more words. -/
def politely : Nat → Except String String
  | 0 => .ok "<gaol>"
  | 1 => .ok "I beg your pardon: <goal>"
  | _ => .ok "How well it flies! <accepted>"

/-- Both sessions reach the goal, though one of them prints more. -/
theorem politeness_is_unheeded :
    let s := ((run (secondTryWorld.replying tersely) 5 (begin (openMission .sparing))).run (0, 0)).1
    let t := ((run (secondTryWorld.replying politely) 5
      (begin (openMission .sparing))).run (0, 0)).1
    s.result.status = .completed ∧ s.console ≠ t.console ∧
      queries t.log = queries s.log ∧ t.result = s.result := by
  have asked : purposes ((run (secondTryWorld.replying tersely) 5
    (begin (openMission .sparing))).run (0, 0)).1.log = [.conversation, .repair, .judgement] := rfl
  obtain ⟨sameQueries, sameResult, -⟩ :=
    prose_of_checkers_is_unheeded secondTryWorld 0 (openMission .sparing) 5 tersely politely (by
      intro call purpose called
      rw [asked] at called
      match call, called with
      | 0, rfl => exact .replied rfl
      | 1, rfl => exact .replied rfl
      | 2, rfl => exact .replied (.inl ⟨rfl, rfl⟩))
  exact ⟨rfl, by decide +kernel, sameQueries, sameResult⟩

end Sortie
