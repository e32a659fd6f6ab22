import Mathlib.Data.List.Induction
import Sortie.Proofs.Session.Moves
import Sortie.Session.World
/-!
# Whatever a session is told

A session is its beginning and the answers it was given. `Invariant` is what has to be
shown of a property of junctures so that it holds after all answers. A session that is run
in a world, whatever the world does, is one that was given some answers
(`exists_run_eq_after`).
-/

namespace Sortie

open Session

/-- The session of a mission that was given these answers, one after the other. -/
def Session.after (mission : Mission) (answers : List Answer) : Session :=
  answers.foldl resume (begin mission)

def Juncture.session : Juncture → Session
  | turn s | reading s | repair s _ | found s _ | judged s _ _ | settled s _ _ | waiting s => s

/-- A property of junctures that holds when a mission begins, and that
answers and moves keep. -/
structure Invariant (mission : Mission) (I : Juncture → Prop) : Prop where
  begins : I (.turn (.new mission))
  hears : ∀ {s e p}, I (.waiting s) → Hears s e p → I p
  moves : ∀ {p q}, I p → Move p q → I q

namespace Invariant

variable {mission : Mission} {I J : Juncture → Prop}

theorem moves_of (h : Invariant mission I) {p q : Juncture} (hp : I p) (hpq : Moves p q) :
    I q := by
  induction hpq with
  | refl => exact hp
  | tail _ step ih => exact h.moves ih step

/-- What single moves keep where an invariant holds, chains of moves keep. -/
theorem keeps (h : Invariant mission I) (kept : ∀ {p q}, I p → J p → Move p q → J q)
    {p q : Juncture} (hp : I p) (jp : J p) (hpq : Moves p q) : J q := by
  have both : I q ∧ J q := by
    induction hpq with
    | refl => exact ⟨hp, jp⟩
    | tail _ step ih => exact ⟨h.moves ih.1 step, kept ih.1 ih.2 step⟩
  exact both.2

theorem resume (h : Invariant mission I) {s : Session} (hs : I (.waiting s)) (answer : Answer) :
    I (.waiting (s.resume answer)) := by
  rcases resume_eq s answer with ⟨-, same⟩ | ⟨e, p, -, hears, next⟩
  · rw [same]
    exact hs
  · rw [next]
    exact h.moves_of (h.hears hs hears) (moves_next p)

theorem foldl_resume (h : Invariant mission I) (answers : List Answer) {s : Session}
    (hs : I (.waiting s)) : I (.waiting (answers.foldl Session.resume s)) := by
  induction answers generalizing s with
  | nil => exact hs
  | cons answer rest ih => exact ih (h.resume hs answer)

theorem begin (h : Invariant mission I) : I (.waiting (Session.begin mission)) :=
  h.moves_of h.begins (moves_next _)

/-- An invariant holds of a mission's session after all answers. -/
theorem after (h : Invariant mission I) (answers : List Answer) :
    I (.waiting (Session.after mission answers)) :=
  h.foldl_resume answers h.begin

/-- A property that is kept where an invariant holds, joined to that invariant. -/
theorem and (h : Invariant mission I) (begins : J (.turn (.new mission)))
    (hears : ∀ {s e p}, I (.waiting s) → J (.waiting s) → Hears s e p → J p)
    (moves : ∀ {p q}, I p → J p → Move p q → J q) : Invariant mission fun p => I p ∧ J p where
  begins := ⟨h.begins, begins⟩
  hears hs step := ⟨h.hears hs.1 step, hears hs.1 hs.2 step⟩
  moves hp step := ⟨h.moves hp.1 step, moves hp.1 hp.2 step⟩

theorem both (h : Invariant mission I) (h' : Invariant mission J) :
    Invariant mission fun p => I p ∧ J p :=
  h.and h'.begins (fun _ hs step => h'.hears hs step) (fun _ hp step => h'.moves hp step)

end Invariant

/-! ## Flying a leg -/

namespace Session

variable (s : Session) (leg : Trajectory)

@[simp] theorem fly_mission : (s.fly leg).mission = s.mission := by unfold fly; split <;> rfl

@[simp] theorem fly_conversation : (s.fly leg).conversation = s.conversation := by
  unfold fly; split <;> rfl

@[simp] theorem fly_trajectory : (s.fly leg).trajectory = s.trajectory.append leg := by
  unfold fly; split <;> rfl

@[simp] theorem fly_start : (s.fly leg).start = leg.last?.getD s.start := by
  unfold fly; split <;> simp_all [say, record]

@[simp] theorem fly_specification : (s.fly leg).specification = s.specification := by
  unfold fly; split <;> rfl

@[simp] theorem fly_feedbackDue : (s.fly leg).feedbackDue = s.feedbackDue := by
  unfold fly; split <;> rfl

@[simp] theorem fly_repair : (s.fly leg).repair = s.repair := by unfold fly; split <;> rfl

@[simp] theorem fly_judge : (s.fly leg).judge = s.judge := by unfold fly; split <;> rfl

/-- Flying a leg is no question, but the new position is printed. -/
theorem fly_log : ∃ lines : List String, (s.fly leg).log = s.log ++ lines.map .printed := by
  unfold fly
  split
  · rename_i last _
    exact ⟨[positionNotice last.position], rfl⟩
  · exact ⟨[], by simp⟩

end Session

/-! ## The log -/

/-- An answer is recorded with its question; whatever else is recorded was printed. -/
theorem Hears.log {s : Session} {e : Event} {p : Juncture} (h : Hears s e p) :
    ∃ lines : List String, p.session.log = s.log ++ [e] ++ lines.map .printed := by
  cases h with
  | taskFailed | taskPut | replyFailed | solved | unsolvedRepair | unsolvedAbort | repairFailed
  | judgementFailed | wordFailed | wordMissing | wordGiven =>
    exact ⟨[], by simp; rfl⟩
  | taskLeft | feedbackReply | automatedReply | nudged | nudgedLast | interactiveReply | askedAgain
  | askedLast | unsolvedRefine | unrepaired | approved | turnedDown | wordUnclear =>
    exact ⟨[_], rfl⟩
  | repaired => exact ⟨[_, _], List.append_assoc (s.log ++ [_]) [_] [_]⟩

/-- Nobody is asked while a session goes on by itself. -/
theorem Move.log {p q : Juncture} (h : Move p q) :
    ∃ lines : List String, q.session.log = p.session.log ++ lines.map .printed := by
  cases h with
  | instructAloud | putTask | putTaskUnheard | askTask | askTaskUnheard | read =>
    exact ⟨[_], rfl⟩
  | complete | flyOn => exact fly_log _ _
  | _ => exact ⟨[], by simp; rfl⟩

section Told

variable {α : Type} {f : Event → Option α}

theorem filterMap_printed (printed : ∀ line, f (.printed line) = none) (lines : List String) :
    (lines.map Event.printed).filterMap f = [] := by
  rw [List.filterMap_map]
  exact List.filterMap_eq_nil_iff.mpr fun line _ => printed line

/-- If printed lines tell nothing, only the answer tells more. -/
theorem Hears.filterMap_log {s : Session} {e : Event} {p : Juncture} (h : Hears s e p)
    (printed : ∀ line, f (.printed line) = none) :
    p.session.log.filterMap f = s.log.filterMap f ++ (f e).toList := by
  obtain ⟨lines, hlog⟩ := h.log
  rw [hlog, List.filterMap_append, List.filterMap_append, filterMap_printed printed,
    List.append_nil]
  cases told : f e <;> simp [told]

theorem Move.filterMap_log {p q : Juncture} (h : Move p q)
    (printed : ∀ line, f (.printed line) = none) :
    q.session.log.filterMap f = p.session.log.filterMap f := by
  obtain ⟨lines, hlog⟩ := h.log
  rw [hlog, List.filterMap_append, filterMap_printed printed, List.append_nil]

end Told

/-- Each event of a log is so related to the events before it. -/
def EachAfter (P : List Event → Event → Prop) (log : List Event) : Prop :=
  ∀ before e after, log = before ++ e :: after → P before e

namespace EachAfter

variable {P : List Event → Event → Prop} {log : List Event}

theorem nil : EachAfter P [] := by
  intro before e after h
  simp at h

theorem concat (h : EachAfter P log) {e : Event} (he : P log e) : EachAfter P (log ++ [e]) := by
  intro before e' after same
  rcases List.eq_nil_or_concat after with rfl | ⟨after', last, rfl⟩
  · obtain ⟨rfl, last⟩ := List.append_inj' same rfl
    cases last
    exact he
  · rw [List.concat_eq_append, ← List.cons_append, ← List.append_assoc] at same
    exact h before e' after' (List.append_inj' same rfl).1

theorem append_printed (h : EachAfter P log) (hp : ∀ before line, P before (.printed line))
    (lines : List String) : EachAfter P (log ++ lines.map .printed) := by
  induction lines generalizing log with
  | nil => simpa using h
  | cons line rest ih =>
    rw [List.map_cons, List.append_cons]
    exact ih (h.concat (hp _ line))

end EachAfter

/-! ## The mission -/

theorem Hears.mission {s : Session} {e : Event} {p : Juncture} (h : Hears s e p) :
    p.session.mission = s.mission := by
  cases h <;> rfl

theorem Move.mission {p q : Juncture} (h : Move p q) :
    q.session.mission = p.session.mission := by
  cases h with
  | complete | flyOn => exact fly_mission _ _
  | _ => rfl

/-- A session never changes its mission. -/
theorem Invariant.mission (mission : Mission) :
    Invariant mission fun p => p.session.mission = mission where
  begins := rfl
  hears hs step := step.mission.trans hs
  moves hp step := step.mission.trans hp

@[simp] theorem mission_after (mission : Mission) (answers : List Answer) :
    (Session.after mission answers).mission = mission :=
  (Invariant.mission mission).after answers

/-! ## Who begins turns -/

/-- A turn that the operator began. -/
def Stage.isInteractive : Stage → Bool
  | task _ | reply (.interactive _) => true
  | _ => false

/-- A turn that the scenario's own task began. -/
def Stage.isAutomated : Stage → Bool
  | reply (.automated _) => true
  | _ => false

/-- Turns are begun by whom the rules say. -/
def Juncture.BegunAsRuled : Juncture → Prop
  | waiting s => (s.stage.isInteractive = true → s.rules.automated = false) ∧
    (s.stage.isAutomated = true → s.rules.automated = true)
  | _ => True

theorem Hears.begunAsRuled {s : Session} {e : Event} {p : Juncture}
    (begun : (Juncture.waiting s).BegunAsRuled) (h : Hears s e p) : p.BegunAsRuled := by
  cases h with
  | taskPut stage | askedAgain stage =>
    have automated : s.rules.automated = false := begun.1 (by rw [stage]; rfl)
    exact ⟨fun _ => automated, nofun⟩
  | nudged stage =>
    have automated : s.rules.automated = true := begun.2 (by rw [stage]; rfl)
    exact ⟨nofun, fun _ => automated⟩
  | taskFailed | taskLeft | replyFailed | unsolvedAbort | repairFailed | repaired | judgementFailed
  | wordFailed | wordUnclear => exact ⟨nofun, nofun⟩
  | _ => trivial

theorem Move.begunAsRuled {p q : Juncture} (h : Move p q) : q.BegunAsRuled := by
  cases h with
  | askTask _ _ automated => exact ⟨fun _ => automated, nofun⟩
  | putTask _ _ automated => exact ⟨nofun, fun _ => automated⟩
  | nudgeFeedback | unreadable | read | noRepair | tryRepair | judge | confirm | complete =>
    exact ⟨nofun, nofun⟩
  | _ => trivial

theorem Invariant.begunAsRuled (mission : Mission) : Invariant mission Juncture.BegunAsRuled where
  begins := trivial
  hears hs step := step.begunAsRuled hs
  moves _ step := step.begunAsRuled

/-! ## Runs in a world -/

theorem Moves.log {p q : Juncture} (h : Moves p q) :
    ∃ lines : List String, q.session.log = p.session.log ++ lines.map .printed := by
  induction h with
  | refl => exact ⟨[], by simp⟩
  | tail _ step ih =>
    obtain ⟨lines, hlog⟩ := ih
    obtain ⟨more, hmore⟩ := step.log
    exact ⟨lines ++ more, by rw [hmore, hlog, List.map_append, List.append_assoc]⟩

theorem Moves.mission {p q : Juncture} (h : Moves p q) : q.session.mission = p.session.mission := by
  induction h with
  | refl => rfl
  | tail _ step ih => exact step.mission.trans ih

/-- An answer that fits is recorded with its question, and then some lines are printed. -/
theorem log_resume {s : Session} {answer : Answer} {e : Event}
    (h : s.query.bind (·.answered? answer) = some e) :
    ∃ lines : List String, (s.resume answer).log = s.log ++ [e] ++ lines.map .printed := by
  rcases resume_eq s answer with ⟨unfit, -⟩ | ⟨e', p, fits, hears, next⟩
  · cases unfit.symm.trans h
  · cases fits.symm.trans h
    obtain ⟨lines, hlog⟩ := hears.log
    obtain ⟨more, hmore⟩ := Moves.log (moves_next p)
    have hmore : p.next.log = p.session.log ++ more.map .printed := hmore
    exact ⟨lines ++ more, by rw [next, hmore, hlog, List.map_append, List.append_assoc]⟩

theorem filterMap_log_resume {α : Type} {f : Event → Option α}
    (printed : ∀ line, f (.printed line) = none) {s : Session} {answer : Answer} {e : Event}
    (h : s.query.bind (·.answered? answer) = some e) :
    (s.resume answer).log.filterMap f = s.log.filterMap f ++ (f e).toList := by
  obtain ⟨lines, hlog⟩ := log_resume h
  rw [hlog, List.filterMap_append, List.filterMap_append, filterMap_printed printed,
    List.append_nil]
  cases told : f e <;> simp [told]

theorem filterMap_log_begin {α : Type} {f : Event → Option α}
    (printed : ∀ line, f (.printed line) = none) (mission : Mission) :
    (begin mission).log.filterMap f = [] := by
  obtain ⟨lines, hlog⟩ := Moves.log (moves_next (.turn (.new mission)))
  have hlog : (begin mission).log = lines.map .printed := hlog
  rw [hlog, filterMap_printed printed]

/-- The first turn has begun. -/
def Juncture.Begun : Juncture → Prop
  | waiting s => s.stage ≠ .opening
  | _ => True

theorem Invariant.begun (mission : Mission) : Invariant mission Juncture.Begun where
  begins := trivial
  hears _ step := by
    cases step with
    | taskFailed | taskLeft | taskPut | replyFailed | nudged | askedAgain | unsolvedAbort
    | repairFailed | repaired | judgementFailed | wordFailed | wordUnclear => exact nofun
    | _ => trivial
  moves _ step := by
    cases step with
    | nudgeFeedback | putTask | askTask | unreadable | read | noRepair | tryRepair | judge
    | confirm | complete => exact nofun
    | _ => trivial

/-- A session that has begun and is not over asks something. -/
theorem exists_query {s : Session} (begun : (Juncture.waiting s).Begun)
    (goesOn : s.stage.ending? = none) : ∃ q, s.query = some q := by
  unfold query
  cases stage : s.stage with
  | opening => exact absurd stage begun
  | ended ending =>
    rw [stage] at goesOn
    cases goesOn
  | _ => exact ⟨_, rfl⟩

/-- What a world answers fits what it was asked. -/
theorem answered?_answer {σ : Type} (w : World (StateM σ)) (q : Query) (env : σ) :
    ∃ e, q.answered? ((w.answer q).run env).1 = some e := by
  cases q <;> exact ⟨_, rfl⟩

@[simp] theorem after_concat (mission : Mission) (answers : List Answer) (answer : Answer) :
    Session.after mission (answers ++ [answer]) =
      (Session.after mission answers).resume answer := by
  simp [Session.after]

/-- A question of the log was put when the mission's session had been given the
first of these answers and its log held nothing but the events before; the next of
them was the answer to it. -/
def PutAfter (mission : Mission) (answers : List Answer) (before : List Event) (e : Event) : Prop :=
  (∀ line, e ≠ .printed line) → ∃ earlier answer, earlier ++ [answer] <+: answers ∧
    (Session.after mission earlier).log = before ∧
    (Session.after mission earlier).query.bind (·.answered? answer) = some e

theorem PutAfter.longer {mission : Mission} {answers more : List Answer} {before : List Event}
    {e : Event} (h : PutAfter mission answers before e) :
    PutAfter mission (answers ++ more) before e := by
  intro question
  obtain ⟨earlier, answer, first, put⟩ := h question
  exact ⟨earlier, answer, first.trans (List.prefix_append _ _), put⟩

theorem eachAfter_putAfter (mission : Mission) (answers : List Answer) :
    EachAfter (PutAfter mission answers) (Session.after mission answers).log := by
  have printed : ∀ answers before line, PutAfter mission answers before (.printed line) :=
    fun _ _ line question => absurd rfl (question line)
  induction answers using List.reverseRecOn with
  | nil =>
    obtain ⟨lines, hlog⟩ := Moves.log (moves_next (.turn (.new mission)))
    have hlog : (Session.after mission []).log = [] ++ lines.map .printed := hlog
    rw [hlog]
    exact EachAfter.nil.append_printed (printed _) lines
  | append_singleton answers answer ih =>
    have before : EachAfter (PutAfter mission (answers ++ [answer]))
        (Session.after mission answers).log :=
      fun before e after hlog => (ih before e after hlog).longer
    rw [after_concat]
    rcases resume_eq (Session.after mission answers) answer with ⟨-, same⟩ | ⟨e, p, fits, -, -⟩
    · rw [same]
      exact before
    · obtain ⟨lines, hlog⟩ := log_resume fits
      rw [hlog]
      exact (before.concat fun _ => ⟨answers, answer, List.prefix_rfl, rfl, fits⟩).append_printed
        (printed _) lines

/-- Each of these answers is one that the session of the mission waited for. -/
inductive Fitting (mission : Mission) : List Answer → Prop
  | nil : Fitting mission []
  | concat {answers : List Answer} {answer : Answer} {e : Event} (before : Fitting mission answers)
      (fits : (Session.after mission answers).query.bind (·.answered? answer) = some e) :
      Fitting mission (answers ++ [answer])

theorem run_of_ending {σ : Type} (w : World (StateM σ)) (questions : Nat) {s : Session}
    {ending : Ending} (finished : s.stage.ending? = some ending) : run w questions s = pure s := by
  cases questions with
  | zero => rfl
  | succ questions => rw [run, finished]

theorem run_of_query {σ : Type} (w : World (StateM σ)) (questions : Nat) {s : Session} {q : Query}
    (goesOn : s.stage.ending? = none) (asks : s.query = some q) :
    run w (questions + 1) s = w.answer q >>= fun answer => run w questions (s.resume answer) := by
  rw [run, goesOn]
  simp only [step, asks, bind_assoc, pure_bind]

/-- A session that has nothing to ask, and yet is not over, waits. -/
theorem run_of_no_query {σ : Type} (w : World (StateM σ)) (questions : Nat) {s : Session}
    (goesOn : s.stage.ending? = none) (silent : s.query = none) :
    run w (questions + 1) s = run w questions s := by
  rw [run, goesOn]
  simp only [step, silent, pure_bind]

/-- What each answer of a world keeps, of a session and of the world, a run in it keeps. -/
theorem run_keeps {σ : Type} {w : World (StateM σ)} {P : Session → σ → Prop}
    (resume : ∀ s env q, s.query = some q → P s env →
      P (s.resume ((w.answer q).run env).1) ((w.answer q).run env).2)
    (questions : Nat) {s : Session} {env : σ} (h : P s env) :
    P ((run w questions s).run env).1 ((run w questions s).run env).2 := by
  induction questions generalizing s env with
  | zero => exact h
  | succ questions ih =>
    cases ending : s.stage.ending? with
    | some how =>
      rw [run_of_ending w _ ending]
      exact h
    | none =>
      cases asks : s.query with
      | none =>
        rw [run_of_no_query w questions ending asks]
        exact ih h
      | some q =>
        rw [run_of_query w questions ending asks]
        exact ih (resume s env q asks h)

/-- A loop that runs sessions in a world: it goes on with the world's answer to
each question until the session is over. Whatever else it does in the world, the
session does not see. -/
structure World.RunBy {σ : Type} (w : World (StateM σ)) (loop : Nat → Session → StateM σ Session) :
    Prop where
  done : ∀ s, loop 0 s = pure s
  ended : ∀ questions s ending, s.stage.ending? = some ending → loop questions s = pure s
  asks : ∀ questions s q env, s.stage.ending? = none → s.query = some q →
    ∃ env', (loop (questions + 1) s).run env =
      (loop questions (s.resume ((w.answer q).run env).1)).run env'

theorem World.runBy_run {σ : Type} (w : World (StateM σ)) : w.RunBy (run w) where
  done _ := rfl
  ended questions _ _ finished := run_of_ending w questions finished
  asks questions s q env goesOn asks := by
    rw [run_of_query w questions goesOn asks]
    exact ⟨((w.answer q).run env).2, rfl⟩

namespace World.RunBy

variable {σ : Type} {w : World (StateM σ)} {loop : Nat → Session → StateM σ Session}

theorem exists_eq_after_append (h : w.RunBy loop) (mission : Mission) (questions : Nat)
    {answers : List Answer} (fitting : Fitting mission answers) (env : σ) :
    ∃ more, Fitting mission (answers ++ more) ∧
      ((loop questions (Session.after mission answers)).run env).1 =
        Session.after mission (answers ++ more) ∧
      ((Session.after mission (answers ++ more)).stage.ending?.isSome = true ∨
        more.length = questions) := by
  induction questions generalizing answers env with
  | zero =>
    refine ⟨[], by simpa using fitting, ?_, .inr rfl⟩
    rw [h.done, List.append_nil]
    rfl
  | succ questions ih =>
    cases ending : (Session.after mission answers).stage.ending? with
    | some how =>
      refine ⟨[], by simpa using fitting, ?_, .inl (by simp [ending])⟩
      rw [h.ended _ _ _ ending, List.append_nil]
      rfl
    | none =>
      obtain ⟨q, asks⟩ := exists_query ((Invariant.begun mission).after answers) ending
      obtain ⟨e, fits⟩ := answered?_answer w q env
      have fits : (Session.after mission answers).query.bind
          (·.answered? ((w.answer q).run env).1) = some e := by rw [asks]; exact fits
      obtain ⟨env', goesOn⟩ := h.asks questions _ q env ending asks
      obtain ⟨more, fitting, ends, finished⟩ := ih (fitting.concat fits) env'
      refine ⟨((w.answer q).run env).1 :: more, ?_, ?_, ?_⟩
      · rw [List.append_cons]
        exact fitting
      · rw [List.append_cons, ← ends, after_concat, goesOn]
      · rw [List.append_cons]
        exact finished.imp_right (congrArg (· + 1))

/-- A session that is run in a world is one that was given answers: as many as the run
could ask for, unless it is over. -/
theorem exists_eq_after (h : w.RunBy loop) (mission : Mission) (questions : Nat) (env : σ) :
    ∃ answers, Fitting mission answers ∧
      ((loop questions (begin mission)).run env).1 = Session.after mission answers ∧
      ((Session.after mission answers).stage.ending?.isSome = true ∨ answers.length = questions) :=
  h.exists_eq_after_append mission questions .nil env

end World.RunBy

theorem exists_run_eq_after {σ : Type} (w : World (StateM σ)) (mission : Mission)
    (questions : Nat) (env : σ) :
    ∃ answers, Fitting mission answers ∧
      ((run w questions (begin mission)).run env).1 = Session.after mission answers ∧
      ((Session.after mission answers).stage.ending?.isSome = true ∨ answers.length = questions) :=
  w.runBy_run.exists_eq_after mission questions env

/-! ## A mission to try things on -/

/-- A room with nothing in it but a goal. -/
def openRoom : Scenario where
  name := "open room"
  regions := [⟨"goal", ⟨4, 5, 4, 5, 0, 1⟩⟩]
  objective := .reachAvoid "goal" []
  start := .atRest 0 0 0
  duration := 30
  task := "Reach the goal."
  nodup_names := by decide
  declared := by decide
  duration_pos := by decide

/-- An operator puts the tasks, and nothing is checked. -/
def Rules.unchecked : Rules where
  maxReplies := 3
  automated := false
  repairs := false
  repairLimit := 0
  judges := false
  judgeLimit := 0
  confirms := false
  printsInstructions := false
  dt := 0.5
  dynamics := .standard

/-- A mission in the open room. -/
def openMission (rules : Rules) : Mission :=
  ⟨openRoom, ⟨"", "", ""⟩, rules⟩

end Sortie
