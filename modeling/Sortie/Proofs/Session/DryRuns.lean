import Sortie.Program.Host
import Sortie.Proofs.Evidence
import Sortie.Proofs.Extraction
import Sortie.Proofs.Replacing
import Sortie.Proofs.Session.Completion
import Sortie.Proofs.Session.Repairing
import Sortie.Proofs.Session.Transcript
/-!
# Dry runs

With the echo for a model a session needs no network. Its task is its specification,
each repair is the request for it, and every leg is approved. So such a run depends
on the solver alone: it is complete with the first leg that the solver finds, or
aborted when no repair is left.
-/

namespace Sortie

open Session

/-! ## The echo -/

namespace Echo

/-- What the echo makes of the user's words. -/
def wrap (words : String) : String :=
  "Echo from Mock: <" ++ words ++ ">"

theorem reply_concat_user (before : List Message) (words : String) :
    reply (before ++ [.user words]) = wrap words := by
  have unjudged : isJudgement (before ++ [.user words]) = false := by
    rw [isJudgement, List.getLast?_concat]
    rfl
  have said : lastSaid? .user (before ++ [.user words]) = some words := by
    rw [lastSaid?, List.reverse_concat]
    rfl
  rw [reply, unjudged, said]
  rfl

theorem reply_concat_evidence (before : List Message) {evidence : String}
    (marked : Text.contains evidence evidenceMark = true) :
    reply (before ++ [.system evidence]) = acceptance := by
  have judged : isJudgement (before ++ [.system evidence]) = true := by
    rw [isJudgement, List.getLast?_concat]
    exact marked
  rw [reply, if_pos judged]

theorem read_acceptance : Judge.read acceptance = .accepted := by decide

theorem toList_wrap (words : String) :
    (wrap words).toList = "Echo from Mock: ".toList ++ ('<' :: (words.toList ++ ['>'])) := by
  have opened : "Echo from Mock: <".toList = "Echo from Mock: ".toList ++ ['<'] := by decide
  calc (wrap words).toList
      = "Echo from Mock: <".toList ++ (words.toList ++ ['>']) := by
        unfold wrap
        simp only [String.toList_append, List.append_assoc]
        rfl
    _ = "Echo from Mock: ".toList ++ ['<'] ++ (words.toList ++ ['>']) :=
        congrArg (· ++ (words.toList ++ ['>'])) opened
    _ = "Echo from Mock: ".toList ++ ('<' :: (words.toList ++ ['>'])) :=
        List.append_assoc ..

/-- What is read in the reply are the user's words, in one line: the first `<` is the
echo's own, and the only `>`, too. -/
theorem extract_wrap {words : String} (said : words ≠ "") (unclosed : '>' ∉ words.toList) :
    Specification.extract (wrap words) =
      .ok ⟨.ofList (words.toList.map Specification.spaceBreak)⟩ := by
  have unopened : '<' ∉ "Echo from Mock: ".toList := by decide
  have found : Specification.lastPair? (wrap words).toList = some words.toList := by
    rw [Specification.lastPair?, toList_wrap, Specification.scan_append_of_unopened unopened,
      Specification.scan, if_pos rfl, Specification.scan_append_of_unclosed unclosed,
      Specification.scan, if_pos rfl, List.append_nil, List.reverse_reverse]
    rfl
  obtain ⟨c, cs, same⟩ := List.exists_cons_of_ne_nil (mt String.toList_eq_nil_iff.mp said)
  rw [Specification.extract, found, same]

end Echo

/-- Every sentence about a region begins with the mark by which the echo knows evidence. -/
theorem Occupancy.prefix_sentence (name : String) (row : List Bool) :
    Echo.evidenceMark.toList <+: (sentence name row).toList := by
  have never : Echo.evidenceMark.toList <+: "The drone is never inside the ".toList := by decide
  have always : Echo.evidenceMark.toList <+: "The drone is always inside the ".toList := by decide
  have atTimes : Echo.evidenceMark.toList <+: "The drone is inside the ".toList := by decide
  rcases sentence_cases name row with ⟨-, text⟩ | ⟨-, text⟩ | ⟨-, text⟩ <;> rw [text]
  · exact List.prefix_append_of_prefix never
  · exact List.prefix_append_of_prefix always
  · exact List.prefix_append_of_prefix atTimes

/-- The evidence on a leg is recognised: the objective refers to a region, so there is a
sentence about one. -/
theorem Scenario.contains_evidence (s : Scenario) (leg : Trajectory) :
    Text.contains (s.occupancy leg).evidence Echo.evidenceMark = true := by
  obtain ⟨name, refers⟩ : ∃ name, name ∈ s.objective.references := by
    cases s.objective <;> exact ⟨_, List.mem_cons_self⟩
  obtain ⟨region, member, -⟩ := List.mem_map.mp (s.declared name refers)
  have row : (region.name, leg.positions.map region.region.contains) ∈ (s.occupancy leg).rows :=
    List.mem_map_of_mem member
  rw [Text.contains_iff, Occupancy.toList_evidence]
  exact (Occupancy.prefix_sentence ..).isInfix.trans
    (List.infix_of_mem_flatten (List.mem_map_of_mem row))

/-! ## Dry runs -/

/-- The model of a world is the echo. -/
def World.IsOffline {σ : Type} (w : World (StateM σ)) : Prop :=
  ∀ messages, w.model messages = pure (.ok (Echo.reply messages))

/-- A program whose model is the echo flies in an offline world. -/
theorem Host.isOffline_world {σ : Type} (host : Host (StateM σ)) (solver : CommandSolver) :
    (host.world .echo solver).IsOffline :=
  fun _ => rfl

/-- The settings of a dry run: a task that the echo can wrap, both
checkers and no operator. -/
structure Mission.IsDry (mission : Mission) : Prop where
  said : mission.scenario.task ≠ ""
  unclosed : '>' ∉ mission.scenario.task.toList
  replies : 1 ≤ mission.rules.maxReplies
  automated : mission.rules.automated = true
  repairs : mission.rules.repairs = true
  judges : mission.rules.judges = true
  confirms : mission.rules.confirms = false

namespace Mission

/-- The specification after so many repairs: the task in one line, or the request to repair
the specification before. -/
def drySpecification (mission : Mission) : Nat → Specification
  | 0 => ⟨.ofList (mission.scenario.task.toList.map fun c => if c = '\n' then ' ' else c)⟩
  | repairs + 1 => ⟨"Original specification: " ++ (mission.drySpecification repairs).text⟩

/-- What the solver is asked after so many repairs. -/
def dryRequest (mission : Mission) (repairs : Nat) : SolveRequest :=
  .new (mission.drySpecification repairs) mission.scenario mission.scenario.start
    mission.rules.dt mission.rules.dynamics

/-- All that is said in a dry run. -/
def dryMessages (mission : Mission) : List Message :=
  [.system mission.instructions.conversation, .user mission.scenario.task,
    .assistant (Echo.wrap mission.scenario.task)]

end Mission

namespace World

variable {σ : Type} (w : World (StateM σ)) (mission : Mission) (env : σ)

/-- The world once its solver has answered the first requests of a dry run. -/
def afterDry : Nat → σ
  | 0 => env
  | n + 1 => ((w.solver (mission.dryRequest n)).run (afterDry n)).2

/-- What the solver answers to a request of a dry run, when it has
answered those before. -/
def dryOutcome (n : Nat) : Outcome :=
  ((w.solver (mission.dryRequest n)).run (w.afterDry mission env n)).1

/-- The first requests of a dry run, with the solver's answers. -/
def drySolves (count : Nat) : List (SolveRequest × Outcome) :=
  (List.range count).map fun n => (mission.dryRequest n, w.dryOutcome mission env n)

theorem drySolves_succ (count : Nat) : w.drySolves mission env (count + 1) =
    w.drySolves mission env count ++
      [(mission.dryRequest count, w.dryOutcome mission env count)] := by
  simp [drySolves, List.range_succ]

theorem map_fst_drySolves (count : Nat) :
    (w.drySolves mission env count).map Prod.fst = (List.range count).map mission.dryRequest :=
  List.map_map

end World

/-! ## The specifications -/

theorem map_spaceBreak_of_unbroken {text : List Char} (unbroken : '\n' ∉ text) :
    text.map Specification.spaceBreak = text := by
  refine (List.map_congr_left fun c member => ?_).trans (List.map_id text)
  have other : c ≠ '\n' := fun breaks => unbroken (breaks ▸ member)
  exact if_neg other

/-- Each specification is one line that closes nothing: the first one as it was extracted,
the later ones as they only add words to it. -/
theorem drySpecification_closes_nothing {mission : Mission} (dry : mission.IsDry) (n : Nat) :
    '>' ∉ (mission.drySpecification n).text.toList ∧
      '\n' ∉ (mission.drySpecification n).text.toList := by
  induction n with
  | zero =>
    have first := Echo.extract_wrap dry.said dry.unclosed
    exact (Specification.text_of_extract first).2
  | succ n ih =>
    have unclosedWords : '>' ∉ "Original specification: ".toList := by decide
    have unbrokenWords : '\n' ∉ "Original specification: ".toList := by decide
    unfold Mission.drySpecification
    simp only [String.toList_append, List.mem_append, not_or]
    exact ⟨⟨unclosedWords, ih.1⟩, unbrokenWords, ih.2⟩

/-- The echo of the request to repair a specification is read as the next one. -/
theorem extract_echo_of_repair {mission : Mission} (dry : mission.IsDry) (n : Nat) :
    Specification.extract
        (Echo.wrap ("Original specification: " ++ (mission.drySpecification n).text)) =
      .ok (mission.drySpecification (n + 1)) := by
  obtain ⟨closes, breaks⟩ := drySpecification_closes_nothing dry (n + 1)
  have words : "Original specification: " ≠ "" := by decide
  have said : (mission.drySpecification (n + 1)).text ≠ "" :=
    fun empty => words (String.append_eq_empty_iff.mp empty).1
  have read := Echo.extract_wrap said closes
  rwa [map_spaceBreak_of_unbroken breaks, String.ofList_toList] at read

/-! ## Single answers -/

theorem ending?_of_query {s : Session} {q : Query} (asks : s.query = some q) :
    s.stage.ending? = none := by
  cases ending : s.stage.ending? with
  | none => rfl
  | some how =>
    rw [query, ended_of_ending? ending] at asks
    cases asks

theorem query_of_replying {s : Session} {turn : Turn} (stage : s.stage = .reply turn) :
    s.query = some (.model .conversation s.conversation.messages) := by
  rw [query, stage]

/-- A specification in the reply to the task is solved. -/
theorem resume_of_replying {s : Session} {more : Nat} (stage : s.stage = .reply (.automated more))
    {reply : String} {spec : Specification} (extracted : Specification.extract reply = .ok spec) :
    s.resume (.reply (.ok reply)) =
      { s.takeReply reply with feedbackDue := false }.solve spec false := by
  have still (e : Event) : (s.record e).stage = .reply (.automated more) := stage
  have opens := opensPair_of_extract extracted
  rw [resume_of_query (query_of_replying stage) rfl]
  unfold hear
  rw [still]
  show (s.takeReply reply).afterReply reply (.automated more) = _
  rw [afterReply, if_pos opens, readReply, lastReply?_takeReply, Option.getD_some, extracted]

theorem Judge.begin?_new (instructions : String) (limit : Nat) :
    (limit = 0 ∧ (Judge.new instructions limit).begin? = none) ∨
      ∃ judge, (Judge.new instructions limit).begin? = some judge ∧
        judge.budget.count = min 1 limit := by
  cases limit with
  | zero => exact .inl ⟨rfl, rfl⟩
  | succ limit => exact .inr ⟨_, rfl, (Nat.min_eq_left (Nat.succ_pos limit)).symm⟩

/-- The echo approves of every leg. -/
theorem heardJudgement_of_acceptance (s : Session) (leg : Trajectory) :
    s.heardJudgement leg (.ok Echo.acceptance) =
      (s.say (Judge.note Echo.acceptance)).afterJudgement leg true := by
  rw [heardJudgement, Judge.conclude, Echo.read_acceptance]

/-! ## The course of a dry run -/

section Course

variable {σ : Type} {w : World (StateM σ)} {env : σ} {mission : Mission} {solves repairs : Nat}
  {s t : Session} {leg : Trajectory}

/-- So far the solver was asked this often and a repair requested that often. Nothing was
flown, and no more was said than the task and its echo. -/
structure DrySoFar (w : World (StateM σ)) (env : σ) (mission : Mission) (solves repairs : Nat)
    (s : Session) : Prop where
  same : s.mission = mission
  messages : s.conversation.messages = mission.dryMessages
  trajectory : s.trajectory = .startingAt mission.scenario.start
  start : s.start = mission.scenario.start
  counted : s.repair.budget.count = repairs
  limit : s.repair.budget.limit = mission.rules.repairLimit
  solved : s.log.filterMap Event.solve? = w.drySolves mission env solves

theorem DrySoFar.congr (h : DrySoFar w env mission solves repairs s) (same : t.mission = s.mission)
    (conversation : t.conversation = s.conversation) (trajectory : t.trajectory = s.trajectory)
    (start : t.start = s.start) (repair : t.repair = s.repair)
    (solved : t.log.filterMap Event.solve? = s.log.filterMap Event.solve?) :
    DrySoFar w env mission solves repairs t where
  same := same.trans h.same
  messages := (congrArg Conversation.messages conversation).trans h.messages
  trajectory := trajectory.trans h.trajectory
  start := start.trans h.start
  counted := (congrArg (·.budget.count) repair).trans h.counted
  limit := (congrArg (·.budget.limit) repair).trans h.limit
  solved := solved.trans h.solved

/-- A dry run that waits for the solver, after so many repairs. -/
structure DrySolving (w : World (StateM σ)) (env : σ) (mission : Mission) (repairs : Nat)
    (s : Session) : Prop where
  soFar : DrySoFar w env mission repairs repairs s
  stage : ∃ repaired, s.stage = .solving (mission.drySpecification repairs) repaired
  judge : s.judge = .new mission.instructions.judge mission.rules.judgeLimit

/-- A dry run that waits for the repair of the specification that the solver
was asked about last. -/
structure DryRepairing (w : World (StateM σ)) (env : σ) (mission : Mission) (repairs : Nat)
    (s : Session) : Prop where
  soFar : DrySoFar w env mission (repairs + 1) (repairs + 1) s
  stage : s.stage = .repairing (mission.drySpecification repairs)
  judge : s.judge = .new mission.instructions.judge mission.rules.judgeLimit

/-- A dry run that was completed with this leg, after so many repairs. -/
structure DryCompleted (w : World (StateM σ)) (env : σ) (mission : Mission) (repairs : Nat)
    (leg : Trajectory) (s : Session) : Prop where
  stage : s.stage = .ended .completed
  messages : s.conversation.messages = mission.dryMessages
  trajectory : s.trajectory.states = mission.scenario.start :: leg.states.tail
  counted : s.repair.budget.count = repairs
  judgements : s.judge.budget.count = min 1 mission.rules.judgeLimit
  solved : s.log.filterMap Event.solve? = w.drySolves mission env (repairs + 1)

/-! ### One answer of the world -/

theorem run_run_of_query (w : World (StateM σ)) (questions : Nat) {q : Query}
    (asks : s.query = some q) (env : σ) :
    (run w (questions + 1) s).run env =
      (run w questions (s.resume ((w.answer q).run env).1)).run ((w.answer q).run env).2 := by
  rw [run_of_query w questions (ending?_of_query asks) asks]
  rfl

theorem run_run_of_ending (w : World (StateM σ)) (questions : Nat) {ending : Ending}
    (finished : s.stage = .ended ending) (env : σ) : (run w questions s).run env = (s, env) := by
  rw [run_of_ending w questions (congrArg Stage.ending? finished)]
  rfl

/-- The echo replies at once and does nothing to the world. -/
theorem World.IsOffline.run_of_query (offline : w.IsOffline) (questions : Nat) {purpose : Purpose}
    {messages : List Message} (asks : s.query = some (.model purpose messages)) (env : σ) :
    (run w (questions + 1) s).run env =
      (run w questions (s.resume (.reply (.ok (Echo.reply messages))))).run env := by
  have answer : (w.answer (.model purpose messages)).run env =
      (.reply (.ok (Echo.reply messages)), env) := by
    show ((do return .reply (← w.model messages)) : StateM σ Answer).run env = _
    rw [offline]
    rfl
  rw [run_run_of_query w questions asks, answer]

theorem DrySolving.query (h : DrySolving w env mission repairs s) :
    s.query = some (.solver (mission.dryRequest repairs)) := by
  obtain ⟨repaired, stage⟩ := h.stage
  rw [query_of_solving stage, solveRequest, Session.rules, h.soFar.same, h.soFar.start]
  rfl

/-- The solver's answer is the next one. -/
theorem DrySolving.run_of_query (h : DrySolving w env mission repairs s) (questions : Nat) :
    (run w (questions + 1) s).run (w.afterDry mission env repairs) =
      (run w questions (s.resume (.outcome (w.dryOutcome mission env repairs)))).run
        (w.afterDry mission env (repairs + 1)) :=
  run_run_of_query w questions h.query _

/-! ### The beginning -/

/-- An automated session begins with its instructions and its task, and
with nothing else. -/
theorem begin_of_automated {more : Nat} (automated : mission.rules.automated = true)
    (replies : mission.rules.maxReplies = more + 1) :
    ∃ log, begin mission = { Session.new mission with
      conversation := ⟨[.system mission.instructions.conversation, .user mission.scenario.task]⟩
      stage := .reply (.automated more)
      log } := by
  obtain ⟨log, instructed⟩ := exists_instruct_new mission
  have rules : (Session.new mission).instruct.rules = mission.rules := by rw [instructed]; rfl
  have notDue : (Session.new mission).instruct.feedbackDue = false := by rw [instructed]; rfl
  refine ⟨log ++ [.printed ("User: " ++ mission.scenario.task)], ?_⟩
  unfold begin beginTurn
  simp only [rules, notDue, automated, replies, Bool.false_eq_true, if_false, if_true]
  rw [instructed]
  rfl

/-- The echo of the task is solved first. -/
theorem exists_drySolving_zero (offline : w.IsOffline) (dry : mission.IsDry) :
    ∃ s, DrySolving w env mission 0 s ∧ ∀ questions,
      (run w (questions + 1) (begin mission)).run env = (run w questions s).run env := by
  obtain ⟨more, replies⟩ := Nat.exists_eq_add_of_le' dry.replies
  obtain ⟨log, begins⟩ := begin_of_automated dry.automated replies
  have unsolved : (begin mission).log.filterMap Event.solve? = [] :=
    filterMap_log_begin (fun _ => rfl) mission
  have stage : (begin mission).stage = .reply (.automated more) := by rw [begins]
  have asks := query_of_replying stage
  have echo : Echo.reply (begin mission).conversation.messages =
      Echo.wrap mission.scenario.task := by
    rw [begins]
    exact Echo.reply_concat_user [_] _
  have read : Specification.extract (Echo.wrap mission.scenario.task) =
      .ok (mission.drySpecification 0) :=
    Echo.extract_wrap dry.said dry.unclosed
  have next := resume_of_replying stage read
  refine ⟨(begin mission).resume (.reply (.ok (Echo.wrap mission.scenario.task))), ?_, ?_⟩
  · have solved : ((begin mission).resume
        (.reply (.ok (Echo.wrap mission.scenario.task)))).log.filterMap Event.solve? = [] := by
      rw [filterMap_log_resume (fun _ => rfl) (by rw [asks]; rfl), unsolved]
      rfl
    rw [next] at solved ⊢
    rw [begins] at solved ⊢
    refine ⟨⟨rfl, rfl, rfl, rfl, rfl, rfl, solved⟩, ⟨false, rfl⟩, ?_⟩
    exact if_pos dry.judges
  · intro questions
    rw [offline.run_of_query questions asks, echo]

/-! ### Repairs -/

theorem DrySolving.resume_of_vain (dry : mission.IsDry) (h : DrySolving w env mission repairs s)
    {reason : String} (vain : (w.dryOutcome mission env repairs).checked = .infeasible reason) :
    s.resume (.outcome (w.dryOutcome mission env repairs)) =
      (s.recordOutcome (mission.drySpecification repairs)
        (w.dryOutcome mission env repairs)).requestRepair (mission.drySpecification repairs) := by
  obtain ⟨repaired, stage⟩ := h.stage
  rw [resume_of_solving stage, heardOutcome, vain]
  exact if_pos ((congrArg (·.rules.repairs) h.soFar.same).trans dry.repairs)

/-- The solver was asked once more. -/
theorem DrySolving.soFar_recordOutcome (h : DrySolving w env mission repairs s) :
    DrySoFar w env mission (repairs + 1) repairs
      (s.recordOutcome (mission.drySpecification repairs)
        (w.dryOutcome mission env repairs)) := by
  obtain ⟨same, messages, trajectory, start, counted, limit, solved⟩ := h.soFar
  refine ⟨same, messages, trajectory, start, counted, limit, ?_⟩
  have request : s.solveRequest (mission.drySpecification repairs) =
      mission.dryRequest repairs := by
    rw [solveRequest, Session.rules, same, start]
    rfl
  show (s.log ++ [Event.solverAsked (s.solveRequest _) _]).filterMap _ = _
  rw [List.filterMap_append, solved, World.drySolves_succ, request]
  rfl

/-- If the solver finds nothing and a repair is left, it is requested. -/
theorem DrySolving.repairing (dry : mission.IsDry) (h : DrySolving w env mission repairs s)
    {reason : String} (vain : (w.dryOutcome mission env repairs).checked = .infeasible reason)
    (left : repairs < mission.rules.repairLimit) :
    DryRepairing w env mission repairs
      (s.resume (.outcome (w.dryOutcome mission env repairs))) := by
  obtain ⟨same, messages, trajectory, start, counted, limit, solved⟩ := h.soFar_recordOutcome
  obtain ⟨budget, requested, limited, next⟩ := requestRepair_of_left
    (mission.drySpecification repairs) (counted.trans_lt (left.trans_eq limit.symm))
  rw [h.resume_of_vain dry vain, requested]
  exact ⟨⟨same, messages, trajectory, start, next.trans (congrArg (· + 1) counted),
    limited.trans limit, solved⟩, rfl, h.judge⟩

/-- The echo of the request is solved next. -/
theorem DryRepairing.solving (dry : mission.IsDry) (h : DryRepairing w env mission repairs s) :
    DrySolving w env mission (repairs + 1) (s.resume
      (.reply (.ok (Echo.reply (s.repairRequest (mission.drySpecification repairs)))))) := by
  have echo : Echo.reply (s.repairRequest (mission.drySpecification repairs)) =
      Echo.wrap ("Original specification: " ++ (mission.drySpecification repairs).text) :=
    Echo.reply_concat_user [_] _
  have extracted := extract_echo_of_repair dry repairs
  rw [echo, resume_of_repairing h.stage, heardRepair_of_repaired _ _ extracted]
  refine ⟨h.soFar.congr rfl rfl rfl rfl rfl ?_, ⟨true, rfl⟩, h.judge⟩
  simp [solve, say, record, recordRepair, Event.solve?]

theorem DrySolving.exists_succ (offline : w.IsOffline) (dry : mission.IsDry)
    (h : DrySolving w env mission repairs s) {reason : String}
    (vain : (w.dryOutcome mission env repairs).checked = .infeasible reason)
    (left : repairs < mission.rules.repairLimit) :
    ∃ t, DrySolving w env mission (repairs + 1) t ∧ ∀ questions,
      (run w (questions + 2) s).run (w.afterDry mission env repairs) =
        (run w questions t).run (w.afterDry mission env (repairs + 1)) := by
  have repairing := h.repairing dry vain left
  refine ⟨_, repairing.solving dry, fun questions => ?_⟩
  rw [h.run_of_query, offline.run_of_query questions (query_of_repairing repairing.stage)]

theorem exists_drySolving (offline : w.IsOffline) (dry : mission.IsDry)
    (vain : ∀ n < repairs, ∃ reason,
      (w.dryOutcome mission env n).checked = .infeasible reason)
    (within : repairs ≤ mission.rules.repairLimit) :
    ∃ s, DrySolving w env mission repairs s ∧ ∀ questions,
      (run w (questions + (2 * repairs + 1)) (begin mission)).run env =
        (run w questions s).run (w.afterDry mission env repairs) := by
  induction repairs with
  | zero => exact exists_drySolving_zero offline dry
  | succ repairs ih =>
    obtain ⟨s, solving, runs⟩ :=
      ih (fun n before => vain n (Nat.lt_succ_of_lt before)) (Nat.le_of_succ_le within)
    obtain ⟨reason, last⟩ := vain repairs (Nat.lt_succ_self repairs)
    obtain ⟨t, next, goesOn⟩ := solving.exists_succ offline dry last within
    refine ⟨t, next, fun questions => ?_⟩
    -- a repair takes two questions: the solver says that there is no
    -- leg, and the echo replies
    have count : questions + (2 * (repairs + 1) + 1) = questions + 2 + (2 * repairs + 1) := by
      omega
    rw [count, runs, goesOn]

/-! ### The end -/

/-- No repair is left. -/
theorem DrySolving.aborts (dry : mission.IsDry) (h : DrySolving w env mission repairs s)
    {reason : String} (vain : (w.dryOutcome mission env repairs).checked = .infeasible reason)
    (spent : repairs = mission.rules.repairLimit) :
    let t := s.resume (.outcome (w.dryOutcome mission env repairs))
    DrySoFar w env mission (repairs + 1) repairs t ∧
      t.stage = .ended (.aborted (.syntaxBudgetExhausted repairs)) := by
  intro t
  have soFar := h.soFar_recordOutcome
  have aborts := requestRepair_of_spent (mission.drySpecification repairs)
    (soFar.counted.trans (spent.trans soFar.limit.symm))
  rw [soFar.limit, ← spent] at aborts
  have ends : t = _ := (h.resume_of_vain dry vain).trans aborts
  rw [ends]
  exact ⟨soFar.congr rfl rfl rfl rfl rfl rfl, rfl⟩

/-- A leg that is flown completes the dry run. -/
theorem DrySoFar.completed (h : DrySoFar w env mission (repairs + 1) repairs s)
    (judgements : s.judge.budget.count = min 1 mission.rules.judgeLimit) :
    DryCompleted w env mission repairs leg ((s.fly leg).finish .completed) := by
  obtain ⟨lines, printed⟩ := fly_log s leg
  have judge : ((s.fly leg).finish .completed).judge = s.judge := fly_judge s leg
  have repair : ((s.fly leg).finish .completed).repair = s.repair := fly_repair s leg
  have trajectory : ((s.fly leg).finish .completed).trajectory = s.trajectory.append leg :=
    fly_trajectory s leg
  refine ⟨rfl, ?_, ?_, ?_, ?_, ?_⟩
  · exact (congrArg Conversation.messages (fly_conversation s leg)).trans h.messages
  · rw [trajectory, h.trajectory]
    exact Trajectory.append_states (List.cons_ne_nil _ _) leg
  · rw [repair, h.counted]
  · rw [judge, judgements]
  · show (s.fly leg).log.filterMap _ = _
    rw [printed, List.filterMap_append, filterMap_printed fun _ => rfl, List.append_nil, h.solved]

theorem DrySoFar.afterJudgement_of_approved (dry : mission.IsDry)
    (h : DrySoFar w env mission solves repairs s) (leg : Trajectory) :
    s.afterJudgement leg true = (s.fly leg).finish .completed := by
  have automated : s.rules.automated = true :=
    (congrArg (·.rules.automated) h.same).trans dry.automated
  have confirms : s.rules.confirms = false :=
    (congrArg (·.rules.confirms) h.same).trans dry.confirms
  rw [afterJudgement, confirms]
  show s.settle leg true = _
  rw [settle, Bool.true_or, if_pos rfl, if_pos automated]

theorem DrySolving.resume_of_found (h : DrySolving w env mission repairs s)
    {controls : List Control}
    (found : (w.dryOutcome mission env repairs).checked = .feasible leg controls) :
    s.resume (.outcome (w.dryOutcome mission env repairs)) =
      (s.recordOutcome (mission.drySpecification repairs)
        (w.dryOutcome mission env repairs)).requestJudgement leg := by
  obtain ⟨repaired, stage⟩ := h.stage
  rw [resume_of_solving stage, heardOutcome, found]

/-- The echo approves of the leg that is being judged. -/
theorem DrySoFar.judged (offline : w.IsOffline) (dry : mission.IsDry)
    (h : DrySoFar w env mission (repairs + 1) repairs s) (stage : s.stage = .judging leg)
    (judgements : s.judge.budget.count = min 1 mission.rules.judgeLimit) (questions : Nat)
    (now : σ) :
    DryCompleted w env mission repairs leg ((run w (questions + 1) s).run now).1 := by
  have echo : Echo.reply (s.judgementRequest leg) = Echo.acceptance :=
    Echo.reply_concat_evidence (.system _ :: s.conversation.middle)
      (s.mission.scenario.contains_evidence leg)
  have soFar : DrySoFar w env mission (repairs + 1) repairs
      ((s.recordJudgement leg (.ok Echo.acceptance)).say (Judge.note Echo.acceptance)) := by
    refine h.congr rfl rfl rfl rfl rfl ?_
    simp [say, record, recordJudgement, Event.solve?]
  rw [offline.run_of_query questions (query_of_judging stage), echo, resume_of_judging stage,
    heardJudgement_of_acceptance, soFar.afterJudgement_of_approved dry leg,
    run_run_of_ending w _ rfl]
  exact soFar.completed judgements

/-- Whether the judge is asked about it or not, the first leg that is found
completes the dry run. -/
theorem DrySoFar.found (offline : w.IsOffline) (dry : mission.IsDry)
    (h : DrySoFar w env mission (repairs + 1) repairs s)
    (judge : s.judge = .new mission.instructions.judge mission.rules.judgeLimit)
    (leg : Trajectory) (questions : Nat) (now : σ) :
    DryCompleted w env mission repairs leg
      ((run w (questions + 1) (s.requestJudgement leg)).run now).1 := by
  rcases Judge.begin?_new mission.instructions.judge mission.rules.judgeLimit with
    ⟨unlimited, skips⟩ | ⟨judge', begins, counted⟩
  · -- a judge that may never be asked has no attempts to count
    rw [← judge] at skips
    rw [requestJudgement_of_skipped skips, h.afterJudgement_of_approved dry leg,
      run_run_of_ending w _ rfl]
    refine h.completed ?_
    rw [judge, unlimited]
    rfl
  · rw [← judge] at begins
    have soFar : DrySoFar w env mission (repairs + 1) repairs
        ({ s with judge := judge' }.goTo (.judging leg)) :=
      h.congr rfl rfl rfl rfl rfl rfl
    rw [requestJudgement_of_begun begins]
    exact soFar.judged offline dry rfl counted questions now

theorem DrySolving.completes (offline : w.IsOffline) (dry : mission.IsDry)
    (h : DrySolving w env mission repairs s) {controls : List Control}
    (found : (w.dryOutcome mission env repairs).checked = .feasible leg controls)
    (questions : Nat) :
    DryCompleted w env mission repairs leg
      ((run w (questions + 2) s).run (w.afterDry mission env repairs)).1 := by
  rw [h.run_of_query, h.resume_of_found found]
  exact h.soFar_recordOutcome.found offline dry h.judge leg questions _

/-- A dry run whose solver finds a leg while repairs are left. -/
theorem dryCompleted_of_run (offline : w.IsOffline) (dry : mission.IsDry)
    (vain : ∀ n < repairs, ∃ reason, (w.dryOutcome mission env n).checked = .infeasible reason)
    {controls : List Control}
    (found : (w.dryOutcome mission env repairs).checked = .feasible leg controls)
    (within : repairs ≤ mission.rules.repairLimit) {questions : Nat}
    (enough : 2 * repairs + 3 ≤ questions) :
    DryCompleted w env mission repairs leg ((run w questions (begin mission)).run env).1 := by
  obtain ⟨s, solving, runs⟩ := exists_drySolving offline dry vain within
  obtain ⟨more, rfl⟩ := Nat.exists_eq_add_of_le' enough
  have count : more + (2 * repairs + 3) = more + 2 + (2 * repairs + 1) := by omega
  rw [count, runs]
  exact solving.completes offline dry found more

/-- A dry run whose solver finds none. -/
theorem dryAborted_of_run (offline : w.IsOffline) (dry : mission.IsDry)
    (vain : ∀ n ≤ mission.rules.repairLimit, ∃ reason,
      (w.dryOutcome mission env n).checked = .infeasible reason)
    {questions : Nat} (enough : 2 * mission.rules.repairLimit + 2 ≤ questions) :
    let s := ((run w questions (begin mission)).run env).1
    DrySoFar w env mission (mission.rules.repairLimit + 1) mission.rules.repairLimit s ∧
      s.stage = .ended (.aborted (.syntaxBudgetExhausted mission.rules.repairLimit)) := by
  obtain ⟨s, solving, runs⟩ :=
    exists_drySolving offline dry (fun n before => vain n (Nat.le_of_lt before)) (Nat.le_refl _)
  obtain ⟨reason, last⟩ := vain mission.rules.repairLimit (Nat.le_refl _)
  obtain ⟨soFar, ended⟩ := solving.aborts dry last rfl
  obtain ⟨more, rfl⟩ := Nat.exists_eq_add_of_le' enough
  have count : more + (2 * mission.rules.repairLimit + 2) =
      more + 1 + (2 * mission.rules.repairLimit + 1) := by omega
  rw [count, runs, solving.run_of_query, run_run_of_ending w _ ended]
  exact ⟨soFar, ended⟩

end Course

/-! ## Main result -/

/-- What becomes of a dry run is up to the solver alone. If there are enough repairs,
the session is complete with the first leg that it finds, after one more attempt than
it failed; else it is aborted when no repair is left. Each attempt is at the task
itself or at the request to repair the attempt before, and the conversation is only
the task and its echo. -/
theorem dry_run_ends_as_solved {σ : Type} (w : World (StateM σ)) (offline : w.IsOffline) (env : σ)
    (mission : Mission) (dry : mission.IsDry) (misses : Nat)
    (vain : ∀ n < misses, ∃ reason, (w.dryOutcome mission env n).checked = .infeasible reason)
    (questions : Nat) :
    let s := ((run w questions (begin mission)).run env).1
    let requests := (s.log.filterMap Event.solve?).map Prod.fst
    let x0 := mission.scenario.start
    let limit := mission.rules.repairLimit
    (∀ leg controls, (w.dryOutcome mission env misses).checked = .feasible leg controls →
      misses ≤ limit → 2 * misses + 3 ≤ questions →
        s.result.status = .completed ∧ s.result.fault = none ∧
        requests = (List.range (misses + 1)).map mission.dryRequest ∧
        s.result.repairs = misses ∧ s.result.judgements = min 1 mission.rules.judgeLimit ∧
        s.result.messages = mission.dryMessages ∧
        s.result.trajectory.states = x0 :: leg.states.tail) ∧
    (limit < misses → 2 * limit + 2 ≤ questions →
        s.result.status = .aborted ∧ s.result.fault = some (.syntaxBudgetExhausted limit) ∧
        requests = (List.range (limit + 1)).map mission.dryRequest ∧
        s.result.repairs = limit ∧ s.result.messages = mission.dryMessages ∧
        s.result.trajectory.states = [x0]) := by
  intro s requests x0 limit
  constructor
  · intro leg controls found within enough
    have completed : DryCompleted w env mission misses leg s :=
      dryCompleted_of_run offline dry vain found within enough
    have asked : requests = _ := congrArg (·.map Prod.fst) completed.solved
    have fault : s.result.fault = none := by
      rw [result_fault, completed.stage]
      rfl
    exact ⟨status_of_ended completed.stage, fault, asked.trans (w.map_fst_drySolves ..),
      completed.counted, completed.judgements, completed.messages, completed.trajectory⟩
  · intro exceeds enough
    obtain ⟨soFar, stage⟩ : DrySoFar w env mission (limit + 1) limit s ∧
        s.stage = .ended (.aborted (.syntaxBudgetExhausted limit)) :=
      dryAborted_of_run offline dry (fun n before => vain n (Nat.lt_of_le_of_lt before exceeds))
        enough
    have asked : requests = _ := congrArg (·.map Prod.fst) soFar.solved
    have fault : s.result.fault = some (.syntaxBudgetExhausted limit) := by
      rw [result_fault, stage]
      rfl
    exact ⟨status_of_ended stage, fault, asked.trans (w.map_fst_drySolves ..), soFar.counted,
      soFar.messages, congrArg Trajectory.states soFar.trajectory⟩

/-- Offline, the solver fails twice, and then it finds a leg to the goal. -/
def thirdTryWorld : World (StateM Nat) where
  model messages := pure (.ok (Echo.reply messages))
  solver _ := fun calls =>
    (if calls < 2 then .infeasible "no formula"
      else .feasible ⟨[.atRest 0 0 0, .atRest 4.5 4.5 0.5]⟩ [], calls + 1)
  operator _ := pure (.ok none)

/-- A task in two lines that opens a pair which it does not close. -/
def bracketedMission (repairLimit : Nat) : Mission :=
  ⟨{ openRoom with task := "Reach <the\ngoal." }, ⟨"", "", ""⟩, { Rules.sparing with repairLimit }⟩

/-- Two repairs are enough, and one is not. -/
theorem third_try_is_flown_if_permitted :
    let s := ((run thirdTryWorld 7 (begin (bracketedMission 2))).run 0).1
    let t := ((run thirdTryWorld 4 (begin (bracketedMission 1))).run 0).1
    s.result.status = .completed ∧
      (s.log.filterMap Event.solve?).map (·.1.spec) =
        ["Reach <the goal.", "Original specification: Reach <the goal.",
          "Original specification: Original specification: Reach <the goal."] ∧
      s.result.trajectory.states = [.atRest 0 0 0, .atRest 4.5 4.5 0.5] ∧
      t.result.fault = some (.syntaxBudgetExhausted 1) := by
  have offline : thirdTryWorld.IsOffline := fun _ => rfl
  have said : "Reach <the\ngoal." ≠ "" := by decide
  have unclosed : '>' ∉ "Reach <the\ngoal.".toList := by decide
  have dry (limit : Nat) : (bracketedMission limit).IsDry :=
    ⟨said, unclosed, Nat.succ_pos 2, rfl, rfl, rfl, rfl⟩
  have vain (limit : Nat) : ∀ n < 2, ∃ reason,
      (thirdTryWorld.dryOutcome (bracketedMission limit) 0 n).checked = .infeasible reason
    | 0, _ => ⟨_, rfl⟩
    | 1, _ => ⟨_, rfl⟩
  have two :=
    dry_run_ends_as_solved thirdTryWorld offline 0 (bracketedMission 2) (dry 2) 2 (vain 2) 7
  have one :=
    dry_run_ends_as_solved thirdTryWorld offline 0 (bracketedMission 1) (dry 1) 2 (vain 1) 4
  obtain ⟨status, -, requests, -, -, -, flown⟩ := two.1 _ _ rfl (by decide) (by decide)
  obtain ⟨-, fault, -⟩ := one.2 (by decide) (by decide)
  refine ⟨status, ?_, flown, fault⟩
  have specs := congrArg (·.map SolveRequest.spec) requests
  rw [List.map_map] at specs
  exact specs.trans (by decide)

end Sortie
