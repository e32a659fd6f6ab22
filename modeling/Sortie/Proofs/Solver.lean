import Mathlib.Data.List.Forall2
import Sortie.Proofs.Rounding
import Sortie.Solver.Command
/-!
# What a solver's conduct comes to

A program that is run as a solver may do anything: not start, stop taking the request, end
badly or late or never, and write whatever bytes it likes. The main result says for each
conduct what the session has of it (`CommandSolver.answer`): a trajectory exactly if the
program ends well in time and its output reads as a reply that holds one
(`SolverReply.HoldsTrajectory`), and a reason otherwise.
-/

namespace Sortie

/-- Reading a list item by item succeeds if each item does. -/
theorem mapM_eq_some_iff {α β : Type} {f : α → Option β} {items : List α} {results : List β} :
    items.mapM f = some results ↔ List.Forall₂ (fun a b => f a = some b) items results := by
  induction items generalizing results with
  | nil =>
    rw [List.mapM_nil, List.forall₂_nil_left_iff]
    exact Option.some_inj.trans eq_comm
  | cons a rest ih =>
    rw [List.forall₂_cons_left_iff, List.mapM_cons]
    constructor
    · intro h
      obtain ⟨b, first, h⟩ := Option.bind_eq_some_iff.mp h
      obtain ⟨bs, others, h⟩ := Option.bind_eq_some_iff.mp h
      cases h
      exact ⟨b, bs, first, ih.mp others, rfl⟩
    · rintro ⟨b, bs, first, others, rfl⟩
      rw [first, ih.mpr others]
      rfl

/-- What every item is read as holds of all that is read. -/
theorem forall_mem_of_mapM {α β : Type} {f : α → Option β} {P : β → Prop} {items : List α}
    {results : List β} (each : ∀ a b, f a = some b → P b) (h : items.mapM f = some results) :
    ∀ b ∈ results, P b := by
  have read := mapM_eq_some_iff.mp h
  clear h
  induction read with
  | nil => nofun
  | cons first _ ih => exact List.forall_mem_cons.mpr ⟨each _ _ first, ih⟩

/-! ## Rows -/

/-- What is written as a component stands for itself, and `null` for no number. -/
def StandsFor : Option Float → Float → Prop
  | some y, x => x = y
  | none, x => x.isNaN = true

/-- The states are written as the rows, one by one. -/
def AreStatesOf (states : List State) (rows : List (List (Option Float))) : Prop :=
  List.Forall₂ (fun row s => List.Forall₂ StandsFor row s.components) rows states

theorem standsFor_iff {c : Option Float} {x : Float} : StandsFor c x ↔ c.getD (0.0 / 0.0) = x := by
  cases c with
  | some y => exact eq_comm
  | none =>
    have nan : (0.0 / 0.0 : Float).isNaN = true := by decide
    constructor
    · exact eq_of_isNaN nan
    · rintro rfl
      exact nan

namespace State

theorem ofComponents?_eq_some_iff {xs : List Float} {s : State} :
    ofComponents? xs = some s ↔ xs = s.components := by
  constructor
  · intro h
    unfold ofComponents? at h
    split at h
    · cases h
      rfl
    · cases h
  · rintro rfl
    rfl

theorem ofComponents?_eq_none_iff {xs : List Float} : ofComponents? xs = none ↔ xs.length ≠ 6 := by
  unfold ofComponents?
  split
  · simp
  · rename_i other
    refine iff_of_true rfl fun six => ?_
    match xs, six with
    | [x, y, z, vx, vy, vz], _ => exact other x y z vx vy vz rfl

end State

/-- Only a trajectory with a number in it is feasible. -/
theorem Outcome.checked_eq_feasible_iff {o : Outcome} {t : Trajectory} {controls : List Control} :
    o.checked = .feasible t controls ↔ o = .feasible t controls ∧ ¬ t.isAllInvalid = true := by
  cases o with
  | infeasible reason => exact iff_of_false nofun (nomatch ·.1)
  | feasible t' controls' =>
    rw [checked]
    constructor
    · intro h
      split at h
      · cases h
      · rename_i valid
        cases h
        exact ⟨rfl, valid⟩
    · rintro ⟨same, valid⟩
      cases same
      rw [if_neg valid]

namespace SolverReply

variable {row : List (Option Float)} {rows before rest : List (List (Option Float))}

theorem state?_eq_some_iff {s : State} :
    state? row = some s ↔ List.Forall₂ StandsFor row s.components := by
  rw [state?, State.ofComponents?_eq_some_iff, ← List.forall₂_eq_eq_eq, List.forall₂_map_left_iff]
  exact ⟨fun h => h.imp fun _ _ => standsFor_iff.mpr, fun h => h.imp fun _ _ => standsFor_iff.mp⟩

theorem state?_eq_none_iff : state? row = none ↔ row.length ≠ 6 := by
  rw [state?, State.ofComponents?_eq_none_iff, List.length_map]

theorem states_eq_ok_iff (step : Nat) {ss : List State} :
    states step rows = .ok ss ↔ AreStatesOf ss rows := by
  induction rows generalizing step ss with
  | nil =>
    rw [states, AreStatesOf, List.forall₂_nil_left_iff, Except.ok.injEq, eq_comm]
  | cons row rest ih =>
    constructor
    · intro h
      rw [states] at h
      split at h
      · rename_i s here
        cases others : states (step + 1) rest with
        | error reason =>
          rw [others] at h
          cases h
        | ok ss' =>
          rw [others] at h
          cases h
          exact .cons (state?_eq_some_iff.mp here) ((ih _).mp others)
      · cases h
    · intro h
      cases h with
      | cons here others =>
        rw [states, state?_eq_some_iff.mpr here]
        dsimp only
        rw [(ih _).mpr others]
        rfl

/-- What is said of a row of another length than six. -/
def wrongRow (step length : Nat) : String :=
  "state " ++ Decimal.digits step ++ " has " ++ Decimal.digits length ++ " components, expected 6"

theorem states_eq_error (step : Nat) (sound : ∀ r ∈ before, r.length = 6) (wrong : row.length ≠ 6) :
    states step (before ++ row :: rest) = .error (wrongRow (step + before.length) row.length) := by
  induction before generalizing step with
  | nil =>
    rw [List.nil_append, states, state?_eq_none_iff.mpr wrong]
    rfl
  | cons first before ih =>
    obtain ⟨six, sound⟩ := List.forall_mem_cons.mp sound
    rw [List.cons_append, states]
    cases h : state? first with
    | none => exact absurd six (state?_eq_none_iff.mp h)
    | some s =>
      dsimp only
      rw [ih _ sound, List.length_cons, Nat.add_assoc, Nat.add_comm 1]
      rfl

/-! ## What is read -/

/-- No component that is written as a number stands for no number. -/
def HoldsNumbers (row : List (Option Float)) : Prop :=
  ∀ c ∈ row, ∀ x : Float, c = some x → x.isNaN = false

theorem isNaN_component? {j : Json} {x : Float} (h : component? j = some (some x)) :
    x.isNaN = false := by
  cases j with
  | number lexeme =>
    obtain ⟨y, read, same⟩ := Option.map_eq_some_iff.mp h
    cases same
    exact Json.Number.isNaN_read read
  | null | bool | string | array | object => cases h

theorem holdsNumbers_row? {j : Json} (h : row? j = some row) : HoldsNumbers row := by
  obtain ⟨items, -, h⟩ := Option.bind_eq_some_iff.mp h
  refine forall_mem_of_mapM (fun item c read x number => ?_) h
  subst number
  exact isNaN_component? read

theorem holdsNumbers_rows? {j : Json} (h : rows? j = some rows) :
    ∀ row ∈ rows, HoldsNumbers row := by
  obtain ⟨items, -, h⟩ := Option.bind_eq_some_iff.mp h
  exact forall_mem_of_mapM (fun _ _ => holdsNumbers_row?) h

theorem holdsNumbers_ofJson? {j : Json} {reply : SolverReply} (h : ofJson? j = some reply) :
    ∀ row ∈ reply.rows, HoldsNumbers row := by
  unfold ofJson? at h
  split at h
  · obtain ⟨rows, read, h⟩ := Option.bind_eq_some_iff.mp h
    obtain ⟨controls, -, h⟩ := Option.bind_eq_some_iff.mp h
    obtain ⟨error, -, h⟩ := Option.bind_eq_some_iff.mp h
    cases h
    exact holdsNumbers_rows? read
  · obtain ⟨found, -, h⟩ := Option.bind_eq_some_iff.mp h
    obtain ⟨rows, read, h⟩ := Option.bind_eq_some_iff.mp h
    obtain ⟨controls, -, h⟩ := Option.bind_eq_some_iff.mp h
    obtain ⟨error, -, h⟩ := Option.bind_eq_some_iff.mp h
    cases h
    cases states : found.lookup "states" with
    | none =>
      rw [states] at read
      cases read
      nofun
    | some j =>
      rw [states] at read
      exact holdsNumbers_rows? read
  · cases h

theorem holdsNumbers_read? {text : String} {reply : SolverReply} (h : read? text = some reply) :
    ∀ row ∈ reply.rows, HoldsNumbers row := by
  rw [read?] at h
  obtain ⟨j, -, h⟩ := Option.bind_eq_some_iff.mp h
  exact holdsNumbers_ofJson? h

/-! ## Replies -/

/-- A reply without an error, of six components in each row, at least one
of which is a number. -/
structure HoldsTrajectory (reply : SolverReply) : Prop where
  noError : reply.error = none
  sixInRow : ∀ row ∈ reply.rows, row.length = 6
  number : ∃ row ∈ reply.rows, ∃ x : Float, some x ∈ row

theorem exists_areStatesOf (six : ∀ row ∈ rows, row.length = 6) : ∃ ss, AreStatesOf ss rows := by
  induction rows with
  | nil => exact ⟨[], .nil⟩
  | cons row rest ih =>
    obtain ⟨here, others⟩ := List.forall_mem_cons.mp six
    obtain ⟨ss, others⟩ := ih others
    cases h : state? row with
    | none => exact absurd here (state?_eq_none_iff.mp h)
    | some s => exact ⟨s :: ss, .cons (state?_eq_some_iff.mp h) others⟩

theorem length_of_areStatesOf {ss : List State} (h : AreStatesOf ss rows) :
    ∀ row ∈ rows, row.length = 6 := by
  induction h with
  | nil => nofun
  | cons here _ ih => exact List.forall_mem_cons.mpr ⟨here.length_eq, ih⟩

/-- Where numbers are numbers, a sample without any is a row without any. -/
theorem isAllNaN_iff {s : State} (numbers : HoldsNumbers row)
    (h : List.Forall₂ StandsFor row s.components) :
    s.isAllNaN = true ↔ ∀ c ∈ row, c = none := by
  rw [State.isAllNaN]
  generalize s.components = xs at h
  induction h with
  | nil => simp
  | @cons c x row xs here _ ih =>
    obtain ⟨number, numbers⟩ := List.forall_mem_cons.mp numbers
    rw [List.all_cons, Bool.and_eq_true, ih numbers, List.forall_mem_cons]
    refine and_congr_left' ?_
    cases c with
    | none => exact iff_of_true here rfl
    | some y =>
      obtain rfl : x = y := here
      exact iff_of_false (by rw [number x rfl]; exact Bool.false_ne_true) nofun

theorem isAllInvalid_iff {t : Trajectory} (numbers : ∀ row ∈ rows, HoldsNumbers row)
    (h : AreStatesOf t.states rows) :
    t.isAllInvalid = true ↔ ∀ row ∈ rows, ∀ c ∈ row, c = none := by
  rw [Trajectory.isAllInvalid]
  generalize t.states = ss at h
  induction h with
  | nil => simp
  | cons here _ ih =>
    obtain ⟨number, numbers⟩ := List.forall_mem_cons.mp numbers
    rw [List.all_cons, Bool.and_eq_true, ih numbers, List.forall_mem_cons, isAllNaN_iff number here]

theorem outcome_eq_feasible_iff {reply : SolverReply} {t : Trajectory} {controls : List Control} :
    reply.outcome = .feasible t controls ↔
      reply.error = none ∧ AreStatesOf t.states reply.rows ∧ controls = reply.controls := by
  rw [outcome]
  cases reply.error with
  | some error => exact iff_of_false nofun (nomatch ·.1)
  | none =>
    rw [← states_eq_ok_iff 0]
    cases states 0 reply.rows with
    | error reason => exact iff_of_false nofun (nomatch ·.2.1)
    | ok ss =>
      constructor
      · intro h
        cases h
        exact ⟨rfl, rfl, rfl⟩
      · rintro ⟨-, same, rfl⟩
        cases same
        rfl

theorem checked_outcome_eq_feasible_iff {reply : SolverReply}
    (numbers : ∀ row ∈ reply.rows, HoldsNumbers row) {t : Trajectory} {controls : List Control} :
    reply.outcome.checked = .feasible t controls ↔
      reply.HoldsTrajectory ∧ AreStatesOf t.states reply.rows ∧ controls = reply.controls := by
  rw [Outcome.checked_eq_feasible_iff, outcome_eq_feasible_iff]
  constructor
  · rintro ⟨⟨noError, states, unchanged⟩, valid⟩
    refine ⟨⟨noError, length_of_areStatesOf states, ?_⟩, states, unchanged⟩
    by_contra nowhere
    refine valid ((isAllInvalid_iff numbers states).mpr fun row mem c hc => ?_)
    cases c with
    | none => rfl
    | some x => exact absurd ⟨row, mem, x, hc⟩ nowhere
  · rintro ⟨⟨noError, -, row, mem, x, hx⟩, states, unchanged⟩
    refine ⟨⟨noError, states, unchanged⟩, fun invalid => ?_⟩
    cases (isAllInvalid_iff numbers states).mp invalid row mem _ hx

theorem outcome_of_error {reply : SolverReply} {error : String} (h : reply.error = some error) :
    reply.outcome = .infeasible ("Solver failed: " ++ error) := by
  rw [outcome, h]

theorem outcome_of_wrong_row {reply : SolverReply} (noError : reply.error = none)
    (rows : reply.rows = before ++ row :: rest) (sound : ∀ r ∈ before, r.length = 6)
    (wrong : row.length ≠ 6) :
    reply.outcome = .infeasible (wrongRow before.length row.length) := by
  rw [outcome, noError, rows]
  dsimp only
  rw [states_eq_error 0 sound wrong, Nat.zero_add]

end SolverReply

namespace CommandSolver

variable {solver : CommandSolver} {conduct : Conduct} {reply : SolverReply}

/-- So many nanoseconds after its start, a program's time is not yet
up; `0` sets no limit. -/
def InTime (solver : CommandSolver) (after : Nat) : Prop :=
  solver.timeout = 0 ∨ after < solver.timeout * 1000000000

/-- The program takes the whole request and ends well in time, and its
output is the reply. -/
inductive Hears (solver : CommandSolver) : Conduct → SolverReply → Prop
  | intro {after : Nat} {output complaints : List UInt8} {reply : SolverReply}
      (inTime : solver.InTime after)
      (read : SolverReply.read? (Text.Utf8.decodeLossy output) = some reply) :
      Hears solver (.ends after (some 0) output complaints) reply

/-- What a session has of a program's conduct; nothing ever of one that hangs for good. -/
def answer (solver : CommandSolver) (conduct : Conduct) : Option Outcome :=
  (solver.watch conduct).map fun run => (solver.outcome run).checked

theorem allows_iff {after : Nat} : solver.allows after = true ↔ solver.InTime after := by
  simp [allows, InTime]

theorem outcome_of_good_exit (output complaints : List UInt8) :
    solver.outcome (.finished (some 0) output complaints) =
      .read (Text.Utf8.decodeLossy output) := by
  rw [outcome, if_pos rfl]

theorem answer_of_hears (h : solver.Hears conduct reply) :
    solver.answer conduct = some reply.outcome.checked := by
  obtain ⟨inTime, read⟩ := h
  rw [answer, watch, if_pos (allows_iff.mpr inTime), Option.map_some, outcome_of_good_exit,
    Outcome.read, read]

theorem numbers_of_hears (h : solver.Hears conduct reply) :
    ∀ row ∈ reply.rows, SolverReply.HoldsNumbers row := by
  obtain ⟨-, read⟩ := h
  exact SolverReply.holdsNumbers_read? read

theorem conduct_of_finished {code : Option Nat} {output complaints : List UInt8}
    (h : solver.watch conduct = some (.finished code output complaints)) :
    ∃ after, solver.InTime after ∧ conduct = .ends after code output complaints := by
  cases conduct with
  | ends after code' output' complaints' =>
    rw [watch, Option.some_inj] at h
    split at h
    · rename_i allowed
      cases h
      exact ⟨after, allows_iff.mp allowed, rfl⟩
    · cases h
  | notStarted => cases h
  | refuses | lost =>
    rw [watch, Option.some_inj] at h
    split at h <;> cases h
  | hangs =>
    rw [watch] at h
    split at h <;> cases h

/-- Whatever else becomes of a program, the session has no trajectory of it. -/
theorem hears_of_feasible {t : Trajectory} {controls : List Control}
    (h : solver.answer conduct = some (.feasible t controls)) :
    ∃ reply, solver.Hears conduct reply := by
  obtain ⟨run, watched, passed⟩ := Option.map_eq_some_iff.mp h
  obtain ⟨found, -⟩ := Outcome.checked_eq_feasible_iff.mp passed
  cases run with
  | finished code output complaints =>
    obtain ⟨after, inTime, rfl⟩ := conduct_of_finished watched
    rw [outcome] at found
    split at found
    · rename_i well
      subst well
      unfold Outcome.read at found
      split at found
      · rename_i reply read
        exact ⟨reply, .intro inTime read⟩
      · cases found
    · cases found
  | notStarted | refusedRequest | lost | overran => cases found

theorem answer_eq_none_iff :
    solver.answer conduct = none ↔ conduct = .hangs ∧ solver.timeout = 0 := by
  rw [answer, Option.map_eq_none_iff]
  cases conduct with
  | hangs => simp [watch]
  | notStarted | refuses | lost | ends => exact iff_of_false nofun (nomatch ·.1)

/-- What is written to the output does not matter if the exit is not a good one. -/
theorem answer_of_failing_exit {after : Nat} {code : Option Nat} (inTime : solver.InTime after)
    (bad : code ≠ some 0) (output complaints : List UInt8) :
    solver.answer (.ends after code output complaints) =
      some (.infeasible ("Solver failed: exit " ++ codeText code ++ ": " ++
        Text.trim (Text.Utf8.decodeLossy complaints))) := by
  rw [answer, watch, if_pos (allows_iff.mpr inTime), Option.map_some, outcome, if_neg bad]
  rfl

/-- Of every conduct of a program a session has a trajectory or a reason why there is none,
unless the program hangs and may take any time. It has a trajectory exactly if the program
takes the whole request and ends well in time, and its output is a reply without an error,
of six components in each row, at least one of which is a number. The states are then those
of the rows, with no number for each `null`, and the controls are the reply's. Otherwise
the output does not matter if the exit is not a good one, the rows do not matter if there
is an error, and of several wrong rows the first is told. -/
theorem answer_feasible_iff (solver : CommandSolver) (conduct : Conduct) :
    ((∃ t controls, solver.answer conduct = some (.feasible t controls)) ↔
      ∃ reply, solver.Hears conduct reply ∧ reply.HoldsTrajectory) ∧
    (∀ t controls, solver.answer conduct = some (.feasible t controls) →
      ∃ reply, solver.Hears conduct reply ∧ AreStatesOf t.states reply.rows ∧
        controls = reply.controls) ∧
    ((¬ ∃ reply, solver.Hears conduct reply ∧ reply.HoldsTrajectory) →
      ¬ (conduct = .hangs ∧ solver.timeout = 0) →
      ∃ reason, solver.answer conduct = some (.infeasible reason)) ∧
    (conduct = .hangs ∧ solver.timeout = 0 → solver.answer conduct = none) ∧
    (∀ after code output complaints, conduct = .ends after code output complaints →
      solver.InTime after → code ≠ some 0 →
      solver.answer conduct = some (.infeasible ("Solver failed: exit " ++ codeText code ++ ": " ++
        Text.trim (Text.Utf8.decodeLossy complaints)))) ∧
    (∀ reply error, solver.Hears conduct reply → reply.error = some error →
      solver.answer conduct = some (.infeasible ("Solver failed: " ++ error))) ∧
    (∀ (reply : SolverReply) (before rest : List (List (Option Float))) (row : List (Option Float)),
      solver.Hears conduct reply → reply.error = none →
      reply.rows = before ++ row :: rest → (∀ r ∈ before, r.length = 6) → row.length ≠ 6 →
      solver.answer conduct =
        some (.infeasible (SolverReply.wrongRow before.length row.length))) := by
  have feasible {t controls} (h : solver.answer conduct = some (.feasible t controls)) :
      ∃ reply, solver.Hears conduct reply ∧ reply.HoldsTrajectory ∧
        AreStatesOf t.states reply.rows ∧ controls = reply.controls := by
    obtain ⟨reply, hears⟩ := hears_of_feasible h
    rw [answer_of_hears hears, Option.some_inj] at h
    exact ⟨reply, hears,
      (SolverReply.checked_outcome_eq_feasible_iff (numbers_of_hears hears)).mp h⟩
  have answered {reply} (hears : solver.Hears conduct reply) (holds : reply.HoldsTrajectory) :
      ∃ t controls, solver.answer conduct = some (.feasible t controls) := by
    obtain ⟨ss, states⟩ := SolverReply.exists_areStatesOf holds.sixInRow
    refine ⟨⟨ss⟩, reply.controls, ?_⟩
    rw [answer_of_hears hears,
      (SolverReply.checked_outcome_eq_feasible_iff (numbers_of_hears hears)).mpr
        ⟨holds, states, rfl⟩]
  -- Trajectory or not, what it holds, the reason, the hanging program,
  -- and the three faults.
  refine ⟨⟨?_, ?_⟩, ?_, ?_, answer_eq_none_iff.mpr, ?_, ?_, ?_⟩
  · rintro ⟨t, controls, h⟩
    obtain ⟨reply, hears, holds, -⟩ := feasible h
    exact ⟨reply, hears, holds⟩
  · rintro ⟨reply, hears, holds⟩
    exact answered hears holds
  · intro t controls h
    obtain ⟨reply, hears, -, states, unchanged⟩ := feasible h
    exact ⟨reply, hears, states, unchanged⟩
  · intro nothing ends
    cases h : solver.answer conduct with
    | none => exact absurd (answer_eq_none_iff.mp h) ends
    | some o =>
      cases o with
      | infeasible reason => exact ⟨reason, rfl⟩
      | feasible t controls =>
        obtain ⟨reply, hears, holds, -⟩ := feasible h
        exact absurd ⟨reply, hears, holds⟩ nothing
  · rintro after code output complaints rfl inTime bad
    exact answer_of_failing_exit inTime bad output complaints
  · intro reply error hears told
    rw [answer_of_hears hears, SolverReply.outcome_of_error told]
    rfl
  · intro reply before rest row hears noError rows sound wrong
    rw [answer_of_hears hears, SolverReply.outcome_of_wrong_row noError rows sound wrong]
    rfl

/-- A program that ends a nanosecond before its second is over, with a
coordinate left out. -/
theorem answer_with_gap_in_row :
    let solver : CommandSolver := { program := "solve", arguments := [], timeout := 1 }
    ∃ t controls,
      solver.answer (.ends 999999999 (some 0)
        (Text.Utf8.encode " [[[1,null,0,0,0,0]],[[1,0,0]],null]\n") []) =
          some (.feasible t controls) := by
  have read : (SolverReply.read? (Text.Utf8.decodeLossy
      (Text.Utf8.encode " [[[1,null,0,0,0,0]],[[1,0,0]],null]\n"))).map
        (fun reply => (reply.rows, reply.error)) =
      some ([[some 1, none, some 0, some 0, some 0, some 0]], none) := by
    decide +kernel
  obtain ⟨reply, read, parts⟩ := Option.map_eq_some_iff.mp read
  obtain ⟨rows, noError⟩ := Prod.mk.inj parts
  refine (answer_feasible_iff _ _).1.mpr ⟨reply, .intro (.inr (by decide)) read, noError, ?_, ?_⟩
  · rw [rows]
    simp
  · rw [rows]
    exact ⟨_, List.mem_singleton_self _, 1, List.mem_cons_self⟩

end CommandSolver
end Sortie
