import Sortie.Session.Basic
/-!
# Running sessions

A world answers questions: it has a model, a solver and an operator. A session is run in it
by putting each question to the world and going on with the answer. A session need not end,
as its operator may go on for ever, so a run is given a number of questions to put.
-/

namespace Sortie

/-- Who answers a session's questions. -/
structure World (m : Type → Type) where
  model : List Message → m (Except String String)
  solver : SolveRequest → m Outcome
  operator : String → m Operator.Line

def World.answer {m : Type → Type} [Monad m] (w : World m) : Query → m Answer
  | .model _ messages => return .reply (← w.model messages)
  | .solver request => return .outcome (← w.solver request)
  | .operator prompt => return .line (← w.operator prompt)

namespace Session

/-- Puts one question and goes on with the answer. -/
def step {m : Type → Type} [Monad m] (w : World m) (s : Session) : m Session :=
  match s.query with
  | none => return s
  | some q => return s.resume (← w.answer q)

/-- Puts up to `questions` questions, until the session is over. -/
def run {m : Type → Type} [Monad m] (w : World m) : Nat → Session → m Session
  | 0, s => return s
  | questions + 1, s =>
    match s.stage.ending? with
    | some _ => return s
    | none => do run w questions (← s.step w)

end Session
end Sortie
