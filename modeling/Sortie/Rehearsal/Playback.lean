import Sortie.Rehearsal.Shell.Basic
/-!
# Played-back runs

A solver that takes its request and then plays what was recorded: one run after the other,
and the last one again and again. Tests use it in place of a solver's process; it is no
part of the program.
-/

namespace Sortie

/-- A recorded run. -/
inductive Recording where
  | ends (run : Shell.Run)
  | hangs

/-- The runs to play, and the requests that were taken. -/
structure Playback where
  recordings : List Recording := []
  requests : List String := []
  /-- Some run never ended. -/
  hung : Bool := false

/-- Running something while recorded runs are played. What hangs gives nothing. -/
abbrev Play := OptionT (StateM Playback)

namespace Playback

def hang {α : Type} : Play α := do
  modify fun p => { p with hung := true }
  failure

/-- Plays the next run on a request. -/
def play (request : String) : Play Shell.Run := do
  let p ← get
  let (recording, recordings) := match p.recordings with
    | [] => (Recording.ends {}, [])
    | [last] => (last, [last])
    | next :: rest => (next, rest)
  set { p with recordings, requests := p.requests ++ [request] }
  match recording with
  | .ends run => return run
  | .hangs => hang

end Playback
end Sortie
