import Sortie.Text.Utf8
/-!
# Runs of commands

What running a command comes to: how it ends, what it prints, and what it complains about.

The modules of this folder are a small shell, which stands in for a real one where a test
plays back the process of a solver: the test gives a script, and here the script is run
without any process. The shell is no part of the program, which leaves it to its host how a
solver is started, and no result speaks of it.
-/

namespace Sortie.Shell

/-- How a command ends. -/
inductive Ending where
  | code (n : Nat)
  /-- A signal kills it. -/
  | signal (n : Nat)
  deriving Repr, BEq, DecidableEq, Inhabited

/-- The exit code, if there is one. -/
def Ending.code? : Ending → Option Nat
  | code n => some n
  | signal _ => none

/-- The code that a shell sees. -/
def Ending.status : Ending → Nat
  | code n => n
  | signal n => 128 + n

/-- The stream that output is printed on. -/
def outputStream : Nat := 1

/-- The stream that complaints are printed on. -/
def complaintStream : Nat := 2

/-- What running a command or a script comes to: how it ends, and what it prints on
which stream, in order. -/
structure Run where
  ending : Ending := .code 0
  pieces : List (Nat × List UInt8) := []
  deriving Repr, BEq, DecidableEq, Inhabited

namespace Run

/-- What is printed on a stream. -/
def on (run : Run) (stream : Nat) : List UInt8 :=
  run.pieces.flatMap fun (n, bytes) => if n = stream then bytes else []

def append (before after : Run) : Run :=
  { ending := after.ending, pieces := before.pieces ++ after.pieces }

def prints (bytes : List UInt8) : Run :=
  { pieces := [(outputStream, bytes)] }

/-- A run that prints a text. -/
def printed (text : String) : Run :=
  prints (Text.Utf8.encode text)

/-- A run that ends with a code and a complaint. -/
def complaint (code : Nat) (text : String) : Run :=
  { ending := .code code, pieces := [(complaintStream, Text.Utf8.encode (text ++ "\n"))] }

/-- What the shell says about a signal that killed a command. -/
def signalText (n : Nat) : String :=
  ([(1, "Hangup\n"), (2, ""), (3, "Quit\n"), (4, "Illegal instruction\n"),
    (5, "Trace/breakpoint trap\n"), (6, "Aborted\n"), (7, "Bus error\n"),
    (8, "Floating point exception\n"), (9, "Killed\n"), (10, "User defined signal 1\n"),
    (11, "Segmentation fault\n"), (12, "User defined signal 2\n"), (13, ""),
    (14, "Alarm clock\n"), (15, "Terminated\n")].lookup n).getD ""

/-- A run that the shell has waited for: a signal becomes a code and a complaint. -/
def awaited (run : Run) : Run :=
  match run.ending with
  | .code _ => run
  | .signal n =>
    { ending := .code (128 + n)
      pieces := run.pieces ++ [(complaintStream, Text.Utf8.encode (signalText n))] }

end Run
end Sortie.Shell
