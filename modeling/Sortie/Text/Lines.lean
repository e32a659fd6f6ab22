import Sortie.Text.Utf8
/-!
# Lines of a byte stream

A line ends with a line feed, and a carriage return right before it belongs to the end of
the line. What follows the last line feed is a line unless it is empty.
-/

namespace Sortie.Text

/-- The lines of a byte string. `line` holds the bytes of the current one, last first. -/
def byteLines (line : List UInt8) : List UInt8 → List (List UInt8)
  | [] => if line.isEmpty then [] else [line.reverse]
  | b :: rest =>
    if b = 10 then
      (match line with
        | 13 :: line => line.reverse
        | line => line.reverse) :: byteLines [] rest
    else byteLines (b :: line) rest

/-- What is said about a line that is not UTF-8. -/
def notText : String := "stream did not contain valid UTF-8"

def ofLine (line : List UInt8) : Except String String :=
  match Utf8.decode? line with
  | some text => .ok text
  | none => .error notText

/-- The lines of a byte string, each a text or the reason why it is none. -/
def lines (bytes : List UInt8) : List (Except String String) :=
  (byteLines [] bytes).map ofLine

end Sortie.Text
