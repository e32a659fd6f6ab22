/-!
# Comparing without regard to case

A text is compared with a word of ASCII letters after lower-casing. Besides the capitals of
ASCII only the Kelvin sign has a lower-case form inside ASCII, so lowering these characters
decides every such comparison.
-/

namespace Sortie.Text

/-- The lower-case form of a character where it is an ASCII letter, else
the character itself. -/
def lowerChar (c : Char) : Char :=
  if c = '\u212a' then 'k' else c.toLower

/-- A text with each character lowered; see `lowerChar`. -/
def lower (s : String) : String :=
  .ofList (s.toList.map lowerChar)

/-- The lower-case text `s` is the ASCII word `word`. -/
def readsAs (word s : String) : Bool :=
  lower s == word

/-- Equality up to the case of ASCII letters alone. -/
def equalsIgnoringAsciiCase (s t : String) : Bool :=
  s.toList.map Char.toLower == t.toList.map Char.toLower

end Sortie.Text
