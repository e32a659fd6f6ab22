/-!
# Finding, replacing and splitting

Both walk the text once from the left. A replacement goes on after the word that it
replaced, so occurrences do not overlap and inserted text is not searched.
-/

namespace Sortie.Text

/-- The word `word` stands somewhere in the text. -/
def occurs (word : List Char) : List Char → Bool
  | [] => word.isEmpty
  | c :: rest => word.isPrefixOf (c :: rest) || occurs word rest

/-- Replacing while the next `skip` characters still belong to a word already replaced. -/
def replaceFrom (word new : List Char) : Nat → List Char → List Char
  | _, [] => []
  | skip + 1, _ :: rest => replaceFrom word new skip rest
  | 0, c :: rest =>
    if word.isPrefixOf (c :: rest) then new ++ replaceFrom word new (word.length - 1) rest
    else c :: replaceFrom word new 0 rest

/-- Every occurrence of `word`, from the left and without overlap, becomes `new`. -/
def replaceAll (word new text : List Char) : List Char :=
  replaceFrom word new 0 text

/-- The text `s` contains the word `word`. -/
def contains (s word : String) : Bool :=
  occurs word.toList s.toList

/-- The text `s` with every occurrence of `word` replaced by `new`. -/
def replace (s word new : String) : String :=
  .ofList (replaceAll word.toList new.toList s.toList)

/-- The texts between the characters `mark`. -/
def splitAt (mark : Char) : List Char → List (List Char)
  | [] => [[]]
  | c :: rest =>
    match splitAt mark rest with
    | [] => [[c]]
    | part :: parts => if c = mark then [] :: part :: parts else (c :: part) :: parts

end Sortie.Text
