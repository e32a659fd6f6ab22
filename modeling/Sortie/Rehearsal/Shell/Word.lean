import Sortie.Text.Search
/-!
# Words of a script

A word is made of characters and of signs that stand for values. Quotes hold together what
belongs to one word; a value outside of them is split at its blanks. The scripts are those
of solvers that are played back in tests; the program reads none.
-/

namespace Sortie.Shell

/-- What a sign in a word stands for. -/
inductive Parameter where
  /-- The code with which the command before ended. -/
  | lastCode
  /-- How many arguments the script has. -/
  | count
  | itself
  | argument (n : Nat)
  | allArguments
  | named (name : String)
  deriving Repr, BEq, DecidableEq, Inhabited

inductive Piece where
  | char (c : Char)
  /-- A character that has no meaning of its own. -/
  | quoted (c : Char)
  /-- A quote begins: there is a word, even if it is empty. -/
  | quote
  | value (parameter : Parameter) (isQuoted : Bool)
  deriving Repr, BEq, DecidableEq, Inhabited

abbrev Word := List Piece

/-- A character that a name can begin with. -/
def isNameStart (c : Char) : Bool :=
  c.isAlpha || c = '_'

namespace Word

/-- The text of a word without quotes and values. -/
def plain? (word : Word) : Option String :=
  let char? : Piece → Option Char
    | .char c => some c
    | _ => none
  (word.mapM char?).map String.ofList

/-- The stream that a word of one digit names. -/
def stream? : Word → Option Nat
  | [.char c] => if c.isDigit then some (c.toNat - 48) else none
  | _ => none

/-- A word that gives a name to a value: the name, and the word for the value. -/
def assignment? (word : Word) : Option (String × Word) :=
  let isPlain : Piece → Bool
    | .char c => isNameStart c || c.isDigit
    | _ => false
  match plain? (word.takeWhile isPlain), word.dropWhile isPlain with
  | some name, .char '=' :: value =>
    if name.toList.head?.any isNameStart then some (name, value) else none
  | _, _ => none

end Word

/-! ## Words at work -/

/-- The words that a word has become so far, last first, and the one that goes on. -/
structure Fields where
  done : List String := []
  current : Option String := none

namespace Fields

/-- Puts a text at the end of the word that goes on. -/
def add (f : Fields) (text : String) : Fields :=
  { f with current := some (f.current.getD "" ++ text) }

/-- Ends the word that goes on. -/
def cut (f : Fields) : Fields :=
  match f.current with
  | none => f
  | some text => { done := text :: f.done }

/-- Puts a text at the end; blanks in it end words. -/
def addSplit (f : Fields) (text : String) : Fields :=
  text.toList.foldl
    (fun f c => if c = ' ' || c = '\t' || c = '\n' then f.cut else f.add (.singleton c)) f

/-- Puts texts at the end, each in a word of its own. -/
def addEach (add : Fields → String → Fields) (f : Fields) : List String → Fields
  | [] => f
  | [text] => add f text
  | text :: rest => addEach add (add f text).cut rest

end Fields

/-- The words that a word stands for. Without arguments all of them, in
quotes, are no word. -/
def Word.fields (values : Parameter → List String) (word : Word) : List String :=
  let last := word.foldl
    (fun (f : Fields) piece => match piece with
      | .char c | .quoted c => f.add (.singleton c)
      | .quote => if word.contains (.value .allArguments true) then f else f.add ""
      | .value p true => f.addEach Fields.add (values p)
      | .value p false => f.addEach Fields.addSplit (values p)) {}
  last.cut.done.reverse

end Sortie.Shell
