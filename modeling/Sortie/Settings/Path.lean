import Sortie.Settings.Tree
import Sortie.Text.Search
/-!
# Putting settings into a tree

The name of a setting may be a path: names with points between them, and positions of lists
in brackets. What is missing on the way comes to be, and what is no table or list where one
is needed gives way to one. Tables are merged, any other value takes the place of the old
one. Names do not depend on case, except in tables inside of lists.
-/

namespace Sortie.Settings

/-- A step from a tree to one of its parts. -/
inductive Step where
  | name (name : String)
  /-- A position in a list; a negative one counts from the end. -/
  | position (n : Int)
  deriving Repr, BEq, DecidableEq, Inhabited

/-! ## Reading paths -/

/-- A character of a name in a path. -/
def isNameChar (c : Char) : Bool :=
  c.isAlphanum || c = '_' || c = '-' || c = ' '

/-- A blank inside brackets. -/
def isBracketBlank (c : Char) : Bool :=
  c = ' ' || c = '\t'

def readName? (cs : List Char) : Option (Step × List Char) :=
  let name := cs.takeWhile isNameChar
  if name.isEmpty then none else some (.name (.ofList name), cs.dropWhile isNameChar)

/-- Reads a position and the bracket after it. -/
def readPosition? (cs : List Char) : Option (Step × List Char) :=
  let cs := cs.dropWhile isBracketBlank
  let (negative, cs) := match cs with
    | '-' :: rest => (true, rest)
    | cs => (false, cs)
  let n := Decimal.valueOf (cs.takeWhile Decimal.isDigit)
  let fits := n ≤ if negative then Decimal.mostSigned64 + 1 else Decimal.mostSigned64
  match (cs.dropWhile Decimal.isDigit).dropWhile isBracketBlank with
  | ']' :: rest =>
    if (cs.takeWhile Decimal.isDigit).isEmpty || !fits then none
    else some (.position (if negative then -(n : Int) else n), rest)
  | _ => none

/-- Reads the steps after the first. There are no more of them than characters. -/
def readSteps? : Nat → List Char → Option (List Step)
  | _, [] => some []
  | fuel + 1, '.' :: rest => do
    let (step, rest) ← readName? rest
    return step :: (← readSteps? fuel rest)
  | fuel + 1, '[' :: rest => do
    let (step, rest) ← readPosition? rest
    return step :: (← readSteps? fuel rest)
  | _, _ => none

/-- The path that a name stands for; a name that is none stands for itself. -/
def pathOf (name : String) : List Step :=
  let steps? := do
    let (step, rest) ← readName? name.toList
    return step :: (← readSteps? rest.length rest)
  steps?.getD [.name name]

/-! ## Putting values -/

namespace Tree

/-- The entry with a name; names are kept in lower case. -/
def entry? (tree : Tree) (name : String) : Option Tree :=
  tree.entries.lookup (Text.lower name)

/-- The tree with one entry set; a tree that is no table becomes one. -/
def setEntry (tree : Tree) (name : String) (v : Tree) : Tree :=
  .table (replaceEntry (Text.lower name) v tree.entries)

mutual

/-- Puts a value under a name. -/
def put (tree : Tree) (name : String) : Tree → Tree
  | .table incoming =>
    tree.setEntry name (putAll ((tree.entry? name).getD (.table [])) incoming)
  | v => tree.setEntry name v

/-- Puts each of some entries under its name. -/
def putAll (tree : Tree) : List (String × Tree) → Tree
  | [] => tree
  | (name, v) :: rest => putAll (tree.put name v) rest

end

/-- The place in a list of `length` items that a position names. -/
def place (length : Nat) (position : Int) : Nat :=
  if 0 ≤ position then position.toNat else length - position.natAbs

/-- The items with one of them changed; the list grows as far as needed. -/
def changeItem (items : List Tree) (position : Int) (change : Tree → Tree) : List Tree :=
  let place := place items.length position
  let items := items ++ List.replicate (place + 1 - items.length) .nothing
  items.set place (change (items.getD place .nothing))

/-- Puts a value at the end of a path. -/
def putAt (v : Tree) : List Step → Tree → Tree
  | [], _ => v
  | [.name name], tree => tree.put name v
  | .name name :: path, tree =>
    tree.setEntry name (putAt v path ((tree.entry? name).getD .nothing))
  | .position n :: path, tree => .list (changeItem tree.items n (putAt v path))

/-- Puts the entries of a source into the tree. -/
def merge (tree : Tree) (source : List (String × Tree)) : Tree :=
  source.foldl (fun tree (name, v) => putAt v (pathOf name) tree) tree

end Tree
end Sortie.Settings
