import Sortie.Toml.Scalar
import Sortie.Toml.Table
/-!
# Reading a document

A document is read line by line. Lists and tables in line may nest to a limited depth.
-/

namespace Sortie.Toml

/-- How deep values may nest, and how many parts a key may have. -/
def deepest : Nat := 79

/-- Drops blanks, line breaks and comments, as they may stand between
the items of a list. -/
def skipGap (inComment : Bool) : List Char → List Char
  | [] => []
  | '\n' :: rest => skipGap false rest
  | '\r' :: '\n' :: rest => skipGap false rest
  | c :: rest =>
    if inComment then if isPlain c then skipGap true rest else c :: rest
    else if isBlank c then skipGap false rest
    else if c = '#' then skipGap true rest
    else c :: rest

/-- Reads a key with points, and the equals sign after it: the parts before
the last, and the last. -/
def readName? (cs : List Char) : Option ((List String × String) × List Char) := do
  let (parts, rest) ← readKey? deepest cs
  let name ← parts.getLast?
  let rest ← mark? '=' rest
  return ((parts.dropLast, name), skipBlanks rest)

mutual

/-- Reads a value that lies inside `depth` others. -/
def readValue? : Nat → Nat → List Char → Option (Toml × List Char)
  | 0, _, _ => none
  | fuel + 1, depth, '[' :: rest =>
    if depth < deepest then readItems? fuel depth [] (skipGap false rest) else none
  | fuel + 1, depth, '\x7b' :: rest =>
    if depth < deepest then
      match skipBlanks rest with
      | '\x7d' :: rest => some (.table [], rest)
      | rest => readPairs? fuel depth [] rest
    else none
  | _ + 1, _, cs => readScalar? cs

/-- Reads the items of a list up to its end; a comma may stand after the last one. -/
def readItems? : Nat → Nat → List Toml → List Char → Option (Toml × List Char)
  | 0, _, _, _ => none
  | _ + 1, _, done, ']' :: rest => some (.list done.reverse, rest)
  | fuel + 1, depth, done, cs =>
    match readValue? fuel (depth + 1) cs with
    | none => none
    | some (v, rest) =>
      match skipGap false rest with
      | ',' :: rest => readItems? fuel depth (v :: done) (skipGap false rest)
      | ']' :: rest => some (.list (v :: done).reverse, rest)
      | _ => none

/-- Reads the entries of a table in line up to its end. -/
def readPairs? : Nat → Nat → Entries → List Char → Option (Toml × List Char)
  | 0, _, _, _ => none
  | fuel + 1, depth, entries, cs =>
    match readName? cs with
    | none => none
    | some ((parents, name), rest) =>
      match readValue? fuel (depth + 1) rest with
      | none => none
      | some (v, rest) =>
        match assign parents name v .declared entries, skipBlanks rest with
        | some entries, ',' :: rest => readPairs? fuel depth entries rest
        | some entries, '\x7d' :: rest => some (.table (finishEntries entries), rest)
        | _, _ => none

end

/-- What a line of a document does. -/
inductive Line where
  | header (path : List String) (name : String)
  | repeatedHeader (path : List String) (name : String)
  | entry (parents : List String) (name : String) (v : Toml)

/-- Takes the end of a line, after blanks and perhaps a comment. -/
def endOfLine? (cs : List Char) : Option (List Char) :=
  let rest := match skipBlanks cs with
    | '#' :: comment => comment.dropWhile isPlain
    | rest => rest
  if rest.isEmpty then some [] else lineBreak? rest

/-- Reads the path in a header, and `closing` after it. -/
def readPath? (closing cs : List Char) : Option ((List String × String) × List Char) := do
  let (parts, rest) ← readKey? deepest cs
  let name ← parts.getLast?
  if closing.isPrefixOf rest then return ((parts.dropLast, name), rest.drop closing.length)
  else none

/-- Reads what stands at the front of a line, if it is not empty. -/
def readLine? (cs : List Char) : Option (Option Line × List Char) :=
  match cs with
  | '[' :: '[' :: rest => do
    let ((path, name), rest) ← readPath? [']', ']'] rest
    return (some (.repeatedHeader path name), rest)
  | '[' :: rest => do
    let ((path, name), rest) ← readPath? [']'] rest
    return (some (.header path name), rest)
  | c :: _ =>
    if c = '#' || (lineBreak? cs).isSome then some (none, cs)
    else do
      let ((parents, name), rest) ← readName? cs
      let (v, rest) ← readValue? (rest.length + 1) 0 rest
      return (some (.entry parents name v), rest)
  | [] => some (none, [])

/-- Reads the lines of a document; there are no more of them than characters. -/
def readLines? : Nat → List Char → Option (List Line)
  | _, [] => some []
  | 0, _ => none
  | fuel + 1, cs => do
    let (line, rest) ← readLine? (skipBlanks cs)
    let lines ← readLines? fuel (← endOfLine? rest)
    return line.toList ++ lines

/-- Carries out the lines of a document; `current` is the path of the last header. -/
def build (current : List String) (entries : Entries) : List Line → Option Entries
  | [] => some entries
  | .header path name :: rest => do
    let entries ← descend .implied (declare name) path .declared entries
    build (path ++ [name]) entries rest
  | .repeatedHeader path name :: rest => do
    let entries ← descend .implied (declareAnother name) path .declared entries
    build (path ++ [name]) entries rest
  | .entry parents name v :: rest => do
    let entries ← descend .implied (assign parents name v) current .declared entries
    build current entries rest

/-- The entries of a document. A byte order mark at its beginning is dropped. -/
def read? (text : String) : Option (List (String × Toml)) := do
  let cs := match text.toList with
    | '\ufeff' :: rest => rest
    | cs => cs
  let lines ← readLines? (cs.length + 1) cs
  let entries ← build [] [] lines
  return finishEntries entries

end Sortie.Toml
