import Sortie.Yaml.Basic
import Sortie.Yaml.Lexer
/-!
# Reading YAML

A text holds at most one document. Values are built from tokens; a value with an anchor is
kept, and an alias stands for it. Inside of itself a value is not yet known.
-/

namespace Sortie.Yaml

/-- The tokens that are left, and what is known from those before. -/
structure Feed where
  tokens : List Token
  /-- The number of the value that an anchor was last given to. -/
  anchors : List (String × Nat) := []
  /-- The values with anchors. -/
  kept : List (Nat × Yaml) := []
  /-- The addresses that handles of tags stand for. -/
  prefixes : List (String × String) := []

namespace Feed

/-- The next token is one of these. -/
def isAt (f : Feed) (ts : List Token) : Bool :=
  f.tokens.head?.any ts.contains

/-- The feed after the next token. -/
def skip (f : Feed) : Feed :=
  { f with tokens := f.tokens.drop 1 }

/-- Gives an anchor to a value that is not yet known. -/
def addAnchor (f : Feed) (name : String) : Nat × Feed :=
  let number := f.anchors.length
  (number, { f with anchors := (name, number) :: f.anchors })

/-- Keeps a value if it has an anchor. -/
def keep (f : Feed) (number : Option Nat) (v : Yaml) : Feed :=
  match number with
  | some n => { f with kept := (n, v) :: f.kept }
  | none => f

/-- The tag with the address that its handle stands for. A handle of letters between
two marks must be known. -/
def resolve? (f : Feed) (handle suffix : String) : Option Tag :=
  match f.prefixes.lookup handle with
  | some uri => some ⟨uri, suffix⟩
  | none =>
    if handle = "!!" then some ⟨commonTags, suffix⟩
    else if 2 ≤ handle.length then none
    else some ⟨handle, suffix⟩

/-- Reads an anchor and a tag, in either order. -/
def readProperties? (f : Feed) : Option (Option Nat × Option Tag × Feed) :=
  match f.tokens with
  | .anchor name :: .tag handle suffix :: rest => do
    let (number, f) := { f with tokens := rest }.addAnchor name
    return (some number, some (← f.resolve? handle suffix), f)
  | .anchor name :: rest =>
    let (number, f) := { f with tokens := rest }.addAnchor name
    some (some number, none, f)
  | .tag handle suffix :: .anchor name :: rest => do
    let tag ← f.resolve? handle suffix
    let (number, f) := { f with tokens := rest }.addAnchor name
    return (some number, some tag, f)
  | .tag handle suffix :: rest => do
    return (none, some (← f.resolve? handle suffix), { f with tokens := rest })
  | _ => some (none, none, f)

end Feed

mutual

/-- Reads a value. `lines` says whether it may be made of lines, and `level` whether it may
be a list whose items are no deeper than the name that it belongs to. -/
def readNode? (lines level : Bool) : Nat → Feed → Option (Yaml × Feed)
  | 0, _ => none
  | fuel + 1, f =>
    match f.tokens with
    | .alias name :: _ => do
      let number ← f.anchors.lookup name
      return ((f.kept.lookup number).getD .unusable, f.skip)
    | _ => do
      let (number, tag, f) ← f.readProperties?
      let (v, f) ← readContent? lines level (number.isSome || tag.isSome) tag fuel f
      return (v, f.keep number v)

/-- Reads a value after its anchor and tag. If it has one of them it may be missing. -/
def readContent? (lines level marked : Bool) (tag : Option Tag) :
    Nat → Feed → Option (Yaml × Feed)
  | 0, _ => none
  | fuel + 1, f =>
    match f.tokens, lines, level with
    | .item :: _, _, true => do
      let (items, f) ← readLevelItems? fuel f
      return (.list items, f)
    | .scalar isPlain s :: _, _, _ => some (ofScalar isPlain tag s, f.skip)
    | .listStart :: _, _, _ => do
      let (items, f) ← readFlowItems? true fuel f.skip
      return (.list items, f)
    | .tableStart :: _, _, _ => do
      let (parts, f) ← readFlowEntries? true fuel f.skip
      return (← tableOf? parts, f)
    | .linesList :: _, true, _ => do
      let (items, f) ← readLineItems? fuel f.skip
      return (.list items, f)
    | .linesTable :: _, true, _ => do
      let (parts, f) ← readLineEntries? fuel f.skip
      return (← tableOf? parts, f)
    | _, _, _ => if marked then some (ofScalar true tag "", f) else none

/-- Reads a value that may be missing before one of some tokens. -/
def readUnless? (ends : List Token) (lines level : Bool) : Nat → Feed → Option (Yaml × Feed)
  | 0, _ => none
  | fuel + 1, f => if f.isAt ends then some (.nothing, f) else readNode? lines level fuel f

/-- Reads what a colon begins; without a colon there is no value. -/
def readValue? (ends : List Token) (lines level : Bool) : Nat → Feed → Option (Yaml × Feed)
  | 0, _ => none
  | fuel + 1, f =>
    if f.isAt [.value] then readUnless? ends lines level fuel f.skip else some (.nothing, f)

/-- Reads the items of a list in brackets. An item may be a single name with a value. -/
def readFlowItems? (first : Bool) : Nat → Feed → Option (List Yaml × Feed)
  | 0, _ => none
  | fuel + 1, f =>
    if f.isAt [.listEnd] then some ([], f.skip)
    else if !first && !f.isAt [.comma] then none
    else
      let f := if first then f else f.skip
      if f.isAt [.listEnd] then some ([], f.skip)
      else do
        let (v, f) ←
          if f.isAt [.name] then readSingle? fuel f.skip else readNode? false false fuel f
        let (vs, f) ← readFlowItems? false fuel f
        return (v :: vs, f)

/-- Reads a single name with a value. -/
def readSingle? : Nat → Feed → Option (Yaml × Feed)
  | 0, _ => none
  | fuel + 1, f => do
    let (name, f) ← if f.isAt [.value, .comma, .listEnd] then some (.nothing, f.skip)
      else readNode? false false fuel f
    let (v, f) ← readValue? [.comma, .listEnd] false false fuel f
    return (← tableOf? [name, v], f)

/-- Reads the names and values of a table in brackets. -/
def readFlowEntries? (first : Bool) : Nat → Feed → Option (List Yaml × Feed)
  | 0, _ => none
  | fuel + 1, f =>
    if f.isAt [.tableEnd] then some ([], f.skip)
    else if !first && !f.isAt [.comma] then none
    else
      let f := if first then f else f.skip
      if f.isAt [.tableEnd] then some ([], f.skip)
      else do
        let (name, v, f) ←
          if f.isAt [.name] then do
            let (name, f) ← readUnless? [.value, .comma, .tableEnd] false false fuel f.skip
            let (v, f) ← readValue? [.comma, .tableEnd] false false fuel f
            pure (name, v, f)
          else if f.isAt [.value] then do
            let (v, f) ← readValue? [.comma, .tableEnd] false false fuel f
            pure (.nothing, v, f)
          else do
            let (name, f) ← readNode? false false fuel f
            pure (name, .nothing, f)
        let (parts, f) ← readFlowEntries? false fuel f
        return (name :: v :: parts, f)

/-- Reads the items of a list of lines. -/
def readLineItems? : Nat → Feed → Option (List Yaml × Feed)
  | 0, _ => none
  | fuel + 1, f =>
    if f.isAt [.linesEnd] then some ([], f.skip)
    else if f.isAt [.item] then do
      let (v, f) ← readUnless? [.item, .linesEnd] true false fuel f.skip
      let (vs, f) ← readLineItems? fuel f
      return (v :: vs, f)
    else none

/-- Reads the items of a list of lines that are as deep as the table around it. -/
def readLevelItems? : Nat → Feed → Option (List Yaml × Feed)
  | 0, _ => none
  | fuel + 1, f =>
    if f.isAt [.item] then do
      let (v, f) ← readUnless? [.item, .name, .value, .linesEnd] true false fuel f.skip
      let (vs, f) ← readLevelItems? fuel f
      return (v :: vs, f)
    else some ([], f)

/-- Reads the names and values of a table of lines. -/
def readLineEntries? : Nat → Feed → Option (List Yaml × Feed)
  | 0, _ => none
  | fuel + 1, f =>
    if f.isAt [.linesEnd] then some ([], f.skip)
    else if f.isAt [.name, .value] then do
      let (name, f) ←
        if f.isAt [.name] then readUnless? [.name, .value, .linesEnd] true true fuel f.skip
        else pure (.nothing, f)
      let (v, f) ← readValue? [.name, .value, .linesEnd] true true fuel f
      let (parts, f) ← readLineEntries? fuel f
      return (name :: v :: parts, f)
    else none

end

/-- Reads the directives before a document. Only the last one counts. -/
def readDirectives? (versioned : Bool) (f : Feed) : List Token → Option Feed
  | .version :: rest =>
    if versioned then none else readDirectives? true { f with prefixes := [] } rest
  | .tagPrefix handle uri :: rest =>
    readDirectives? versioned { f with prefixes := [(handle, uri)] } rest
  | rest => some { f with tokens := rest }

/-- The mark of a document. -/
def Token.isDocumentMark (t : Token) : Bool :=
  t == .documentStart || t == .documentEnd

/-- The value of the only document in a text, or an empty table if there is none. -/
def read? (text : String) : Option Yaml := do
  let tokens := (← tokens? text).dropWhile (· == .documentEnd)
  let f ← readDirectives? false { tokens } tokens
  let fuel := 6 * tokens.length + 6
  match tokens, f.tokens with
  | [], _ => return .table []
  | _, .documentStart :: rest =>
    let f := { f with tokens := rest }
    let isMissing := rest.head?.all fun t =>
      t.isDocumentMark || t matches .version || t matches .tagPrefix _ _
    let (v, f) ← if isMissing then some (.nothing, f) else readNode? true false fuel f
    if (f.tokens.dropWhile (· == .documentEnd)).isEmpty then return v else none
  | first :: _, _ =>
    if first matches .version || first matches .tagPrefix _ _ then none
    else
      let (v, f) ← readNode? true false fuel f
      if (f.tokens.dropWhile (· == .documentEnd)).isEmpty then return v else none

end Sortie.Yaml
