import Sortie.Json.Lexer
/-!
# Reading JSON

Tokens are fed to a reader that holds the lists and records still open on a stack, so
values may nest to any depth. A text is accepted if its tokens make up exactly one value.
-/

namespace Sortie.Json

/-- A list or record that is still open, with its items last first. -/
inductive Frame where
  | array (done : List Json)
  | object (done : List (Option String × Json)) (name : Option String)

/-- What may come next. -/
inductive Due where
  | value
  /-- The first item of a list, or its end. -/
  | firstItem
  /-- The first name of a record, or its end. -/
  | firstName
  | name
  /-- The colon after a name. -/
  | colon
  /-- A comma or the end of the innermost open list or record. -/
  | separator
  /-- Nothing: the value is complete. -/
  | nothing
  deriving DecidableEq

/-- The reader between two tokens. -/
structure Reader where
  stack : List Frame
  due : Due
  result : Option Json

/-- The reader before the first token. -/
def Reader.start : Reader :=
  ⟨[], .value, none⟩

/-- A value is complete: it goes into the innermost open list or record. -/
def Reader.complete (r : Reader) (j : Json) : Reader :=
  match r.stack with
  | [] => ⟨[], .nothing, some j⟩
  | .array done :: outer => { r with stack := .array (j :: done) :: outer, due := .separator }
  | .object done name :: outer =>
    { r with stack := .object ((name, j) :: done) none :: outer, due := .separator }

/-- The innermost open list or record ends. -/
def Reader.close (r : Reader) : Reader :=
  match r.stack with
  | [] => r
  | .array done :: outer => Reader.complete { r with stack := outer } (.array done.reverse)
  | .object done _ :: outer => Reader.complete { r with stack := outer } (.object done.reverse)

/-- The name of the next field of the innermost record. -/
def Reader.named (r : Reader) (name : Option String) : Option Reader :=
  match r.stack with
  | .object done _ :: outer => some { r with stack := .object done name :: outer, due := .colon }
  | _ => none

def Reader.feed (r : Reader) (t : Token) : Option Reader :=
  match r.due, t with
  | .value, .scalar j => some (r.complete j)
  | .firstItem, .scalar j => some (r.complete j)
  | .value, .openArray => some { r with stack := .array [] :: r.stack, due := .firstItem }
  | .firstItem, .openArray => some { r with stack := .array [] :: r.stack, due := .firstItem }
  | .value, .openObject => some { r with stack := .object [] none :: r.stack, due := .firstName }
  | .firstItem, .openObject =>
    some { r with stack := .object [] none :: r.stack, due := .firstName }
  | .firstItem, .closeArray => some r.close
  | .firstName, .closeObject => some r.close
  | .firstName, .scalar (.string name) => r.named name
  | .name, .scalar (.string name) => r.named name
  | .colon, .colon => some { r with due := .value }
  | .separator, t =>
    match r.stack, t with
    | .array _ :: _, .comma => some { r with due := .value }
    | .array _ :: _, .closeArray => some r.close
    | .object _ _ :: _, .comma => some { r with due := .name }
    | .object _ _ :: _, .closeObject => some r.close
    | _, _ => none
  | _, _ => none

/-- The value that a list of tokens makes up. -/
def ofTokens? (ts : List Token) : Option Json := do
  let r ← ts.foldlM Reader.feed Reader.start
  r.result

/-- The value that a text writes. -/
def read? (s : String) : Option Json := do
  let ts ← tokens? s.toList
  ofTokens? ts

/-! ## Using values -/

/-- The value of the only field with this name. -/
def field? (j : Json) (name : String) : Option Json :=
  match j with
  | .object fields => fields.findSome? fun (n, v) => if n == some name then some v else none
  | _ => none

def asText? : Json → Option String
  | .string s => s
  | _ => none

def asArray? : Json → Option (List Json)
  | .array items => some items
  | _ => none

/-- The fields of a record by name. Names must be Unicode text, those that are listed must
not be repeated, and those that are not are dropped. -/
def fields? (names : List String) : List (Option String × Json) → Option (List (String × Json))
  | [] => some []
  | (none, _) :: _ => none
  | (some name, j) :: rest => do
    let others ← fields? names rest
    if names.contains name then
      if others.any (·.1 == name) then none else some ((name, j) :: others)
    else some others

/-- The values of exactly these fields, in this order: from a record that has each of them
once, or from a list of as many items. -/
def exactly? (names : List String) : Json → Option (List Json)
  | .object fields => do
    let found ← fields? names fields
    names.mapM fun name => found.lookup name
  | .array items => if items.length = names.length then some items else none
  | _ => none

end Sortie.Json
