import Sortie.Toml.Basic
/-!
# Tables under construction

A document adds to its tables line by line. A table remembers how it came to be,
since that says what may still be added to it: a header may be given once, also for
a table that headers of its parts have implied, and keys with points may only
extend what such keys began.
-/

namespace Sortie.Toml

/-- How a table came to be. -/
inductive Origin where
  /-- By a header of its own, or as a whole. -/
  | declared
  /-- By the header of one of its parts. -/
  | implied
  /-- By a key with points. -/
  | dotted
  deriving DecidableEq

/-- An entry of a table under construction. -/
inductive Node where
  | value (v : Toml)
  | table (origin : Origin) (entries : List (String × Node))
  /-- Tables under one repeated header; headers and keys go on in the last one. -/
  | tables (items : List (List (String × Node)))

abbrev Entries := List (String × Node)

/-- The entries with one of them set. -/
def Entries.set (name : String) (node : Node) : Entries → Entries
  | [] => [(name, node)]
  | (n, x) :: rest => if n = name then (n, node) :: rest else (n, x) :: Entries.set name node rest

/-- Changes the table at the end of a path. Tables that are missing on the way
come to be as `created`; a key with points, which creates `dotted` tables, may
not pass a declared one. -/
def descend (created : Origin) (change : Origin → Entries → Option Entries) :
    List String → Origin → Entries → Option Entries
  | [], origin, entries => change origin entries
  | name :: path, _, entries =>
    match entries.lookup name with
    | none => do
      let inner ← descend created change path created []
      return entries.set name (.table created inner)
    | some (.table origin inner) =>
      if created = .dotted ∧ origin = .declared then none
      else do
        let inner ← descend created change path origin inner
        return entries.set name (.table origin inner)
    | some (.tables items) =>
      match items.getLast? with
      | none => none
      | some last => do
        let inner ← descend created change path .declared last
        return entries.set name (.tables (items.dropLast ++ [inner]))
    | some (.value _) => none

/-- Sets a key that has no value yet. The parts of the key before the last are
tables of dotted keys. -/
def assign (parents : List String) (name : String) (v : Toml) (origin : Origin)
    (entries : Entries) : Option Entries :=
  descend .dotted add parents origin entries
where
  add (origin : Origin) (entries : Entries) : Option Entries :=
    if parents.isEmpty = decide (origin = .dotted) then none
    else if (entries.lookup name).isSome then none
    else some (entries.set name (.value v))

/-- Declares a table by its header. -/
def declare (name : String) (_ : Origin) (entries : Entries) : Option Entries :=
  match entries.lookup name with
  | none => some (entries.set name (.table .declared []))
  | some (.table .implied inner) => some (entries.set name (.table .declared inner))
  | _ => none

/-- Adds a table under a repeated header. -/
def declareAnother (name : String) (_ : Origin) (entries : Entries) : Option Entries :=
  match entries.lookup name with
  | none => some (entries.set name (.tables [[]]))
  | some (.tables items) => some (entries.set name (.tables (items ++ [[]])))
  | _ => none

mutual

/-- The value that an entry has come to. -/
def Node.finish : Node → Toml
  | .value v => v
  | .table _ entries => .table (finishEntries entries)
  | .tables items => .list (finishTables items)

/-- The entries of a finished table. -/
def finishEntries : List (String × Node) → List (String × Toml)
  | [] => []
  | (name, node) :: rest => (name, node.finish) :: finishEntries rest

/-- The tables under a repeated header. -/
def finishTables : List (List (String × Node)) → List Toml
  | [] => []
  | entries :: rest => .table (finishEntries entries) :: finishTables rest

end

end Sortie.Toml
