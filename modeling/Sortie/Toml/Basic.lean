/-!
# TOML documents

A document is a table of named values. How a table was written, in line or under
a header, does not matter once it has been read. Dates and times are kept as
texts in their normal form.
-/

namespace Sortie

/-- A value of a settings file. -/
inductive Toml where
  | text (s : String)
  | whole (n : Int)
  | real (x : Float)
  | flag (b : Bool)
  | moment (s : String)
  | list (items : List Toml)
  | table (entries : List (String × Toml))
  deriving Inhabited, Repr

end Sortie
