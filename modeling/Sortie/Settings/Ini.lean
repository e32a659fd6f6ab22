import Sortie.Settings.Tree
import Sortie.Text.Blank
import Sortie.Toml.Text
/-!
# Settings in sections of lines

The plainest kind of settings file: headers in brackets, and lines with a name and a text.
A comment has a line of its own, from its first character on. A text may begin with a part
in quotes, and a backslash names a character.
-/

namespace Sortie.Settings.Ini

/-- The character that a backslash before `c` names; a hidden line break names none. -/
def escaped (c : Char) : List Char :=
  if c = '0' then ['\x00']
  else if c = 'a' then ['\x07']
  else if c = 'b' then ['\x08']
  else if c = 't' then ['\t']
  else if c = 'r' then ['\r']
  else if c = 'n' then ['\n']
  else if c = '\n' then []
  else [c]

/-- Takes `n` characters of a number; a hidden line break counts as one and is dropped. -/
def takeNumber? : Nat → List Char → Option (List Char × List Char)
  | 0, cs => some ([], cs)
  | n + 1, '\\' :: '\n' :: rest => takeNumber? n rest
  | _ + 1, '\\' :: _ => none
  | n + 1, c :: rest => (takeNumber? n rest).map fun (cs, rest) => (c :: cs, rest)
  | _ + 1, [] => none

/-- The character with a hexadecimal number of four characters, the first
of which may be a plus. -/
def readNumber? (cs : List Char) : Option (Char × List Char) := do
  let (number, rest) ← takeNumber? 4 cs
  let digits := match number with
    | '+' :: digits => digits
    | digits => digits
  if digits.isEmpty then none else return (← Toml.scalar? digits, rest)

/-- Reads up to a character that `stops`, of no more than `most` characters. `mayEnd` says
whether the end of the text stops as well, and `done` holds what was read, last first. -/
def readUntil? (stops : Char → Bool) (mayEnd : Bool) :
    Nat → List Char → List Char → Option (List Char × List Char)
  | _, done, [] => if mayEnd then some (done.reverse, []) else none
  | 0, _, _ => none
  | most + 1, done, c :: rest =>
    if stops c then some (done.reverse, c :: rest)
    else if c = '\\' then
      match rest with
      | [] => none
      | 'x' :: rest =>
        match readNumber? rest with
        | some (c, rest) => readUntil? stops mayEnd most (c :: done) rest
        | none => none
      | c :: rest => readUntil? stops mayEnd most (escaped c ++ done) rest
    else readUntil? stops mayEnd most (c :: done) rest

/-- Reads up to a character that must come. -/
def readTo? (stops : Char → Bool) (cs : List Char) : Option (List Char × List Char) :=
  readUntil? stops false cs.length [] cs

/-- A character that ends a line. -/
def isBreak (c : Char) : Bool :=
  c = '\n' || c = '\r'

/-- A blank character inside a line. -/
def isInnerBlank (c : Char) : Bool :=
  Text.isBlank c && !isBreak c

/-- Reads a text up to the end of its line. If it begins with a quote, it goes on after the
next one of the same kind, with what is left of that line. Blanks around it are dropped. -/
def readText? (cs : List Char) : Option (String × List Char) := do
  let (quoted, rest) ← match cs.dropWhile isInnerBlank with
    | c :: rest =>
      if c = '"' || c = '\'' then do
        let (part, rest) ← readTo? (· = c) rest
        pure (part, rest.drop 1)
      else pure ([], c :: rest)
    | [] => pure ([], [])
  let (plain, rest) ← readUntil? isBreak true rest.length [] rest
  return (.ofList (Text.trimChars (quoted ++ plain)), rest)

/-- The sections read so far, last first: a header, or none for what stands before the
first one, and the settings under it, last first. -/
abbrev Sections := List (Option String × List (String × String))

/-- The sections with one more setting. -/
def Sections.add (name value : String) : Sections → Sections
  | [] => [(none, [(name, value)])]
  | (header, settings) :: rest => (header, (name, value) :: settings) :: rest

/-- Reads lines. `key` is the name before the next equals sign or colon, and `inLine` says
whether something stands before the next character in its line. -/
def readLines? : Nat → Bool → String → Sections → List Char → Option Sections
  | _, _, _, sections, [] => some sections
  | 0, _, _, _, _ => none
  | fuel + 1, inLine, key, sections, c :: rest =>
    if Text.isBlank c then readLines? fuel (c ≠ '\n') key sections rest
    else if c = ';' || c = '#' then
      if inLine then none
      else readLines? fuel false key sections (rest.dropWhile (· ≠ '\n'))
    else if c = '[' then do
      let (header, rest) ← readTo? (· = ']') rest
      let header := String.ofList (Text.trimChars header)
      readLines? fuel true key ((some header, []) :: sections) (rest.drop 1)
    else if c = '=' || c = ':' then
      if key.isEmpty then none
      else do
        let (value, rest) ← readText? rest
        readLines? fuel true "" (sections.add key value) rest
    else do
      let (key, rest) ← readTo? (fun c => c = '=' || c = ':') (c :: rest)
      readLines? fuel true (.ofList (Text.trimChars key)) sections rest

/-- The settings under one header. -/
def sectionEntries : Option String × List (String × String) → List (String × Tree)
  | (header, settings) =>
    let settings := settings.reverse.map fun (name, value) => (name, Tree.text value)
    match header with
    | none => settings
    | some header => [(header, Tree.ofEntries settings)]

def read? (text : String) : Option Tree := do
  let cs := text.toList
  let sections ← readLines? (2 * cs.length + 1) false "" [] cs
  return Tree.ofEntries (sections.reverse.flatMap sectionEntries)

end Sortie.Settings.Ini
