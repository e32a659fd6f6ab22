import Sortie.Decimal.Layout
import Sortie.Text.Search
/-!
# Printed words

What a shell prints for `echo` and for `printf`: words with escapes in them, and words put
into a pattern. A played-back solver writes its answer so. This is a part of the shell for
tests, and no part of the program.
-/

namespace Sortie.Shell

/-- The characters that one letter after a backslash stands for. -/
def letterEscapes : List (Char × Char) :=
  [('a', '\x07'), ('b', '\x08'), ('f', '\x0c'), ('n', '\n'), ('r', '\r'), ('t', '\t'),
    ('v', '\x0b'), ('\\', '\\')]

/-- The character with an octal code, and what follows the digits, of which
there are at most `most`. -/
def octal (most : Nat) (cs : List Char) : Char × List Char :=
  let isOctal (c : Char) : Bool := '0' ≤ c && c ≤ '7'
  let digits := (cs.take most).takeWhile isOctal
  (.ofNat (digits.foldl (fun n c => 8 * n + (c.toNat - 48)) 0 % 256), cs.drop digits.length)

/-- A text with its escapes read, as far as one of them ends all printing; `fuel`
bounds the number of steps. -/
def unescape (isOctalAt : List Char → Option (Nat × List Char)) :
    Nat → List Char → List Char × Bool
  | 0, cs => (cs, false)
  | _, [] => ([], false)
  | fuel + 1, '\\' :: cs =>
    let put (c : Char) (rest : List Char) :=
      let (text, isEnd) := unescape isOctalAt fuel rest
      (c :: text, isEnd)
    match isOctalAt cs, cs with
    | some (most, digits), _ =>
      let (c, rest) := octal most digits
      put c rest
    | none, 'c' :: _ => ([], true)
    | none, c :: rest =>
      match letterEscapes.lookup c with
      | some meant => put meant rest
      | none => put '\\' cs
    | none, [] => put '\\' []
  | fuel + 1, c :: cs =>
    let (text, isEnd) := unescape isOctalAt fuel cs
    (c :: text, isEnd)

/-- The text that `echo` prints: a number after a backslash begins with `0`. -/
def echoText (words : List String) : String :=
  let (isPlain, words) := match words with
    | "-n" :: words => (true, words)
    | words => (false, words)
  let text := (" ".intercalate words).toList
  let digits : List Char → Option (Nat × List Char)
    | '0' :: rest => some (3, rest)
    | _ => none
  let (text, isEnd) := unescape digits text.length text
  .ofList (if isPlain || isEnd then text else text ++ ['\n'])

/-- The text that the program `echo` prints, which leaves escapes as they are. -/
def plainEchoText : List String → String
  | "-n" :: words => " ".intercalate words
  | words => " ".intercalate words ++ "\n"

/-- A pattern with words put into it, and the words that are left. -/
def fillPattern : List Char → List String → List Char × List String
  | '%' :: '%' :: cs, words =>
    let (text, rest) := fillPattern cs words
    ('%' :: text, rest)
  | '%' :: 's' :: cs, words | '%' :: 'd' :: cs, words =>
    let (text, rest) := fillPattern cs (words.drop 1)
    ((words.headD "").toList ++ text, rest)
  | c :: cs, words =>
    let (text, rest) := fillPattern cs words
    (c :: text, rest)
  | [], words => ([], words)

/-- Fills a pattern again and again until no word is left; one that takes no words is
filled once. The number of steps is bounded by `fuel`. -/
def fillAll (pattern : List Char) : Nat → List String → List Char
  | 0, _ => []
  | fuel + 1, words =>
    let (text, rest) := fillPattern pattern words
    if rest.isEmpty || rest.length = words.length then text
    else text ++ fillAll pattern fuel rest

/-- The text that `printf` prints. -/
def patternText (pattern : String) (words : List String) : String :=
  let digits : List Char → Option (Nat × List Char)
    | c :: rest => if '0' ≤ c && c ≤ '7' then some (3, c :: rest) else none
    | [] => none
  let cs := pattern.toList
  .ofList (fillAll (unescape digits cs.length cs).1 (words.length + 1) words)

end Sortie.Shell
