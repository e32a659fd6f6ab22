/-!
# What a model is paid for

Tokens read and written, counted in words of 64 bits, which begin again at
zero when they are full.
-/

namespace Sortie

/-- Tokens of requests, of replies, and of both. -/
structure Usage where
  prompt : UInt64 := 0
  completion : UInt64 := 0
  total : UInt64 := 0
  deriving Repr, BEq, DecidableEq, Inhabited

/-- The usage after one more request and reply. -/
def Usage.add (u : Usage) (prompt completion : UInt64) : Usage :=
  { prompt := u.prompt + prompt, completion := u.completion + completion
    total := u.total + (prompt + completion) }

end Sortie
