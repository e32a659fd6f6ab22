/-!
# Budgets

A budget counts attempts up to a limit. An attempt is counted when it is permitted,
whatever comes of it, and a budget that is used up permits none.
-/

namespace Sortie

/-- Attempts made, out of those permitted. -/
structure Budget where
  count : Nat
  limit : Nat
  count_le_limit : count ≤ limit := by omega
  deriving Repr, DecidableEq

namespace Budget

/-- A fresh budget. -/
def ofLimit (limit : Nat) : Budget :=
  ⟨0, limit, Nat.zero_le _⟩

def isExhausted (b : Budget) : Bool :=
  b.limit ≤ b.count

/-- The budget after one more attempt, if one is left. -/
def spend? (b : Budget) : Option Budget :=
  if h : b.count < b.limit then some ⟨b.count + 1, b.limit, h⟩ else none

def remaining (b : Budget) : Nat :=
  b.limit - b.count

theorem spend?_eq_none_iff {b : Budget} : b.spend? = none ↔ b.remaining = 0 := by
  unfold spend? remaining
  split
  · simp; omega
  · simp; omega

theorem remaining_of_spend? {b c : Budget} (h : b.spend? = some c) :
    c.remaining + 1 = b.remaining ∧ c.limit = b.limit ∧ c.count = b.count + 1 := by
  unfold spend? at h
  split at h
  · cases h
    refine ⟨?_, rfl, rfl⟩
    show b.limit - (b.count + 1) + 1 = b.limit - b.count
    omega
  · cases h

end Budget
end Sortie
