import Sortie.Program.Fly
/-!
# The range of settings

Wherever settings come from, their limits are natural numbers of 32 bits, and the number of
replies that a turn may take is one of 64 bits: a larger number does not fit its setting,
and then none is loaded.
-/

namespace Sortie

/-- What is computed in two steps needs both to succeed. -/
theorem ok_of_bind {ε α β : Type} {x : Except ε α} {f : α → Except ε β} {b : β}
    (h : x >>= f = .ok b) : ∃ a, x = .ok a ∧ f a = .ok b := by
  cases x with
  | error e => cases h
  | ok a => exact ⟨a, rfl, h⟩

/-- The limits of settings are in range. -/
structure Settings.InRange (s : Settings) : Prop where
  maxReplies : s.maxReplies ≤ Decimal.most64
  repairLimit : s.repairLimit ≤ Decimal.most32
  judgeLimit : s.judgeLimit ≤ Decimal.most32

namespace Settings

theorem le_of_upTo? {most n m : Nat} (h : upTo? most n = some m) : m ≤ most := by
  unfold upTo? at h
  split at h
  · rename_i le
    cases h
    exact le
  · cases h

theorem le_of_asNat? {most n : Nat} {v : Tree} (h : asNat? most v = some n) : n ≤ most := by
  cases v with
  | whole k =>
    simp only [asNat?] at h
    split at h
    · exact le_of_upTo? h
    · cases h
  | real x => exact le_of_upTo? h
  | flag b => exact le_of_upTo? h
  | text s =>
    simp only [asNat?] at h
    split at h
    · exact le_of_upTo? h
    · obtain ⟨k, -, h⟩ := Option.bind_eq_some_iff.mp h
      exact le_of_upTo? h
  | nothing | list _ | table _ => cases h

theorem Section.le_of_setting? {s : Section} {position : Nat} {name : String} {most usual n : Nat}
    (h : s.setting? position name (asNat? most) usual = some n) (usually : usual ≤ most) :
    n ≤ most := by
  unfold setting? at h
  split at h
  · cases h
    exact usually
  · exact le_of_asNat? h

/-- Whatever else stands in the entries, the limits that are read off them are in range. -/
theorem InRange.of_entries {entries : List (String × Tree)} {s : Settings}
    (h : ofEntries? entries = some s) : s.InRange := by
  have usual : (10 : Nat) ≤ Decimal.most64 ∧ (5 : Nat) ≤ Decimal.most32 := by decide
  unfold ofEntries? at h
  -- six sections, the scenario and the time step come first
  iterate 8 obtain ⟨_, -, h⟩ := Option.bind_eq_some_iff.mp h
  obtain ⟨maxReplies, replies, h⟩ := Option.bind_eq_some_iff.mp h
  iterate 11 obtain ⟨_, -, h⟩ := Option.bind_eq_some_iff.mp h
  obtain ⟨repairLimit, repairs, h⟩ := Option.bind_eq_some_iff.mp h
  obtain ⟨_, -, h⟩ := Option.bind_eq_some_iff.mp h
  obtain ⟨judgeLimit, judgements, h⟩ := Option.bind_eq_some_iff.mp h
  iterate 4 obtain ⟨_, -, h⟩ := Option.bind_eq_some_iff.mp h
  cases h
  exact ⟨Section.le_of_setting? replies usual.1, Section.le_of_setting? repairs usual.2,
    Section.le_of_setting? judgements usual.2⟩

theorem InRange.of_load {files : Files} {env : Environment} {path : Option String} {s : Settings}
    (h : load files env path = .ok s) : s.InRange := by
  unfold load at h
  obtain ⟨usual, -, h⟩ := ok_of_bind h
  cases path with
  | none | some _ =>
    obtain ⟨named, -, h⟩ := ok_of_bind h
    dsimp only at h
    split at h
    · rename_i read
      cases h
      exact .of_entries read
    · cases h

/-- Settings to fly with are in range if those that take the place of unusable ones are. -/
theorem InRange.settingsOr {usual : Settings} (h : usual.InRange) (files : Files)
    (env : Environment) (path : Option String) :
    (Program.settingsOr usual files env path).InRange := by
  unfold Program.settingsOr
  split
  · rename_i loaded
    exact .of_load loaded
  · exact h

theorem InRange.oneShot : Settings.oneShot.InRange := by
  constructor <;> decide

end Settings
end Sortie
