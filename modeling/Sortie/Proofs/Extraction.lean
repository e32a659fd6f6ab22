import Mathlib.Data.String.Basic
import Sortie.Specification
/-!
# Specifications in a reply

`Specification.extract` walks through a reply with a state. Here the same is said without a
walk: the reply is cut at every `>`, and the last piece that was closed and holds a `<`
tells the specification. The walk is also done a second time, by byte positions and slices
(`scanFrom?`). A slice that would begin or end inside a character fails there, and none
ever does, whatever the characters are.
-/

namespace Sortie.Specification

/-! ## By pieces -/

/-- The pieces of a text that end at a `>`. -/
def closedPieces (text : List Char) : List (List Char) :=
  (text.splitOn '>').dropLast

/-- All that stands after the first `<`. -/
def afterOpen (piece : List Char) : List Char :=
  (piece.dropWhile (· != '<')).tail

/-- What the last closed piece with a `<` holds after it. -/
def lastClosed? (text : List Char) : Option (List Char) :=
  ((closedPieces text).filter (·.contains '<')).getLast?.map afterOpen

/-- The specification in a reply, by its pieces. If nothing stands after the `<` of the
last one, there is no specification, whatever stands before. -/
def ofPieces (reply : String) : Except Fault Specification :=
  match lastClosed? reply.toList with
  | none => .error (.extraction "No specification found in the response.")
  | some [] => .error (.extraction "No specification found in the response.")
  | some spec => .ok ⟨.ofList (spec.map fun c => if c = '\n' then ' ' else c)⟩

/-! ## By bytes -/

/-- The bytes of a text from `first` up to `last`. Both must be
boundaries of characters. -/
def slice? (text : String) (first last : Nat) : Option String :=
  if first ≤ last ∧ String.Pos.Raw.IsValid text ⟨first⟩ ∧ String.Pos.Raw.IsValid text ⟨last⟩ then
    some (String.Pos.Raw.extract text ⟨first⟩ ⟨last⟩)
  else none

/-- The byte at which a character stands for the first time. -/
def byteOf? (mark : Char) (text : String) : Option Nat :=
  if mark ∈ text.toList then
    some (String.ofList (text.toList.takeWhile (· != mark))).utf8ByteSize
  else none

/-- What a pair holds whose content begins at the byte `first`, and the first byte behind
the pair. There is no result if a slice fails. -/
def contentFrom? (text : String) (first : Nat) : Option (Option (String × Nat)) := do
  let content ← slice? text first text.utf8ByteSize
  match byteOf? '>' content with
  | none => return none
  | some j =>
    let spec ← slice? text first (first + j)
    return some (spec, first + j + 1)

/-- The first pair from the byte `cursor` on: what it holds, and the
first byte behind it. -/
def pairFrom? (text : String) (cursor : Nat) : Option (Option (String × Nat)) := do
  let rest ← slice? text cursor text.utf8ByteSize
  match byteOf? '<' rest with
  | none => return none
  | some i => contentFrom? text (cursor + i + 1)

theorem le_of_slice? {text part : String} {first last : Nat}
    (h : slice? text first last = some part) : first ≤ last := by
  unfold slice? at h
  split at h
  · rename_i within
    exact within.1
  · cases h

theorem lt_of_contentFrom? {text spec : String} {first next : Nat}
    (h : contentFrom? text first = some (some (spec, next))) :
    first < next ∧ first ≤ text.utf8ByteSize := by
  obtain ⟨content, slice, h⟩ := Option.bind_eq_some_iff.mp h
  have within := le_of_slice? slice
  split at h
  · cases h
  · obtain ⟨_, -, h⟩ := Option.bind_eq_some_iff.mp h
    cases h
    constructor <;> omega

/-- A pair is found before the end of the text, and the walk goes on
behind its beginning. -/
theorem lt_of_pairFrom? {text spec : String} {cursor next : Nat}
    (h : pairFrom? text cursor = some (some (spec, next))) :
    cursor < next ∧ cursor < text.utf8ByteSize := by
  obtain ⟨rest, -, h⟩ := Option.bind_eq_some_iff.mp h
  split at h
  · cases h
  · have content := lt_of_contentFrom? h
    constructor <;> omega

/-- Looks for pairs from the byte `cursor` on, `last` being what the
last one before holds. -/
def scanFrom? (text : String) (last : Option String) (cursor : Nat) : Option (Option String) :=
  match h : pairFrom? text cursor with
  | none => none
  | some none => some last
  | some (some (spec, next)) =>
    have : cursor < next ∧ cursor < text.utf8ByteSize := lt_of_pairFrom? h
    scanFrom? text (some spec) next
termination_by text.utf8ByteSize - cursor

/-! ## Walking through a text -/

theorem scan_append_of_unopened {text : List Char} (h : '<' ∉ text) (best : Option (List Char))
    (rest : List Char) : scan none best (text ++ rest) = scan none best rest := by
  induction text with
  | nil => rfl
  | cons c text ih =>
    have other : c ≠ '<' := fun same => h (by simp [same])
    rw [List.cons_append, scan, if_neg other]
    exact ih fun later => h (by simp [later])

/-- A text that opens no pair holds none. -/
theorem scan_of_not_mem (best : Option (List Char)) {text : List Char} (h : '<' ∉ text) :
    scan none best text = best := by
  have walked := scan_append_of_unopened h best []
  rwa [List.append_nil] at walked

theorem scan_append_of_unclosed {text : List Char} (h : '>' ∉ text) (done : List Char)
    (best : Option (List Char)) (rest : List Char) :
    scan (some done) best (text ++ rest) = scan (some (text.reverse ++ done)) best rest := by
  induction text generalizing done with
  | nil => rfl
  | cons c text ih =>
    have other : c ≠ '>' := fun same => h (by simp [same])
    rw [List.cons_append, scan, if_neg other, ih fun later => h (by simp [later])]
    simp

/-- A text without a `>` closes no pair. -/
theorem scan_of_unclosed {text : List Char} (h : '>' ∉ text) (inside best : Option (List Char)) :
    scan inside best text = best := by
  induction text generalizing inside with
  | nil => rfl
  | cons c text ih =>
    have other : c ≠ '>' := fun same => h (by simp [same])
    have later : '>' ∉ text := fun later => h (by simp [later])
    cases inside with
    | none => exact ih later _
    | some done =>
      rw [scan]
      exact (if_neg other).trans (ih later _)

/-- What comes after the last `>` adds nothing. -/
theorem scan_append_tail {tail : List Char} (h : '>' ∉ tail) (text : List Char)
    (inside best : Option (List Char)) :
    scan inside best (text ++ tail) = scan inside best text := by
  induction text generalizing inside best with
  | nil => exact scan_of_unclosed h inside best
  | cons c text ih =>
    cases inside with
    | none => exact ih _ _
    | some done =>
      rw [List.cons_append, scan, scan]
      split
      · exact ih _ _
      · exact ih _ _

/-- After a `>` the walk begins anew. -/
theorem scan_append_of_closed (front rest : List Char) (inside best : Option (List Char)) :
    scan inside best (front ++ '>' :: rest) =
      scan none (scan inside best (front ++ ['>'])) rest := by
  induction front generalizing inside best with
  | nil => cases inside <;> rfl
  | cons c front ih =>
    cases inside with
    | none => exact ih _ _
    | some done =>
      rw [List.cons_append, List.cons_append, scan, scan]
      split
      · exact ih _ _
      · exact ih _ _

/-- Where no pair is open, what opens none adds nothing. -/
theorem scan_between {front between : List Char} (closed : front = [] ∨ front.getLast? = some '>')
    (unopened : '<' ∉ between) (best : Option (List Char)) (rest : List Char) :
    scan none best (front ++ (between ++ rest)) = scan none best (front ++ rest) := by
  rcases closed with rfl | closed
  · exact scan_append_of_unopened unopened best rest
  · obtain ⟨part, rfl⟩ := List.getLast?_eq_some_iff.mp closed
    rw [List.append_assoc, List.append_assoc, List.singleton_append, List.singleton_append,
      scan_append_of_closed, scan_append_of_closed part rest, scan_append_of_unopened unopened]

/-- No pair that the walk finds holds a `>`. -/
theorem not_mem_of_scan {text : List Char} {inside best : Option (List Char)}
    (unclosed : ∀ done ∈ inside, '>' ∉ done) (before : ∀ spec ∈ best, '>' ∉ spec) :
    ∀ spec ∈ scan inside best text, '>' ∉ spec := by
  induction text generalizing inside best with
  | nil => exact before
  | cons c rest ih =>
    cases inside with
    | none =>
      refine ih ?_ before
      split
      · rintro _ ⟨⟩
        exact List.not_mem_nil
      · nofun
    | some done =>
      rw [scan]
      split
      · refine ih nofun ?_
        rintro _ ⟨⟩
        simpa using unclosed done rfl
      · rename_i other
        refine ih ?_ before
        rintro _ ⟨⟩
        simp [unclosed done rfl, Ne.symm other]

/-! ## Pieces -/

theorem afterOpen_append {piece : List Char} (h : '<' ∈ piece) (more : List Char) :
    afterOpen (piece ++ more) = afterOpen piece ++ more := by
  induction piece with
  | nil => cases h
  | cons c piece ih =>
    by_cases opens : c = '<'
    · simp [afterOpen, opens]
    · have later : '<' ∈ piece := (List.mem_cons.mp h).resolve_left fun same => opens same.symm
      simpa [afterOpen, opens] using ih later

theorem afterOpen_concat {piece : List Char} (h : '<' ∉ piece) :
    afterOpen (piece ++ ['<']) = [] := by
  induction piece with
  | nil => rfl
  | cons c piece ih =>
    have other : c ≠ '<' := fun same => h (by simp [same])
    simpa [afterOpen, other] using ih fun later => h (by simp [later])

/-- The state of the walk inside a piece: what stands after its first `<`, last first. -/
def stateIn (piece : List Char) : Option (List Char) :=
  if '<' ∈ piece then some (afterOpen piece).reverse else none

theorem scan_stateIn_cons {piece : List Char} {c : Char} (other : c ≠ '>')
    (best : Option (List Char)) (rest : List Char) :
    scan (stateIn piece) best (c :: rest) = scan (stateIn (piece ++ [c])) best rest := by
  by_cases opened : '<' ∈ piece
  · simp [stateIn, opened, scan, other, afterOpen_append]
  · by_cases opens : c = '<'
    · subst opens
      simp [stateIn, opened, scan, afterOpen_concat]
    · have unopened : '<' ≠ c := fun same => opens same.symm
      simp [stateIn, opened, scan, opens, unopened]

theorem scan_stateIn_close (piece : List Char) (best : Option (List Char)) (rest : List Char) :
    scan (stateIn piece) best ('>' :: rest) =
      scan none (if '<' ∈ piece then some (afterOpen piece) else best) rest := by
  by_cases opened : '<' ∈ piece <;> simp [stateIn, opened, scan]

/-- In the middle of a piece, the last pair is that of a later closed piece, or of this
one, or the best one before. -/
theorem scan_stateIn (piece : List Char) (unclosed : '>' ∉ piece) (best : Option (List Char))
    (text : List Char) :
    scan (stateIn piece) best text = (lastClosed? (piece ++ text)).or best := by
  induction text generalizing piece best with
  | nil => simp [scan, lastClosed?, closedPieces, List.splitOn_eq_singleton unclosed]
  | cons c rest ih =>
    by_cases closes : c = '>'
    · subst closes
      have pieces : closedPieces (piece ++ '>' :: rest) = piece :: closedPieces rest := by
        rw [closedPieces, List.splitOn_append_cons_self_of_not_mem unclosed,
          List.dropLast_cons_of_ne_nil (List.splitOn_ne_nil _ _), closedPieces]
      have next := ih [] List.not_mem_nil
      rw [scan_stateIn_close, show (none : Option (List Char)) = stateIn [] from rfl, next,
        lastClosed?, lastClosed?, pieces, List.nil_append]
      by_cases opened : '<' ∈ piece
      · rw [if_pos opened, List.filter_cons_of_pos (by simpa using opened), List.getLast?_cons]
        cases ((closedPieces rest).filter (·.contains '<')).getLast? <;> rfl
      · rw [if_neg opened, List.filter_cons_of_neg (by simpa using opened)]
    · rw [scan_stateIn_cons closes, ih, List.append_assoc, List.singleton_append]
      rw [List.mem_append, not_or]
      exact ⟨unclosed, fun h => closes (List.mem_singleton.mp h).symm⟩

theorem lastPair?_eq_lastClosed? (text : List Char) : lastPair? text = lastClosed? text := by
  have walked := scan_stateIn [] List.not_mem_nil none text
  rwa [List.nil_append, Option.or_none] at walked

/-! ## Bytes and characters -/

theorem isValid_utf8Len (front rest : List Char) :
    String.Pos.Raw.IsValid (.ofList (front ++ rest)) ⟨String.utf8Len front⟩ :=
  String.Pos.Raw.isValid_ofList.mpr
    ⟨front.length, by rw [List.take_left, String.utf8ByteSize_ofList]⟩

/-- Between whole characters, a slice holds whole characters. -/
theorem slice?_eq (front part rest : List Char) :
    slice? (.ofList (front ++ part ++ rest)) (String.utf8Len front)
      (String.utf8Len front + String.utf8Len part) = some (.ofList part) := by
  have first : String.Pos.Raw.IsValid (.ofList (front ++ part ++ rest)) ⟨String.utf8Len front⟩ := by
    rw [List.append_assoc]
    exact isValid_utf8Len front (part ++ rest)
  have last := isValid_utf8Len (front ++ part) rest
  rw [String.utf8Len_append] at last
  rw [slice?, if_pos ⟨Nat.le_add_right _ _, first, last⟩, String.extract_of_valid]

theorem slice?_end (front rest : List Char) :
    slice? (.ofList (front ++ rest)) (String.utf8Len front)
      (String.ofList (front ++ rest)).utf8ByteSize = some (.ofList rest) := by
  have slice := slice?_eq front rest []
  rwa [List.append_nil, ← String.utf8Len_append, ← String.utf8ByteSize_ofList (front ++ rest)]
    at slice

theorem byteOf?_eq {mark : Char} {front : List Char} (h : mark ∉ front) (rest : List Char) :
    byteOf? mark (.ofList (front ++ mark :: rest)) = some (String.utf8Len front) := by
  have found : (front ++ mark :: rest).takeWhile (· != mark) = front := by
    rw [List.takeWhile_append_of_pos fun c member => ?_, List.takeWhile_cons_of_neg (by simp),
      List.append_nil]
    simpa using fun same : c = mark => h (same ▸ member)
  rw [byteOf?, String.toList_ofList, if_pos (by simp), found, String.utf8ByteSize_ofList]

theorem byteOf?_eq_none {mark : Char} {text : List Char} (h : mark ∉ text) :
    byteOf? mark (.ofList text) = none := by
  rw [byteOf?, String.toList_ofList, if_neg h]

theorem contentFrom?_of_unclosed {inside : List Char} (unclosed : '>' ∉ inside)
    (front : List Char) :
    contentFrom? (.ofList (front ++ inside)) (String.utf8Len front) = some none := by
  rw [contentFrom?, slice?_end]
  simp only [Option.bind_eq_bind, Option.bind_some, byteOf?_eq_none unclosed]
  rfl

theorem contentFrom?_of_closed {spec : List Char} (unclosed : '>' ∉ spec)
    (front rest : List Char) :
    contentFrom? (.ofList (front ++ (spec ++ '>' :: rest))) (String.utf8Len front) =
      some (some (.ofList spec, String.utf8Len (front ++ (spec ++ ['>'])))) := by
  have slice := slice?_eq front spec ('>' :: rest)
  rw [List.append_assoc] at slice
  -- a `>` is one byte
  have next : String.utf8Len (front ++ (spec ++ ['>'])) =
      String.utf8Len front + String.utf8Len spec + 1 := by
    rw [String.utf8Len_append, String.utf8Len_append, ← Nat.add_assoc]
    rfl
  rw [contentFrom?, slice?_end]
  simp only [Option.bind_eq_bind, Option.bind_some, byteOf?_eq unclosed, slice, next]
  rfl

theorem pairFrom?_of_unopened {text : List Char} (unopened : '<' ∉ text) (front : List Char) :
    pairFrom? (.ofList (front ++ text)) (String.utf8Len front) = some none := by
  rw [pairFrom?, slice?_end]
  simp only [Option.bind_eq_bind, Option.bind_some, byteOf?_eq_none unopened]
  rfl

/-- The content of the first pair begins behind the first `<`. -/
theorem pairFrom?_of_opened {skipped : List Char} (unopened : '<' ∉ skipped)
    (front inside : List Char) :
    pairFrom? (.ofList (front ++ (skipped ++ '<' :: inside))) (String.utf8Len front) =
      contentFrom? (.ofList (front ++ (skipped ++ '<' :: inside)))
        (String.utf8Len (front ++ (skipped ++ ['<']))) := by
  -- a `<` is one byte, too
  have first : String.utf8Len (front ++ (skipped ++ ['<'])) =
      String.utf8Len front + String.utf8Len skipped + 1 := by
    rw [String.utf8Len_append, String.utf8Len_append, ← Nat.add_assoc]
    rfl
  rw [pairFrom?, slice?_end, first]
  simp only [Option.bind_eq_bind, Option.bind_some, byteOf?_eq unopened]

theorem scanFrom?_of_no_pair {text : String} {cursor : Nat} (h : pairFrom? text cursor = some none)
    (last : Option String) : scanFrom? text last cursor = some last := by
  unfold scanFrom?
  split <;> simp_all

theorem scanFrom?_of_pair {text spec : String} {cursor next : Nat}
    (h : pairFrom? text cursor = some (some (spec, next))) (last : Option String) :
    scanFrom? text last cursor = scanFrom? text (some spec) next := by
  rw [scanFrom?]
  split <;> simp_all

/-- From the end of some characters on, the walk by bytes is the walk by characters. -/
theorem scanFrom?_eq (front text : List Char) (best : Option (List Char)) :
    scanFrom? (.ofList (front ++ text)) (best.map .ofList) (String.utf8Len front) =
      some ((scan none best text).map .ofList) := by
  induction size : text.length using Nat.strongRecOn generalizing front text best with
  | ind n ih =>
    by_cases opens : '<' ∈ text
    · obtain ⟨skipped, inside, rfl, unopened⟩ := List.eq_append_cons_of_mem opens
      have opened := pairFrom?_of_opened unopened front inside
      -- the same text, cut behind its first `<`
      have cut : front ++ (skipped ++ '<' :: inside) = front ++ (skipped ++ ['<']) ++ inside := by
        simp
      rw [scan_append_of_unopened unopened best ('<' :: inside), scan, if_pos rfl]
      rw [cut] at opened ⊢
      by_cases closes : '>' ∈ inside
      · obtain ⟨spec, rest, rfl, unclosed⟩ := List.eq_append_cons_of_mem closes
        have shorter : rest.length < n := by
          rw [← size]
          simp only [List.length_append, List.length_cons]
          omega
        rw [contentFrom?_of_closed unclosed] at opened
        rw [scanFrom?_of_pair opened, scan_append_of_unclosed unclosed, List.append_nil, scan,
          if_pos rfl, List.reverse_reverse]
        have behind := ih rest.length shorter (front ++ (skipped ++ ['<']) ++ (spec ++ ['>'])) rest
          (some spec) rfl
        rwa [List.append_assoc _ (spec ++ ['>']), List.append_assoc spec] at behind
      · rw [contentFrom?_of_unclosed closes] at opened
        rw [scanFrom?_of_no_pair opened, scan_of_unclosed closes]
    · rw [scan_of_not_mem best opens, scanFrom?_of_no_pair (pairFrom?_of_unopened opens front)]

/-- The walk by bytes finds the last pair, and no slice of it fails. -/
theorem scanFrom?_zero (reply : String) :
    scanFrom? reply none 0 = some ((lastPair? reply.toList).map .ofList) := by
  have walked := scanFrom?_eq [] reply.toList none
  rwa [List.nil_append, String.ofList_toList] at walked

/-! ## What is extracted -/

theorem extract_eq_ofPieces (reply : String) : extract reply = ofPieces reply := by
  rw [extract, ofPieces, lastPair?_eq_lastClosed?]
  cases lastClosed? reply.toList with
  | none => rfl
  | some spec => cases spec <;> rfl

theorem spaceBreak_eq_iff {c mark : Char} (space : mark ≠ ' ') (other : mark ≠ '\n') :
    spaceBreak c = mark ↔ c = mark := by
  unfold spaceBreak
  split
  · rename_i same
    subst same
    exact iff_of_false (Ne.symm space) (Ne.symm other)
  · rfl

theorem spaceBreak_ne_break (c : Char) : spaceBreak c ≠ '\n' := by
  unfold spaceBreak
  split
  · decide
  · assumption

/-- A specification is one line that closes nothing. -/
theorem text_of_extract {reply : String} {spec : Specification} (h : extract reply = .ok spec) :
    spec.text ≠ "" ∧ '>' ∉ spec.text.toList ∧ '\n' ∉ spec.text.toList := by
  unfold extract at h
  split at h
  · rename_i c cs found
    cases h
    have unclosed : ∀ s ∈ scan none none reply.toList, '>' ∉ s := not_mem_of_scan nofun nofun
    have unclosed := unclosed (c :: cs) found
    refine ⟨?_, ?_, ?_⟩
    · simp
    · rw [String.toList_ofList, List.mem_map]
      rintro ⟨d, member, closes⟩
      rw [spaceBreak_eq_iff (by decide) (by decide)] at closes
      exact unclosed (closes ▸ member)
    · rw [String.toList_ofList, List.mem_map]
      rintro ⟨d, -, breaks⟩
      exact spaceBreak_ne_break d breaks
  · cases h

theorem extract_congr {reply other : String}
    (h : lastPair? reply.toList = lastPair? other.toList) : extract reply = extract other := by
  rw [extract, extract, h]

/-- The specification in a reply is what the last of the closed pieces with a `<` holds
after it, and there is none if that is nothing. So a specification is a line that is
not empty and closes nothing. A `<` that is not closed changes nothing, nor does a `>`
that closes nothing. The walk by bytes comes to the same, and all its slices begin and
end between characters. -/
theorem extract_reads_last_closed (reply : String) :
    extract reply = ofPieces reply ∧
    (∀ spec, extract reply = .ok spec →
      spec.text ≠ "" ∧ '>' ∉ spec.text.toList ∧ '\n' ∉ spec.text.toList) ∧
    (∀ tail : String, '>' ∉ tail.toList → extract (reply ++ tail) = extract reply) ∧
    (∀ front between rest : String, reply = front ++ between ++ ">" ++ rest →
      (front = "" ∨ front.toList.getLast? = some '>') → '<' ∉ between.toList →
        extract reply = extract (front ++ between ++ rest)) ∧
    scanFrom? reply none 0 = some ((lastPair? reply.toList).map .ofList) := by
  refine ⟨extract_eq_ofPieces reply, fun spec => text_of_extract, ?_, ?_, scanFrom?_zero reply⟩
  · intro tail unclosed
    apply extract_congr
    rw [String.toList_append]
    exact scan_append_tail unclosed reply.toList none none
  · rintro front between rest rfl closed unopened
    apply extract_congr
    have closed : front.toList = [] ∨ front.toList.getLast? = some '>' :=
      closed.imp_left (by rintro rfl; rfl)
    have stray : '<' ∉ between.toList ++ ['>'] := by simpa using unopened
    have with_stray := scan_between closed stray none rest.toList
    have without := scan_between closed unopened none rest.toList
    rw [List.append_assoc] at with_stray
    simp only [lastPair?, String.toList_append, List.append_assoc]
    exact with_stray.trans without.symm

end Sortie.Specification
