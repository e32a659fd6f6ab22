import Sortie.Json.Reader
/-!
# What is written is read

A value's text is read back as the value (`Json.read?_render`), if its numbers have the
form of the format. The lexer and the reader are followed apart: `Lexes` says which tokens
some characters give wherever they stand between delimiters, and `Reads` which value some
tokens give wherever a value is due.
-/

namespace Sortie.Json

/-! ## Steps of the lexer -/

section Steps

variable (ts : List Token) (pieces : List Piece) (done : List Char) (c : Char)

theorem step_text :
    Lexer.step ⟨ts, .text pieces⟩ c =
      if c = '"' then
        some ⟨.scalar (.string ((joinPieces pieces.reverse).map String.ofList)) :: ts, .nothing⟩
      else if c = '\\' then some ⟨ts, .escape pieces⟩
      else if c.toNat < 0x20 then none
      else some ⟨ts, .text (.char c :: pieces)⟩ :=
  rfl

theorem step_hex (value left : Nat) :
    Lexer.step ⟨ts, .hex pieces value left⟩ c =
      (hexValue? c).map fun d =>
        ⟨ts, if left ≤ 1 then .text (.unit (value * 16 + d) :: pieces)
          else .hex pieces (value * 16 + d) (left - 1)⟩ :=
  rfl

theorem step_number :
    Lexer.step ⟨ts, .number done⟩ c =
      if continuesNumber c then some ⟨ts, .number (c :: done)⟩
      else (Lexer.close ⟨ts, .number done⟩).bind (·.begin c) :=
  rfl

theorem step_word :
    Lexer.step ⟨ts, .word done⟩ c =
      if c.isLower then some ⟨ts, .word (c :: done)⟩
      else (Lexer.close ⟨ts, .word done⟩).bind (·.begin c) :=
  rfl

end Steps

/-- A character that ends a number or a word. -/
def endsScalar (c : Char) : Bool :=
  !continuesNumber c && !c.isLower

/-- What ends a scalar is read as if the scalar had ended before. -/
theorem step_of_close {l l' : Lexer} {c : Char} (h : l.close = some l')
    (between : l'.inside = .nothing) (ends : endsScalar c = true) : l.step c = l'.begin c := by
  rw [endsScalar, Bool.and_eq_true, Bool.not_eq_true', Bool.not_eq_true'] at ends
  obtain ⟨ts, inside⟩ := l
  cases inside with
  | nothing => cases h; rfl
  | number done => rw [step_number, if_neg (by simp [ends.1]), h, Option.bind_some]
  | word done => rw [step_word, if_neg (by simp [ends.2]), h, Option.bind_some]
  | text | escape | hex => cases h

/-! ## Characters and tokens -/

/-- Wherever a token may begin, the characters give these tokens, and the lexer is then
between tokens or in the middle of the last one. -/
def Lexes (cs : List Char) (ts : List Token) : Prop :=
  ∀ before, ∃ l, cs.foldlM Lexer.step ⟨before, .nothing⟩ = some l ∧
    l.close = some ⟨ts.reverse ++ before, .nothing⟩

theorem Lexes.nil : Lexes [] [] :=
  fun before => ⟨⟨before, .nothing⟩, rfl, rfl⟩

/-- Two stretches with a delimiter between them give their tokens with
its token between them. -/
theorem Lexes.delimit {cs ds : List Char} {ts us : List Token} {c : Char} {t : Token}
    (left : Lexes cs ts) (right : Lexes ds us) (ends : endsScalar c = true)
    (begins : ∀ l : Lexer, l.begin c = some (l.emit t)) :
    Lexes (cs ++ c :: ds) (ts ++ t :: us) := by
  intro before
  obtain ⟨l, read, close⟩ := left before
  obtain ⟨l', read', close'⟩ := right (t :: (ts.reverse ++ before))
  refine ⟨l', ?_, ?_⟩
  · rw [List.foldlM_append, read]
    change (l.step c).bind _ = _
    rw [step_of_close close rfl ends, begins]
    exact read'
  · rw [close']
    simp

/-! ## Texts -/

theorem hexValue?_hexDigit : ∀ n < 16, hexValue? (hexDigit n) = some n := by
  decide

/-- A character inside quotes is kept as itself, or by its number if it
is escaped by number. -/
theorem foldlM_escape (c : Char) :
    ∃ p : Piece, (p = .char c ∨ p = .unit c.toNat ∧ c.toNat < 0x20) ∧ ∀ ts pieces,
      (escape c).foldlM Lexer.step ⟨ts, .text pieces⟩ = some ⟨ts, .text (p :: pieces)⟩ := by
  unfold escape
  -- Seven characters have an escape of their own.
  iterate 7
    split
    · subst_vars
      exact ⟨_, .inl rfl, fun _ _ => rfl⟩
  split
  · rename_i small
    refine ⟨.unit c.toNat, .inr ⟨rfl, small⟩, fun ts pieces => ?_⟩
    have high := hexValue?_hexDigit (c.toNat / 16) (by omega)
    have low := hexValue?_hexDigit (c.toNat % 16) (by omega)
    have whole : c.toNat / 16 * 16 + c.toNat % 16 = c.toNat := by omega
    change ((Lexer.step ⟨ts, .hex pieces 0 2⟩ (hexDigit (c.toNat / 16))).bind fun l =>
      (Lexer.step l (hexDigit (c.toNat % 16))).bind some) = _
    rw [step_hex, high, Option.map_some, Option.bind_some, if_neg (by decide), step_hex, low,
      Option.map_some, Option.bind_some, if_pos (by decide), Nat.zero_mul, Nat.zero_add, whole]
  · rename_i quote backslash _ _ _ _ _ large
    refine ⟨.char c, .inl rfl, fun ts pieces => ?_⟩
    change (Lexer.step _ c).bind _ = _
    rw [step_text, if_neg quote, if_neg backslash, if_neg large]
    rfl

/-- A unit that is no half of a pair stands for a character of its own. -/
theorem joinPieces_unit {n : Nat} (small : n < 0x20) (ps : List Piece) :
    joinPieces (.unit n :: ps) = (joinPieces ps).map (Char.ofNat n :: ·) := by
  have notHigh : ¬ 0xD800 ≤ n := by omega
  have notLow : ¬ 0xDC00 ≤ n := by omega
  cases ps with
  | nil => simp [joinPieces, notHigh]
  | cons p ps =>
    cases p with
    | char c => simp [joinPieces, notHigh]
    | unit m => simp [joinPieces, notHigh, notLow]

theorem foldlM_escapes (cs : List Char) :
    ∃ ps : List Piece, joinPieces ps = some cs ∧ ∀ ts pieces,
      (cs.flatMap escape).foldlM Lexer.step ⟨ts, .text pieces⟩ =
        some ⟨ts, .text (ps.reverse ++ pieces)⟩ := by
  induction cs with
  | nil => exact ⟨[], rfl, fun _ _ => rfl⟩
  | cons c cs ih =>
    obtain ⟨p, kept, first⟩ := foldlM_escape c
    obtain ⟨ps, joined, others⟩ := ih
    refine ⟨p :: ps, ?_, fun ts pieces => ?_⟩
    · rcases kept with rfl | ⟨rfl, small⟩
      · rw [joinPieces, joined]
        rfl
      · rw [joinPieces_unit small, joined, Char.ofNat_toNat]
        rfl
    · rw [List.flatMap_cons, List.foldlM_append, first]
      change List.foldlM Lexer.step _ _ = _
      rw [others, List.reverse_cons, List.append_assoc]
      rfl

theorem lexes_quote (s : Option String) : Lexes (quote s) [.scalar (.string s)] := by
  intro before
  cases s with
  | none => exact ⟨_, rfl, rfl⟩
  | some s =>
    obtain ⟨ps, joined, read⟩ := foldlM_escapes s.toList
    refine ⟨⟨.scalar (.string (some s)) :: before, .nothing⟩, ?_, rfl⟩
    change List.foldlM Lexer.step ⟨before, .text []⟩ (s.toList.flatMap escape ++ ['"']) = _
    rw [List.foldlM_append, read, List.append_nil]
    change (Lexer.step ⟨before, .text ps.reverse⟩ '"').bind some = _
    rw [step_text, if_pos rfl, List.reverse_reverse, joined, Option.map_some, String.ofList_toList]
    rfl

/-! ## Words and numbers -/

theorem lexes_null : Lexes "null".toList [.scalar .null] :=
  fun _ => ⟨_, rfl, rfl⟩

theorem lexes_bool (b : Bool) :
    Lexes (if b then "true" else "false").toList [.scalar (.bool b)] := by
  intro before
  cases b with
  | false => exact ⟨_, rfl, rfl⟩
  | true => exact ⟨_, rfl, rfl⟩

theorem continuesNumber_of_isDigit {c : Char} (h : Decimal.isDigit c = true) :
    continuesNumber c = true := by
  simp [continuesNumber, h]

theorem all_of_allDigits {cs : List Char} (h : allDigits cs = true) :
    ∀ c ∈ cs, continuesNumber c = true := by
  rw [allDigits, Bool.and_eq_true, List.all_eq_true] at h
  exact fun c mem => continuesNumber_of_isDigit (h.2 c mem)

/-- An exponent that is there begins with its mark. -/
theorem of_isExponent {c : Char} {cs : List Char} (h : isExponent (c :: cs) = true) :
    (c = 'e' ∨ c = 'E') ∧ ∀ d ∈ cs, continuesNumber d = true := by
  unfold isExponent at h
  split at h
  · rename_i empty
    cases empty
  all_goals
    rename_i written
    cases written
    rw [Bool.and_eq_true, Bool.or_eq_true, beq_iff_eq, beq_iff_eq] at h
    refine ⟨h.1, ?_⟩
  · exact List.forall_mem_cons.mpr ⟨rfl, all_of_allDigits h.2⟩
  · exact List.forall_mem_cons.mpr ⟨rfl, all_of_allDigits h.2⟩
  · exact all_of_allDigits h.2

theorem all_of_isExponent {cs : List Char} (h : isExponent cs = true) :
    ∀ c ∈ cs, continuesNumber c = true := by
  cases cs with
  | nil => nofun
  | cons c cs =>
    obtain ⟨rfl | rfl, others⟩ := of_isExponent h
    · exact List.forall_mem_cons.mpr ⟨rfl, others⟩
    · exact List.forall_mem_cons.mpr ⟨rfl, others⟩

/-- Digits, then characters of a number. -/
theorem all_of_dropWhile {cs : List Char}
    (h : ∀ c ∈ cs.dropWhile Decimal.isDigit, continuesNumber c = true) :
    ∀ c ∈ cs, continuesNumber c = true := by
  intro c mem
  rw [← List.takeWhile_append_dropWhile (p := Decimal.isDigit) (l := cs), List.mem_append] at mem
  obtain digit | later := mem
  · exact continuesNumber_of_isDigit (List.all_eq_true.mp List.all_takeWhile c digit)
  · exact h c later

theorem all_of_isNumberTail {cs : List Char} (h : isNumberTail cs = true) :
    ∀ c ∈ cs, continuesNumber c = true := by
  unfold isNumberTail at h
  split at h
  · rw [Bool.and_eq_true] at h
    exact List.forall_mem_cons.mpr ⟨rfl, all_of_dropWhile (all_of_isExponent h.2)⟩
  · exact all_of_isExponent h

theorem of_isUnsignedNumber {cs : List Char} (h : isUnsignedNumber cs = true) :
    ∃ c rest, cs = c :: rest ∧ Decimal.isDigit c = true ∧ ∀ c ∈ rest, continuesNumber c = true := by
  unfold isUnsignedNumber at h
  split at h
  · exact ⟨_, _, rfl, rfl, all_of_isNumberTail h⟩
  · rw [Bool.and_eq_true] at h
    exact ⟨_, _, rfl, h.1, all_of_dropWhile (all_of_isNumberTail h.2)⟩
  · cases h

theorem begin_digit {c : Char} (h : Decimal.isDigit c = true) (ts : List Token) :
    Lexer.begin ⟨ts, .nothing⟩ c = some ⟨ts, .number [c]⟩ := by
  have other (d : Char) (no : Decimal.isDigit d = false) : c ≠ d := by
    rintro rfl
    cases h.symm.trans no
  simp [Lexer.begin, h, other ' ' rfl, other '\n' rfl, other '\t' rfl, other '\r' rfl,
    other '[' rfl, other ']' rfl, other '\x7b' rfl, other '\x7d' rfl, other ':' rfl, other ',' rfl,
    other '"' rfl]

/-- A number begins as one and goes on to its end. -/
theorem of_isNumber {cs : List Char} (h : isNumber cs = true) :
    ∃ c rest, cs = c :: rest ∧
      (∀ ts, Lexer.begin ⟨ts, .nothing⟩ c = some ⟨ts, .number [c]⟩) ∧
      ∀ c ∈ rest, continuesNumber c = true := by
  unfold isNumber at h
  split at h
  · obtain ⟨c, rest, rfl, digit, all⟩ := of_isUnsignedNumber h
    exact ⟨_, _, rfl, fun _ => rfl,
      List.forall_mem_cons.mpr ⟨continuesNumber_of_isDigit digit, all⟩⟩
  · obtain ⟨c, rest, rfl, digit, all⟩ := of_isUnsignedNumber h
    exact ⟨c, rest, rfl, begin_digit digit, all⟩

theorem foldlM_number {cs : List Char} (h : ∀ c ∈ cs, continuesNumber c = true) (ts : List Token)
    (done : List Char) :
    cs.foldlM Lexer.step ⟨ts, .number done⟩ = some ⟨ts, .number (cs.reverse ++ done)⟩ := by
  induction cs generalizing done with
  | nil => rfl
  | cons c cs ih =>
    obtain ⟨here, others⟩ := List.forall_mem_cons.mp h
    rw [List.foldlM_cons, step_number, if_pos here, List.reverse_cons, List.append_assoc]
    exact ih others (c :: done)

theorem lexes_number {lexeme : String} (h : isNumber lexeme.toList = true) :
    Lexes lexeme.toList [.scalar (.number lexeme)] := by
  intro before
  obtain ⟨c, rest, written, begins, goesOn⟩ := of_isNumber h
  refine ⟨⟨before, .number lexeme.toList.reverse⟩, ?_, ?_⟩
  · rw [written, List.foldlM_cons]
    change (Lexer.begin _ c).bind _ = _
    rw [begins, List.reverse_cons]
    exact foldlM_number goesOn before [c]
  · -- Nothing has followed the number yet, so only closing the lexer makes it a token.
    simp only [Lexer.close]
    rw [List.reverse_reverse, if_pos h, String.ofList_toList]
    rfl

/-! ## Tokens and values -/

/-- Wherever a value is due, the tokens complete this one. -/
def Reads (ts : List Token) (j : Json) : Prop :=
  ∀ r : Reader, r.due = .value ∨ r.due = .firstItem → ts.foldlM Reader.feed r = some (r.complete j)

/-- Wherever an item is due, the tokens add these items to the list. -/
def ReadsItems (ts : List Token) (items : List Json) : Prop :=
  ∀ done outer due result, due = .value ∨ due = .firstItem →
    ts.foldlM Reader.feed ⟨.array done :: outer, due, result⟩ =
      some ⟨.array (items.reverse ++ done) :: outer, .separator, result⟩

/-- Wherever a name is due, the tokens add these fields to the record. -/
def ReadsFields (ts : List Token) (fields : List (Option String × Json)) : Prop :=
  ∀ done outer due result, due = .name ∨ due = .firstName →
    ts.foldlM Reader.feed ⟨.object done none :: outer, due, result⟩ =
      some ⟨.object (fields.reverse ++ done) none :: outer, .separator, result⟩

variable {ts us : List Token} {j : Json}

theorem reads_scalar (j : Json) : Reads [.scalar j] j := by
  rintro ⟨stack, due, result⟩ (h | h) <;>
    · subst h
      rfl

theorem Reads.item (h : Reads ts j) : ReadsItems ts [j] :=
  fun _ _ _ _ due => h _ due

theorem Reads.items {rest : List Json} (first : Reads ts j) (more : ReadsItems us rest) :
    ReadsItems (ts ++ .comma :: us) (j :: rest) := by
  intro done outer due result h
  rw [List.foldlM_append, first _ h]
  change us.foldlM Reader.feed ⟨.array (j :: done) :: outer, .value, result⟩ = _
  rw [more _ _ _ _ (.inl rfl), List.reverse_cons, List.append_assoc]
  rfl

theorem Reads.field (h : Reads ts j) (name : Option String) :
    ReadsFields (.scalar (.string name) :: .colon :: ts) [(name, j)] := by
  rintro done outer due result (rfl | rfl) <;>
    exact h ⟨.object done name :: outer, .value, result⟩ (.inl rfl)

theorem ReadsFields.fields {first rest : List (Option String × Json)} (h : ReadsFields ts first)
    (more : ReadsFields us rest) : ReadsFields (ts ++ .comma :: us) (first ++ rest) := by
  intro done outer due result due'
  rw [List.foldlM_append, h _ _ _ _ due']
  change us.foldlM Reader.feed ⟨.object (first.reverse ++ done) none :: outer, .name, result⟩ = _
  rw [more _ _ _ _ (.inl rfl), List.reverse_append, List.append_assoc]

/-- A value goes to its place whatever was due before it. -/
theorem complete_due (stack : List Frame) (due due' : Due) (result : Option Json) (j : Json) :
    Reader.complete ⟨stack, due, result⟩ j = Reader.complete ⟨stack, due', result⟩ j := by
  rcases stack with _ | ⟨_ | _, _⟩ <;> rfl

section Opening

variable {r : Reader} (due : r.due = .value ∨ r.due = .firstItem)
include due

theorem feed_openArray :
    r.feed .openArray = some ⟨.array [] :: r.stack, .firstItem, r.result⟩ := by
  obtain ⟨stack, _, result⟩ := r
  rcases due with h | h <;> cases h <;> rfl

theorem feed_openObject :
    r.feed .openObject = some ⟨.object [] none :: r.stack, .firstName, r.result⟩ := by
  obtain ⟨stack, _, result⟩ := r
  rcases due with h | h <;> cases h <;> rfl

end Opening

theorem reads_empty_array : Reads [.openArray, .closeArray] (.array []) := by
  intro r due
  rw [List.foldlM_cons, feed_openArray due]
  exact congrArg some (complete_due ..)

theorem reads_empty_object : Reads [.openObject, .closeObject] (.object []) := by
  intro r due
  rw [List.foldlM_cons, feed_openObject due]
  exact congrArg some (complete_due ..)

theorem ReadsItems.array {items : List Json} (h : ReadsItems ts items) :
    Reads (.openArray :: (ts ++ [.closeArray])) (.array items) := by
  intro r due
  rw [List.foldlM_cons, feed_openArray due]
  change (ts ++ [Token.closeArray]).foldlM Reader.feed
    ⟨.array [] :: r.stack, .firstItem, r.result⟩ = _
  rw [List.foldlM_append, h _ _ _ _ (.inr rfl), List.append_nil]
  change some (Reader.complete ⟨r.stack, .separator, r.result⟩ (.array items.reverse.reverse)) = _
  rw [List.reverse_reverse]
  exact congrArg some (complete_due ..)

theorem ReadsFields.object {fields : List (Option String × Json)} (h : ReadsFields ts fields) :
    Reads (.openObject :: (ts ++ [.closeObject])) (.object fields) := by
  intro r due
  rw [List.foldlM_cons, feed_openObject due]
  change (ts ++ [Token.closeObject]).foldlM Reader.feed
    ⟨.object [] none :: r.stack, .firstName, r.result⟩ = _
  rw [List.foldlM_append, h _ _ _ _ (.inr rfl), List.append_nil]
  change some (Reader.complete ⟨r.stack, .separator, r.result⟩ (.object fields.reverse.reverse)) = _
  rw [List.reverse_reverse]
  exact congrArg some (complete_due ..)

/-! ## Values -/

/-- All numbers in the value have the form of the format. -/
inductive IsWellFormed : Json → Prop
  | null : IsWellFormed .null
  | bool (b : Bool) : IsWellFormed (.bool b)
  | number {lexeme : String} (form : isNumber lexeme.toList = true) : IsWellFormed (.number lexeme)
  | string (s : Option String) : IsWellFormed (.string s)
  | array {items : List Json} (each : ∀ j ∈ items, IsWellFormed j) : IsWellFormed (.array items)
  | object {fields : List (Option String × Json)} (each : ∀ f ∈ fields, IsWellFormed f.2) :
    IsWellFormed (.object fields)

/-- The value's text gives tokens that complete the value. -/
def IsReadBack (j : Json) : Prop :=
  ∃ ts, Lexes j.write ts ∧ Reads ts j

theorem exists_items {items : List Json} (each : ∀ j ∈ items, IsReadBack j)
    (nonempty : items ≠ []) :
    ∃ ts, Lexes (writeItems items) ts ∧ ReadsItems ts items := by
  induction items with
  | nil => exact absurd rfl nonempty
  | cons j rest ih =>
    obtain ⟨⟨ts, lexes, reads⟩, each⟩ := List.forall_mem_cons.mp each
    -- A comma stands only between two items, so the last item is a case of its own.
    cases rest with
    | nil => exact ⟨ts, lexes, reads.item⟩
    | cons next rest =>
      obtain ⟨us, lexes', reads'⟩ := ih each (List.cons_ne_nil _ _)
      exact ⟨_, lexes.delimit lexes' rfl fun _ => rfl, reads.items reads'⟩

theorem exists_fields {fields : List (Option String × Json)} (each : ∀ f ∈ fields, IsReadBack f.2)
    (nonempty : fields ≠ []) :
    ∃ ts, Lexes (writeFields fields) ts ∧ ReadsFields ts fields := by
  induction fields with
  | nil => exact absurd rfl nonempty
  | cons f rest ih =>
    obtain ⟨name, j⟩ := f
    obtain ⟨⟨ts, lexes, reads⟩, each⟩ := List.forall_mem_cons.mp each
    have field : Lexes (quote name ++ ':' :: j.write) (.scalar (.string name) :: .colon :: ts) :=
      (lexes_quote name).delimit lexes rfl fun _ => rfl
    cases rest with
    | nil => exact ⟨_, field, reads.field name⟩
    | cons next rest =>
      obtain ⟨us, lexes', reads'⟩ := ih each (List.cons_ne_nil _ _)
      refine ⟨_, ?_, (reads.field name).fields reads'⟩
      have both := field.delimit lexes' (c := ',') rfl fun _ => rfl
      rwa [List.append_assoc] at both

theorem lexes_between {cs : List Char} {a b : Char} {s t : Token} (inner : Lexes cs ts)
    (ends : endsScalar a = true) (begins : ∀ l : Lexer, l.begin a = some (l.emit s))
    (ends' : endsScalar b = true) (begins' : ∀ l : Lexer, l.begin b = some (l.emit t)) :
    Lexes (a :: (cs ++ [b])) (s :: (ts ++ [t])) :=
  Lexes.nil.delimit (inner.delimit .nil ends' begins') ends begins

/-- By induction on the value: each item of a list is read back, and so is the list. -/
theorem IsWellFormed.isReadBack (h : IsWellFormed j) : IsReadBack j := by
  induction h with
  | null => exact ⟨_, lexes_null, reads_scalar _⟩
  | bool b => exact ⟨_, lexes_bool b, reads_scalar _⟩
  | number form => exact ⟨_, lexes_number form, reads_scalar _⟩
  | string s => exact ⟨_, lexes_quote s, reads_scalar _⟩
  | @array items _ each =>
    cases items with
    | nil => exact ⟨_, lexes_between .nil rfl (fun _ => rfl) rfl (fun _ => rfl), reads_empty_array⟩
    | cons j rest =>
      obtain ⟨ts, lexes, reads⟩ := exists_items each (List.cons_ne_nil _ _)
      exact ⟨_, lexes_between lexes rfl (fun _ => rfl) rfl (fun _ => rfl), reads.array⟩
  | @object fields _ each =>
    cases fields with
    | nil => exact ⟨_, lexes_between .nil rfl (fun _ => rfl) rfl (fun _ => rfl), reads_empty_object⟩
    | cons f rest =>
      obtain ⟨ts, lexes, reads⟩ := exists_fields each (List.cons_ne_nil _ _)
      exact ⟨_, lexes_between lexes rfl (fun _ => rfl) rfl (fun _ => rfl), reads.object⟩

/-- A value is what its text is read as. -/
theorem read?_render (h : IsWellFormed j) : read? j.render = some j := by
  obtain ⟨ts, lexes, reads⟩ := h.isReadBack
  obtain ⟨l, read, close⟩ := lexes []
  rw [read?, render, String.toList_ofList, tokens?, read]
  change (l.close.bind fun l => some l.tokens.reverse).bind ofTokens? = _
  rw [close, List.append_nil, Option.bind_some, Option.bind_some, List.reverse_reverse, ofTokens?,
    reads _ (.inl rfl)]
  rfl

end Sortie.Json
