import GrammarScan.Text.Buffer
import GrammarScan.Text.Lines
import Mathlib.Tactic.Lemma
import Mathlib.Tactic.SplitIfs

/-!
# Buffers and characters

What a buffer shows at an offset between two characters is what the text has there (`cut_append`,
`bytesFrom_append`).  A character with one byte is found by that byte, since no other character has
it anywhere in its UTF-8 form (`isByteOf_iff_of_mem`): a search for such bytes stops at the first of
the characters (`firstByteOf?_bytes`), and counting them counts the characters (`countP_bytes`).
-/

namespace GrammarScan.Text

/-! ## Offsets between characters -/

@[simp] lemma bytes_append (cs ds : List Char) : bytes (cs ++ ds) = bytes cs ++ bytes ds :=
  List.flatMap_append

/-- Between two characters, a text is cut into what stands before and what stands behind. -/
lemma cut_append (before after : List Char) :
    cut (before ++ after) (byteLength before) = .ok (before, after) := by
  unfold cut
  rw [splitAtByte?_append]

lemma charsFrom_append (before after : List Char) :
    charsFrom (before ++ after) (byteLength before) = .ok after := by
  unfold charsFrom
  rw [cut_append]
  rfl

lemma charsBetween_append (before piece after : List Char) :
    charsBetween (before ++ (piece ++ after)) (byteLength before) (byteLength (before ++ piece)) =
      .ok piece := by
  have hle : byteLength before ≤ byteLength (before ++ piece) := by simp
  have hlength : byteLength (before ++ piece) - byteLength before = byteLength piece := by simp
  unfold charsBetween
  rw [if_pos hle, charsFrom_append, hlength]
  show (cut (piece ++ after) (byteLength piece) >>= fun parts => pure parts.1) = _
  rw [cut_append]
  rfl

lemma charsInside_append (front piece back : List Char) :
    charsInside (front ++ (piece ++ back)) (byteLength front) (byteLength back) = .ok piece := by
  have hle : byteLength back ≤ byteLength (front ++ (piece ++ back)) := by
    simp only [byteLength_append]
    omega
  have hlength : byteLength (front ++ (piece ++ back)) - byteLength back =
      byteLength (front ++ piece) := by
    simp only [byteLength_append]
    omega
  unfold charsInside
  rw [if_pos hle, hlength, charsBetween_append]

lemma bytesFrom_append (before after : List Char) :
    bytesFrom (before ++ after) (byteLength before) = .ok (bytes after) := by
  have hle : byteLength before ≤ byteLength (before ++ after) := by simp
  unfold bytesFrom
  rw [if_pos hle, bytes_append, ← length_bytes, List.drop_left]

/-! ## The bytes of one character -/

lemma utf8EncodeChar_of_ascii {c : Char} (h : c.utf8Size = 1) :
    String.utf8EncodeChar c = [c.toUInt8] :=
  String.utf8EncodeChar_eq_singleton h

lemma utf8Size_eq_one_iff {c : Char} : c.utf8Size = 1 ↔ c.toNat ≤ 127 := by
  rw [Char.utf8Size_eq_one_iff, UInt32.le_iff_toNat_le]
  rfl

lemma toNat_toUInt8_of_ascii {c : Char} (h : c.utf8Size = 1) : c.toUInt8.toNat = c.toNat := by
  have hle := utf8Size_eq_one_iff.1 h
  show c.val.toUInt8.toNat = c.toNat
  rw [UInt32.toNat_toUInt8]
  exact Nat.mod_eq_of_lt (by omega : c.toNat < 256)

/-- The bytes of a character that has more than one are all above the range of ASCII. -/
lemma le_of_mem_utf8EncodeChar {c : Char} (h : c.utf8Size ≠ 1) :
    ∀ byte ∈ String.utf8EncodeChar c, 128 ≤ byte.toNat := by
  have hlarge : ¬ c.val.toNat ≤ 127 := fun hle => h (utf8Size_eq_one_iff.2 hle)
  unfold String.utf8EncodeChar
  dsimp only
  rw [if_neg hlarge]
  split_ifs <;> simp only [List.forall_mem_cons, UInt8.toNat_ofNat'] <;> simp <;> omega

/-- A character with one byte shares it with no other character. -/
lemma isByteOf_iff_of_mem {c wanted : Char} (hwanted : wanted.utf8Size = 1) {byte : UInt8}
    (hbyte : byte ∈ String.utf8EncodeChar c) : isByteOf byte wanted = true ↔ c = wanted := by
  have hascii := utf8Size_eq_one_iff.1 hwanted
  have hvalue := toNat_toUInt8_of_ascii hwanted
  rw [isByteOf, beq_iff_eq]
  by_cases hc : c.utf8Size = 1
  · have hown := toNat_toUInt8_of_ascii hc
    rw [utf8EncodeChar_of_ascii hc, List.mem_singleton] at hbyte
    rw [hbyte, ← UInt8.toNat_inj, hown, hvalue, Char.toNat_inj]
  · have hhigh := le_of_mem_utf8EncodeChar hc byte hbyte
    constructor
    · rintro rfl
      omega
    · rintro rfl
      exact absurd hwanted hc

lemma any_isByteOf_iff_of_mem {wanted : List Char} (hwanted : ∀ d ∈ wanted, d.utf8Size = 1)
    {c : Char} {byte : UInt8} (hbyte : byte ∈ String.utf8EncodeChar c) :
    wanted.any (isByteOf byte) = true ↔ c ∈ wanted := by
  rw [List.any_eq_true]
  constructor
  · rintro ⟨d, hd, hsame⟩
    rwa [(isByteOf_iff_of_mem (hwanted d hd) hbyte).1 hsame]
  · intro hc
    exact ⟨c, hc, (isByteOf_iff_of_mem (hwanted c hc) hbyte).2 rfl⟩

/-- The first byte of a text is one of its first character. -/
lemma exists_bytes_cons (c : Char) (cs : List Char) :
    ∃ byte ∈ String.utf8EncodeChar c, ∃ later, bytes (c :: cs) = byte :: later := by
  have hne : String.utf8EncodeChar c ≠ [] := by
    rw [ne_eq, ← List.length_eq_zero_iff, String.length_utf8EncodeChar]
    have := c.utf8Size_pos
    omega
  obtain ⟨byte, own, hown⟩ := List.exists_cons_of_ne_nil hne
  refine ⟨byte, by rw [hown]; exact List.mem_cons_self, own ++ bytes cs, ?_⟩
  rw [bytes_cons, hown, List.cons_append]

/-- At an offset inside a character stands one of its bytes. -/
lemma exists_byteAt_append (before : List Char) (c : Char) (after : List Char) {index : Nat}
    (hindex : index < c.utf8Size) :
    ∃ byte ∈ String.utf8EncodeChar c,
      byteAt (before ++ c :: after) (byteLength before + index) = .ok byte := by
  have hown : index < (String.utf8EncodeChar c).length := by
    rwa [String.length_utf8EncodeChar]
  refine ⟨(String.utf8EncodeChar c)[index], List.getElem_mem hown, ?_⟩
  have hbyte : (bytes (before ++ c :: after))[byteLength before + index]? =
      some (String.utf8EncodeChar c)[index] := by
    rw [bytes_append, ← length_bytes, List.getElem?_append_right (Nat.le_add_right _ _),
      Nat.add_sub_cancel_left, bytes_cons, List.getElem?_append_left hown,
      List.getElem?_eq_getElem hown]
  unfold byteAt
  rw [hbyte]

/-- In front of an offset behind a character stands one of its bytes. -/
lemma exists_byteAt_before (before : List Char) (c : Char) (after : List Char) :
    ∃ byte ∈ String.utf8EncodeChar c,
      byteAt (before ++ c :: after) (byteLength (before ++ [c]) - 1) = .ok byte := by
  have hpos := c.utf8Size_pos
  have hoffset : byteLength (before ++ [c]) - 1 = byteLength before + (c.utf8Size - 1) := by
    rw [byteLength_append, byteLength_cons, byteLength_nil]
    omega
  rw [hoffset]
  exact exists_byteAt_append before c after (by omega)

/-! ## Searches for characters with one byte -/

section Searches

variable {wanted : List Char}

lemma firstByteOf?_of_forall_not_mem (hwanted : ∀ d ∈ wanted, d.utf8Size = 1) {cs : List Char}
    (h : ∀ c ∈ cs, c ∉ wanted) : firstByteOf? wanted (bytes cs) = none := by
  unfold firstByteOf?
  rw [List.findIdx?_eq_none_iff]
  intro byte hbyte
  obtain ⟨c, hc, hown⟩ := List.mem_flatMap.1 hbyte
  rw [Bool.eq_false_iff, ne_eq, any_isByteOf_iff_of_mem hwanted hown]
  exact h c hc

/-- A search for bytes finds the first of the characters they belong to. -/
theorem firstByteOf?_bytes (hwanted : ∀ d ∈ wanted, d.utf8Size = 1) {stretch : List Char}
    (h : ∀ c ∈ stretch, c ∉ wanted) {c : Char} (hc : c ∈ wanted) (rest : List Char) :
    firstByteOf? wanted (bytes (stretch ++ c :: rest)) = some (byteLength stretch) := by
  have hnone : (bytes stretch).findIdx? (fun byte => wanted.any (isByteOf byte)) = none :=
    firstByteOf?_of_forall_not_mem hwanted h
  have hown : c.toUInt8 ∈ String.utf8EncodeChar c := by
    rw [utf8EncodeChar_of_ascii (hwanted c hc)]
    exact List.mem_singleton_self _
  have hstop := (any_isByteOf_iff_of_mem hwanted hown).2 hc
  unfold firstByteOf?
  rw [bytes_append, List.findIdx?_append, hnone, bytes_cons, utf8EncodeChar_of_ascii (hwanted c hc),
    List.singleton_append, List.findIdx?_cons, if_pos hstop, ← length_bytes]
  simp

/-- The bytes before the first unwanted one are those of the characters before it. -/
theorem takeWhile_bytes (hwanted : ∀ d ∈ wanted, d.utf8Size = 1) {run rest : List Char}
    (hrun : ∀ c ∈ run, c ∈ wanted) (hrest : ∀ c ∈ rest.head?, c ∉ wanted) :
    (bytes (run ++ rest)).takeWhile (fun byte => wanted.any (isByteOf byte)) = bytes run := by
  have hown : ∀ byte ∈ bytes run, wanted.any (isByteOf byte) = true := by
    intro byte hbyte
    obtain ⟨c, hc, hmem⟩ := List.mem_flatMap.1 hbyte
    exact (any_isByteOf_iff_of_mem hwanted hmem).2 (hrun c hc)
  rw [bytes_append, List.takeWhile_append_of_pos hown]
  cases rest with
  | nil => exact List.append_nil _
  | cons c rest =>
    obtain ⟨byte, hbyte, later, hbytes⟩ := exists_bytes_cons c rest
    have hstop : (bytes (c :: rest)).takeWhile (fun byte => wanted.any (isByteOf byte)) = [] := by
      rw [hbytes]
      apply List.takeWhile_cons_of_neg
      rw [any_isByteOf_iff_of_mem hwanted hbyte]
      exact hrest c rfl
    rw [hstop, List.append_nil]

/-- There are as many bytes of a character with one byte as there are such characters. -/
theorem countP_bytes {c : Char} (hc : c.utf8Size = 1) (cs : List Char) :
    (bytes cs).countP (isByteOf · c) = cs.count c := by
  induction cs with
  | nil => rfl
  | cons d cs ih =>
    rw [bytes_cons, List.countP_append, ih, List.count_cons, Nat.add_comm]
    by_cases hd : d = c
    · subst hd
      have hown : isByteOf d.toUInt8 d = true := beq_self_eq_true _
      rw [utf8EncodeChar_of_ascii hc, List.countP_singleton, if_pos hown, if_pos (beq_self_eq_true d)]
    · have hzero : (String.utf8EncodeChar d).countP (isByteOf · c) = 0 := by
        rw [List.countP_eq_zero]
        intro byte hbyte
        rw [isByteOf_iff_of_mem hc hbyte]
        exact hd
      rw [hzero, if_neg (by simpa using hd)]

lemma lastByteOf?_append {c : Char} (bs cs : List UInt8) :
    lastByteOf? c (bs ++ cs) =
      ((lastByteOf? c cs).map (· + bs.length)).or (lastByteOf? c bs) := by
  induction bs with
  | nil => cases h : lastByteOf? c cs <;> simp [h, lastByteOf?]
  | cons byte bs ih =>
    rw [List.cons_append, lastByteOf?, ih, lastByteOf?]
    cases lastByteOf? c cs with
    | none => simp
    | some index => simp [Nat.add_assoc]

lemma lastByteOf?_of_forall {c : Char} {bs : List UInt8} (h : ∀ byte ∈ bs, ¬ isByteOf byte c) :
    lastByteOf? c bs = none := by
  induction bs with
  | nil => rfl
  | cons byte bs ih =>
    obtain ⟨hbyte, hbs⟩ := List.forall_mem_cons.1 h
    rw [lastByteOf?, ih hbs]
    exact if_neg hbyte

/-- A search for a byte from behind finds the last of the characters it belongs to. -/
theorem lastByteOf?_bytes {c : Char} (hc : c.utf8Size = 1) (before : List Char) {after : List Char}
    (hafter : c ∉ after) :
    lastByteOf? c (bytes (before ++ c :: after)) = some (byteLength before) := by
  have hbehind : ∀ byte ∈ bytes after, ¬ isByteOf byte c := by
    intro byte hbyte
    obtain ⟨d, hd, hown⟩ := List.mem_flatMap.1 hbyte
    rw [isByteOf_iff_of_mem hc hown]
    rintro rfl
    exact hafter hd
  have hown : isByteOf c.toUInt8 c = true := beq_self_eq_true _
  rw [bytes_append, lastByteOf?_append, bytes_cons, utf8EncodeChar_of_ascii hc,
    List.singleton_append, lastByteOf?, lastByteOf?_of_forall hbehind, length_bytes]
  simp [hown]

end Searches

end GrammarScan.Text
