import GrammarScan.Cursor
import Mathlib.Data.List.DropRight
import Mathlib.Tactic.Lemma

/-!
# How a cursor moves

`Cursor.past` is the cursor behind a piece of text, without the checks that a move makes.
`move_of_rest_eq` says when the checks succeed: a move over the text that comes next breaks no
promise but the one on the size of numbers, and it breaks that one exactly if the piece has no line
feed and leads to a column that is too large, or has some and leads to a line that is.

`Cursor.StandsBehind` ties the numbers of a cursor to the text behind it.  Moving keeps the tie
(`StandsBehind.past`), and in a text that is not too long it leaves room for every move
(`StandsBehind.hasRoomFor`).
-/

namespace GrammarScan

namespace Text

/-! ## Columns in closed form -/

lemma columnAfter_of_not_mem {cs : List Char} (h : '\n' ∉ cs) (column : Nat) :
    columnAfter column cs = column + cs.length := by
  induction cs generalizing column with
  | nil => rfl
  | cons c cs ih =>
    obtain ⟨hc, hcs⟩ : '\n' ≠ c ∧ '\n' ∉ cs := by simpa using h
    have hstep : columnAfter column (c :: cs) = columnAfter (column + 1) cs := by
      simp [columnAfter, hc.symm]
    rw [hstep, ih hcs, List.length_cons]
    omega

/-- Behind a line feed, the column in front of a text makes no difference. -/
lemma columnAfter_of_mem {cs : List Char} (h : '\n' ∈ cs) (column other : Nat) :
    columnAfter column cs = columnAfter other cs := by
  obtain ⟨first, last, rfl⟩ := List.append_of_mem h
  rw [columnAfter_append, columnAfter_append]
  rfl

/-- From the start of a text, the column counts the characters behind the last line feed. -/
theorem columnAfter_one (cs : List Char) :
    columnAfter 1 cs = 1 + (cs.rtakeWhile (· ≠ '\n')).length := by
  induction cs using List.reverseRecOn with
  | nil => rfl
  | append_singleton cs c ih =>
    rw [columnAfter_append, ih]
    by_cases hc : c = '\n'
    · rw [List.rtakeWhile_concat_neg]
      · simp [columnAfter, hc]
      · simp [hc]
    · rw [List.rtakeWhile_concat_pos]
      · simp [columnAfter, hc, Nat.add_assoc]
      · simp [hc]

/-- The column behind a text, from the column in front of it. -/
lemma columnAfter_eq_ite (column : Nat) (cs : List Char) :
    columnAfter column cs =
      if '\n' ∈ cs then 1 + (cs.rtakeWhile (· ≠ '\n')).length else column + cs.length := by
  split_ifs with hfeed
  · rw [columnAfter_of_mem hfeed column 1, columnAfter_one]
  · exact columnAfter_of_not_mem hfeed column

lemma columnAfter_one_le (cs : List Char) : columnAfter 1 cs ≤ 1 + cs.length := by
  have hsuffix : cs.rtakeWhile (· ≠ '\n') <:+ cs := List.rtakeWhile_suffix _ cs
  have hlength := hsuffix.length_le
  rw [columnAfter_one]
  omega

lemma lineFeeds_le_length (cs : List Char) : lineFeeds cs ≤ cs.length :=
  List.count_le_length

end Text

open Text

namespace Cursor

/-! ## The cursor behind a piece of text -/

/-- The cursor behind a piece of text that comes next. -/
def past (cursor : Cursor) (piece : List Char) : Cursor :=
  { cursor with
    rest := cursor.rest.drop piece.length
    offset := cursor.offset + byteLength piece
    line := cursor.line + lineFeeds piece
    column := columnAfter cursor.column piece }

@[simp] lemma past_source (cursor : Cursor) (piece : List Char) :
    (cursor.past piece).source = cursor.source := rfl

@[simp] lemma past_offset (cursor : Cursor) (piece : List Char) :
    (cursor.past piece).offset = cursor.offset + byteLength piece := rfl

lemma past_rest {cursor : Cursor} {piece left : List Char} (h : cursor.rest = piece ++ left) :
    (cursor.past piece).rest = left := by
  simp [past, h]

/-- The cursor behind a piece of text, in closed form. -/
lemma past_eq {cursor : Cursor} {piece left : List Char} (h : cursor.rest = piece ++ left) :
    cursor.past piece = { cursor with
      rest := left
      offset := cursor.offset + byteLength piece
      line := cursor.line + lineFeeds piece
      column :=
        if '\n' ∈ piece then 1 + (piece.rtakeWhile (· ≠ '\n')).length
        else cursor.column + piece.length } := by
  unfold past
  rw [h, List.drop_left, columnAfter_eq_ite]

/-- Whether the line and the column behind a piece of text can be kept. -/
def HasRoomFor (cursor : Cursor) (piece : List Char) : Prop :=
  if lineFeeds piece = 0 then cursor.column + piece.length ≤ maxIndex
  else cursor.line + lineFeeds piece ≤ maxIndex

instance (cursor : Cursor) (piece : List Char) : Decidable (cursor.HasRoomFor piece) :=
  inferInstanceAs (Decidable (if lineFeeds piece = 0 then _ else _))

/-- A move over the text that comes next finds no fault but a number that is too large. -/
theorem move_of_rest_eq {cursor : Cursor} {piece left : List Char}
    (h : cursor.rest = piece ++ left) :
    cursor.move piece =
      if cursor.HasRoomFor piece then .ok (piece, cursor.past piece) else .error .overflow := by
  have hsplit : cursor.split (byteLength piece) = .ok (piece, left) :=
    split_eq_ok_iff.2 ⟨h, rfl⟩
  unfold move HasRoomFor
  by_cases hfeeds : lineFeeds piece = 0
  · have hmem : '\n' ∉ piece := lineFeeds_eq_zero_iff.1 hfeeds
    have hroom : ¬ maxIndex < cursor.column + piece.length ↔
        cursor.column + piece.length ≤ maxIndex := not_lt
    simp only [hfeeds, if_true, advance, hsplit, hmem, if_false, ← hroom, ite_not, past, h,
      List.drop_left, columnAfter_of_not_mem hmem, Nat.add_zero]
  · have hroom : ¬ maxIndex < cursor.line + lineFeeds piece ↔
        cursor.line + lineFeeds piece ≤ maxIndex := not_lt
    simp only [hfeeds, if_false, advanceLines, hsplit, ne_eq, not_true_eq_false, ← hroom, ite_not,
      past, h, List.drop_left]

/-- A cursor that advances goes past what it takes. -/
lemma advance_eq_ok {cursor next : Cursor} {count : Nat} {taken : List Char}
    (h : cursor.advance count = .ok (taken, next)) :
    cursor.rest = taken ++ next.rest ∧ next = cursor.past taken := by
  obtain ⟨hrest, rfl⟩ := rest_of_advance h
  have hsplit := split_eq_ok_iff.2 ⟨hrest, rfl⟩
  simp only [advance, hsplit] at h
  split_ifs at h with hfeed hlarge
  obtain ⟨-, hnext⟩ := Prod.mk.inj (Except.ok.inj h)
  refine ⟨hrest, ?_⟩
  rw [past_eq hrest, if_neg hfeed, lineFeeds_eq_zero_iff.2 hfeed]
  exact hnext.symm

/-- A cursor that advances over lines goes past what it takes, but to the column it is given. -/
lemma advanceLines_eq_ok {cursor next : Cursor} {count feeds column : Nat} {taken : List Char}
    (h : cursor.advanceLines count feeds column = .ok (taken, next)) :
    cursor.rest = taken ++ next.rest ∧ next = { cursor.past taken with column } := by
  obtain ⟨hrest, rfl⟩ := rest_of_advanceLines h
  have hsplit := split_eq_ok_iff.2 ⟨hrest, rfl⟩
  simp only [advanceLines, hsplit] at h
  split_ifs at h with hfeeds hlarge
  obtain ⟨-, hnext⟩ := Prod.mk.inj (Except.ok.inj h)
  obtain rfl : lineFeeds taken = feeds := not_not.1 hfeeds
  refine ⟨hrest, ?_⟩
  rw [past_eq hrest]
  exact hnext.symm

/-! ## The text behind a cursor -/

/-- The numbers of a cursor are those of the text `before` it. -/
structure StandsBehind (cursor : Cursor) (before : List Char) : Prop where
  text_eq : cursor.source.text.toList = before ++ cursor.rest
  offset_eq : cursor.offset = byteLength before
  line_eq : cursor.line = 1 + lineFeeds before
  column_eq : cursor.column = columnAfter 1 before

lemma standsBehind_start (source : Source) : (start source).StandsBehind [] :=
  ⟨rfl, rfl, rfl, rfl⟩

namespace StandsBehind

variable {cursor : Cursor} {before piece left : List Char}

lemma past (h : cursor.StandsBehind before) (hrest : cursor.rest = piece ++ left) :
    (cursor.past piece).StandsBehind (before ++ piece) where
  text_eq := by
    rw [past_source, past_rest hrest, h.text_eq, hrest, List.append_assoc]
  offset_eq := by
    rw [past_offset, h.offset_eq, byteLength_append]
  line_eq := by
    rw [lineFeeds_append, Cursor.past, h.line_eq, Nat.add_assoc]
  column_eq := by
    rw [columnAfter_append, Cursor.past, h.column_eq]

lemma marked (h : cursor.StandsBehind before) (disposition : Disposition) :
    (cursor.marked disposition).StandsBehind before :=
  ⟨h.text_eq, h.offset_eq, h.line_eq, h.column_eq⟩

lemma unmarked (h : cursor.StandsBehind before) : cursor.unmarked.StandsBehind before :=
  ⟨h.text_eq, h.offset_eq, h.line_eq, h.column_eq⟩

/-- The offset and what is left make up the whole length. -/
lemma offset_add_byteLength_rest (h : cursor.StandsBehind before) :
    cursor.offset + byteLength cursor.rest = cursor.source.length := by
  rw [Source.length, h.text_eq, byteLength_append, h.offset_eq]

/-- No line in a text is further down than the text has bytes. -/
lemma line_add_le (h : cursor.StandsBehind before) (hrest : cursor.rest = piece ++ left) :
    cursor.line + lineFeeds piece ≤ 1 + cursor.source.length := by
  have htotal := h.offset_add_byteLength_rest
  rw [hrest, byteLength_append, h.offset_eq] at htotal
  have hbefore := (lineFeeds_le_length before).trans (length_le_byteLength before)
  have hpiece := (lineFeeds_le_length piece).trans (length_le_byteLength piece)
  rw [h.line_eq]
  omega

/-- In a text that is not too long, the line has not got too large. -/
lemma line_le (h : cursor.StandsBehind before) (hlength : cursor.source.length < maxIndex) :
    cursor.line ≤ maxIndex := by
  have hline := h.line_add_le (List.nil_append cursor.rest).symm
  rw [lineFeeds_nil] at hline
  omega

/-- In a text that is not too long, every move has room. -/
theorem hasRoomFor (h : cursor.StandsBehind before) (hlength : cursor.source.length < maxIndex)
    (hrest : cursor.rest = piece ++ left) : cursor.HasRoomFor piece := by
  unfold HasRoomFor
  split_ifs with hfeeds
  · have htotal := h.offset_add_byteLength_rest
    rw [hrest, byteLength_append, h.offset_eq] at htotal
    have hbefore := length_le_byteLength before
    have hpiece := length_le_byteLength piece
    have hcolumn := columnAfter_one_le before
    rw [h.column_eq]
    omega
  · have hline := h.line_add_le hrest
    omega

end StandsBehind

end Cursor

end GrammarScan
