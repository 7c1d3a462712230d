import GrammarScan.Fault
import GrammarScan.Source
import GrammarScan.Text.Lines

/-!
# Cursors

A cursor stands in a source: it holds what is left to read and the offset, line and column reached.
It moves only by `advance`, over bytes without a line feed, and by `advanceLines`, whose caller
declares the line feeds crossed and the column reached. `move` picks between the two for a piece of
text that comes next. Whatever moves a cursor takes its bytes off the front of what is left
(`rest_of_advance`, `rest_of_advanceLines`), so reading a piece of text leaves less
(`length_rest_lt_of_move`).
-/

namespace GrammarScan

open Text

/-- What becomes of a lexeme that was read. -/
inductive Disposition where
  /-- It is yielded as a token. -/
  | yield
  /-- It is passed over unless trivia is wanted. -/
  | elide
  deriving DecidableEq, Repr

/-- A place in a source. -/
structure Cursor where
  source : Source
  /-- What is left to read. -/
  rest : List Char
  /-- The number of bytes read. -/
  offset : Nat
  line : Nat
  column : Nat
  /-- What becomes of the lexeme just read, once a construct has accepted one. -/
  mark : Option Disposition
  deriving DecidableEq, Repr

namespace Cursor

/-- The cursor at the start of a source. -/
def start (source : Source) : Cursor :=
  ⟨source, source.text.toList, 0, 1, 1, none⟩

/-- The file that the source came from. -/
def file (cursor : Cursor) : FileName :=
  cursor.source.file

/-- Whether nothing is left to read. -/
def atEnd (cursor : Cursor) : Bool :=
  cursor.rest.isEmpty

/-- The next character. -/
def firstChar? (cursor : Cursor) : Option Char :=
  cursor.rest.head?

/-- The first byte of the next character. -/
def firstByte? (cursor : Cursor) : Option UInt8 :=
  cursor.firstChar?.bind fun c => (String.utf8EncodeChar c).head?

/-- Notes that a construct has accepted a lexeme. -/
def marked (cursor : Cursor) (disposition : Disposition) : Cursor :=
  { cursor with mark := some disposition }

/-- Forgets what was noted about the last lexeme. -/
def unmarked (cursor : Cursor) : Cursor :=
  { cursor with mark := none }

/-- At most `limit` characters of what is left, and whether there are more. -/
def preview (cursor : Cursor) (limit : Nat) : String × Bool :=
  (String.ofList (cursor.rest.take limit), !(cursor.rest.drop limit).isEmpty)

/-- The next `count` bytes and what follows them. -/
def split (cursor : Cursor) (count : Nat) : Except Fault (List Char × List Char) :=
  match splitAtByte? count cursor.rest with
  | some parts => .ok parts
  | none =>
    if count ≤ byteLength cursor.rest then .error .splitCharacter
    else .error (.pastEnd count (byteLength cursor.rest))

/-- Reads the next `count` bytes, which must not hold a line feed. -/
def advance (cursor : Cursor) (count : Nat) : Except Fault (List Char × Cursor) :=
  match cursor.split count with
  | .error fault => .error fault
  | .ok (taken, left) =>
    if '\n' ∈ taken then .error (.lineBreakCrossed count)
    else if maxIndex < cursor.column + taken.length then .error .overflow
    else
      .ok (taken, { cursor with
        rest := left
        offset := cursor.offset + count
        column := cursor.column + taken.length })

/-- Reads the next `count` bytes, which must hold `feeds` line feeds, and goes to a given column. -/
def advanceLines (cursor : Cursor) (count feeds column : Nat) :
    Except Fault (List Char × Cursor) :=
  match cursor.split count with
  | .error fault => .error fault
  | .ok (taken, left) =>
    if lineFeeds taken ≠ feeds then .error .lineCountMismatch
    else if maxIndex < cursor.line + feeds then .error .overflow
    else
      .ok (taken, { cursor with
        rest := left
        offset := cursor.offset + count
        line := cursor.line + feeds
        column })

/-- Reads a piece of text that comes next. -/
def move (cursor : Cursor) (piece : List Char) : Except Fault (List Char × Cursor) :=
  if lineFeeds piece = 0 then cursor.advance (byteLength piece)
  else cursor.advanceLines (byteLength piece) (lineFeeds piece) (columnAfter cursor.column piece)

theorem split_eq_ok_iff {cursor : Cursor} {count : Nat} {taken left : List Char} :
    cursor.split count = .ok (taken, left) ↔
      cursor.rest = taken ++ left ∧ byteLength taken = count := by
  rw [← splitAtByte?_eq_some_iff]
  unfold split
  split
  · simp_all
  · split <;> simp_all

theorem rest_of_advance {cursor next : Cursor} {count : Nat} {taken : List Char}
    (h : cursor.advance count = .ok (taken, next)) :
    cursor.rest = taken ++ next.rest ∧ byteLength taken = count := by
  unfold advance at h
  split at h
  · simp at h
  · rename_i front left hsplit
    split at h
    · simp at h
    · split at h
      · simp at h
      · simp only [Except.ok.injEq, Prod.mk.injEq] at h
        obtain ⟨rfl, rfl⟩ := h
        exact split_eq_ok_iff.1 hsplit

theorem rest_of_advanceLines {cursor next : Cursor} {count feeds column : Nat}
    {taken : List Char} (h : cursor.advanceLines count feeds column = .ok (taken, next)) :
    cursor.rest = taken ++ next.rest ∧ byteLength taken = count := by
  unfold advanceLines at h
  split at h
  · simp at h
  · rename_i front left hsplit
    split at h
    · simp at h
    · split at h
      · simp at h
      · simp only [Except.ok.injEq, Prod.mk.injEq] at h
        obtain ⟨rfl, rfl⟩ := h
        exact split_eq_ok_iff.1 hsplit

theorem rest_of_move {cursor next : Cursor} {piece taken : List Char}
    (h : cursor.move piece = .ok (taken, next)) :
    cursor.rest = taken ++ next.rest ∧ byteLength taken = byteLength piece := by
  unfold move at h
  split at h
  · exact rest_of_advance h
  · exact rest_of_advanceLines h

/-- Reading a piece of text leaves less to read. -/
theorem length_rest_lt_of_move {cursor next : Cursor} {piece taken : List Char}
    (hpiece : piece ≠ []) (h : cursor.move piece = .ok (taken, next)) :
    next.rest.length < cursor.rest.length := by
  obtain ⟨hrest, hbytes⟩ := rest_of_move h
  cases taken with
  | nil =>
    have := length_le_byteLength piece
    have := List.length_pos_iff.2 hpiece
    simp only [byteLength_nil] at hbytes
    omega
  | cons c cs =>
    rw [hrest, List.length_append, List.length_cons]
    omega

end Cursor

end GrammarScan
