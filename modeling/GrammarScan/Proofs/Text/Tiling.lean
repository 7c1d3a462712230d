import GrammarScan.Text.Bytes
import GrammarScan.Token
import Mathlib.Data.List.Chain
import Mathlib.Tactic.Lemma

/-!
# Spans that tile a text

`Text.Tiles` says what it means for a list of spans to cover a text up to a byte offset: no span is
empty, none begins or ends inside a character, each begins where the one before it ends, and their
slices put together are the text up to the offset.

The spans of consecutive pieces of a text have this property (`tiles_spansFrom`).
-/

namespace GrammarScan

namespace Text

/-- Whether an offset lies between characters of a text, or at one of its ends. -/
def IsBoundary (text : List Char) (offset : Nat) : Prop :=
  ∃ before after, text = before ++ after ∧ byteLength before = offset

/-- The piece of a text that a span covers; nothing when the span goes beyond the text or cuts a
character in two. -/
def slice? (text : List Char) (span : Span) : Option (List Char) := do
  let (_, rest) ← splitAtByte? span.start text
  let (piece, _) ← splitAtByte? (span.stop - span.start) rest
  return piece

/-- The spans cover the text without gaps from its start to the offset `stop`. -/
structure Tiles (text : List Char) (spans : List Span) (stop : Nat) : Prop where
  nonempty : ∀ span ∈ spans, span.start < span.stop
  boundaries : ∀ span ∈ spans, IsBoundary text span.start ∧ IsBoundary text span.stop
  head_start : ∀ span ∈ spans.head?, span.start = 0
  contiguous : spans.IsChain fun span later => later.start = span.stop
  last_stop : (spans.getLast?.map Span.stop).getD 0 = stop
  slices : ∃ pieces, spans.mapM (slice? text) = some pieces ∧
    slice? text ⟨0, stop⟩ = some pieces.flatten

/-- The spans of pieces that follow each other from an offset on. -/
def spansFrom (start : Nat) : List (List Char) → List Span
  | [] => []
  | piece :: pieces =>
    ⟨start, start + byteLength piece⟩ :: spansFrom (start + byteLength piece) pieces

lemma slice?_append (before piece after : List Char) :
    slice? (before ++ (piece ++ after)) ⟨byteLength before, byteLength before + byteLength piece⟩ =
      some piece := by
  have hstart := splitAtByte?_append before (piece ++ after)
  have hstop := splitAtByte?_append piece after
  simp [slice?, hstart, hstop]

/-! ## The spans of consecutive pieces -/

lemma exists_of_mem_spansFrom {start : Nat} {pieces : List (List Char)} {span : Span}
    (h : span ∈ spansFrom start pieces) :
    ∃ earlier piece later, pieces = earlier ++ piece :: later ∧
      span.start = start + byteLength earlier.flatten ∧
      span.stop = start + byteLength (earlier.flatten ++ piece) := by
  induction pieces generalizing start with
  | nil => simp [spansFrom] at h
  | cons first pieces ih =>
    rcases List.mem_cons.1 h with rfl | hlater
    · exact ⟨[], first, pieces, rfl, rfl, rfl⟩
    · obtain ⟨earlier, piece, later, rfl, hstart, hstop⟩ := ih hlater
      refine ⟨first :: earlier, piece, later, rfl, ?_, ?_⟩
      · rw [hstart, List.flatten_cons, byteLength_append, Nat.add_assoc]
      · rw [hstop, List.flatten_cons, List.append_assoc, byteLength_append first, Nat.add_assoc]

lemma start_of_mem_head?_spansFrom {start : Nat} {pieces : List (List Char)} :
    ∀ span ∈ (spansFrom start pieces).head?, span.start = start := by
  cases pieces with
  | nil => simp [spansFrom]
  | cons piece pieces => simp [spansFrom]

lemma isChain_spansFrom (start : Nat) (pieces : List (List Char)) :
    (spansFrom start pieces).IsChain fun span later => later.start = span.stop := by
  induction pieces generalizing start with
  | nil => exact List.IsChain.nil
  | cons piece pieces ih => exact List.isChain_cons.2 ⟨start_of_mem_head?_spansFrom, ih _⟩

lemma last_stop_spansFrom (start : Nat) (pieces : List (List Char)) :
    ((spansFrom start pieces).getLast?.map Span.stop).getD start =
      start + byteLength pieces.flatten := by
  induction pieces generalizing start with
  | nil => rfl
  | cons piece pieces ih =>
    have hlast := ih (start + byteLength piece)
    rw [spansFrom, List.flatten_cons, byteLength_append, ← Nat.add_assoc, ← hlast,
      List.getLast?_cons]
    cases (spansFrom (start + byteLength piece) pieces).getLast? with
    | none => rfl
    | some span => rfl

lemma mapM_slice?_spansFrom (before : List Char) (pieces : List (List Char)) (after : List Char) :
    (spansFrom (byteLength before) pieces).mapM (slice? (before ++ (pieces.flatten ++ after))) =
      some pieces := by
  induction pieces generalizing before with
  | nil => rfl
  | cons piece pieces ih =>
    have hpiece := slice?_append before piece (pieces.flatten ++ after)
    have hlater := ih (before ++ piece)
    rw [byteLength_append, List.append_assoc] at hlater
    rw [spansFrom, List.flatten_cons, List.append_assoc, List.mapM_cons, hpiece, hlater]
    rfl

/-- Pieces that are not empty tile what they make up. -/
theorem tiles_spansFrom {pieces : List (List Char)} (hne : ∀ piece ∈ pieces, piece ≠ [])
    (after : List Char) :
    Tiles (pieces.flatten ++ after) (spansFrom 0 pieces) (byteLength pieces.flatten) where
  nonempty := by
    intro span hspan
    obtain ⟨earlier, piece, later, rfl, hstart, hstop⟩ := exists_of_mem_spansFrom hspan
    have hpiece : piece ≠ [] := hne piece (by simp)
    have hpos : 0 < piece.length := List.length_pos_iff.2 hpiece
    have hbytes := length_le_byteLength piece
    rw [byteLength_append] at hstop
    omega
  boundaries := by
    intro span hspan
    obtain ⟨earlier, piece, later, rfl, hstart, hstop⟩ := exists_of_mem_spansFrom hspan
    refine ⟨⟨earlier.flatten, piece ++ (later.flatten ++ after), ?_, ?_⟩,
      ⟨earlier.flatten ++ piece, later.flatten ++ after, ?_, ?_⟩⟩
    · simp
    · omega
    · simp
    · omega
  head_start := start_of_mem_head?_spansFrom
  contiguous := isChain_spansFrom 0 pieces
  last_stop := by
    rw [last_stop_spansFrom, Nat.zero_add]
  slices := by
    refine ⟨pieces, mapM_slice?_spansFrom [] pieces after, ?_⟩
    have hwhole := slice?_append [] pieces.flatten after
    rwa [byteLength_nil, Nat.zero_add] at hwhole

end Text

end GrammarScan
