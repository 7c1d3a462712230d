import GrammarScan.Scanner.InPlace
import GrammarScan.Proofs.Construct.Attempts
import GrammarScan.Proofs.Grammar.Extents

/-!
# Scanning in place comes to the same

Whether a construct is read character by character or measured in the buffer makes no difference to
an attempt, at any cursor: `Construct.attemptInPlace_eq` says that the two are one function.  So an
attempt in place finds no fault but those of an attempt, all of which are numbers too large to keep.
A preview in place finds none at all and shows the same (`Cursor.previewInPlace_eq`).
-/

namespace GrammarScan

open Text

namespace Lexeme

/-- An extent leads to the diagnostics of its lexeme. -/
lemma diagnostics_extent (lexeme : Lexeme) (file : FileName) (line : Nat) :
    lexeme.extent.diagnostics file line = lexeme.diagnostics file line := by
  cases lexeme with
  | nonTerminal name => exact (nameDiagnostics_eq_map file line 0 name).symm
  | _ => rfl

lemma isEmpty_defects (lexeme : Lexeme) : lexeme.defects.isEmpty = lexeme.wellFormed := by
  cases lexeme with
  | nonTerminal name => exact isEmpty_nameDefects 0 name
  | _ => rfl

/-- An extent leads a cursor over its lexeme. -/
lemma move_extent (lexeme : Lexeme) (cursor : Cursor) :
    lexeme.extent.move cursor = cursor.move lexeme.spelling := by
  have hcrossing : lexeme.extent.crossing = Text.crossing lexeme.spelling := rfl
  unfold Extent.move Cursor.move
  rw [hcrossing]
  unfold Text.crossing
  by_cases hfeeds : lineFeeds lexeme.spelling = 0
  · rw [if_pos hfeeds, if_pos hfeeds]
    rfl
  · obtain ⟨-, lastLine, -, -, hcolumn⟩ := exists_lastLine hfeeds
    rw [if_neg hfeeds, if_neg hfeeds, hcolumn, hcolumn]
    rfl

/-- Without its delimiters, a lexeme is what they enclose. -/
lemma charsInside_spelling (lexeme : Lexeme) :
    charsInside lexeme.spelling (byteLength lexeme.opener) (byteLength lexeme.closer) =
      .ok lexeme.payload := by
  rw [lexeme.spelling_eq]
  exact charsInside_append _ _ _

/-- Where a lexeme comes next, its extent leads to its token. -/
lemma accept_extent {lexeme : Lexeme} {cursor : Cursor} {left : List Char}
    (hrest : cursor.rest = lexeme.spelling ++ left) (construct : Construct) :
    lexeme.extent.accept construct.disposition cursor = construct.accept lexeme cursor := by
  have hinside := lexeme.charsInside_spelling
  unfold Extent.accept Construct.accept
  rw [move_extent, Cursor.move_of_rest_eq hrest]
  by_cases hroom : cursor.HasRoomFor lexeme.spelling
  · rw [if_pos hroom]
    show (charsInside lexeme.spelling (byteLength lexeme.opener) (byteLength lexeme.closer) >>= _) =
      _
    rw [hinside]
    show Except.ok (Outcome.accepted _ ⟨_, _, _, _, _, lexeme.defects.isEmpty⟩ _) = _
    rw [isEmpty_defects]
    rfl
  · rw [if_neg hroom]
    rfl

end Lexeme

namespace Construct

variable {construct : Construct} {cursor : Cursor}

/-- A lexeme is read only where its construct can start. -/
lemma read?_eq_none_of_not_startsWith {cs : List Char}
    (h : ¬ cs.head?.any construct.startsWith) : construct.read? cs = none := by
  rw [read?_eq_none_iff]
  rintro lexeme rfl hfront
  cases cs with
  | nil =>
    obtain ⟨-, rest, htext, -⟩ := id hfront
    exact hfront.spelling_ne_nil (List.append_eq_nil_iff.1 htext.symm).1
  | cons c cs => exact h hfront.startsWith

/-- At a cursor where a construct can start, measuring it comes to the same as reading it. -/
lemma extent?_rest_eq (h : cursor.firstChar?.any construct.startsWith) :
    construct.extent? cursor.rest = .ok ((construct.read? cursor.rest).map Lexeme.extent) := by
  unfold Cursor.firstChar? at h
  cases hrest : cursor.rest with
  | nil =>
    rw [hrest] at h
    cases h
  | cons c cs =>
    rw [hrest] at h
    exact extent?_eq h cs

/-- An attempt in place is an attempt. -/
theorem attemptInPlace_eq : attemptInPlace = attempt := by
  funext construct cursor report
  unfold attemptInPlace
  by_cases hstart : cursor.firstChar?.any construct.startsWith
  · rw [if_pos hstart, extent?_rest_eq hstart]
    cases hread : construct.read? cursor.rest with
    | none =>
      rw [attempt_of_read?_eq_none hread]
      rfl
    | some lexeme =>
      obtain ⟨-, -, left, hrest, -⟩ := read?_eq_some_iff.1 hread
      unfold attempt
      rw [hread]
      dsimp only [Option.map_some]
      rw [Lexeme.diagnostics_extent, Lexeme.accept_extent hrest]
  · rw [if_neg hstart, attempt_of_read?_eq_none (read?_eq_none_of_not_startsWith hstart)]

end Construct

/-! ## Previews -/

/-- Before a character of a text stand as many bytes as its offset says. -/
lemma Text.getElem?_withOffsets (start limit : Nat) (cs : List Char) :
    (withOffsets start cs)[limit]? =
      (cs.drop limit).head?.map fun c => (start + byteLength (cs.take limit), c) := by
  induction cs generalizing start limit with
  | nil => simp [withOffsets]
  | cons c cs ih =>
    cases limit with
    | zero => rfl
    | succ limit =>
      rw [withOffsets, List.getElem?_cons_succ, ih, List.drop_succ_cons, List.take_succ_cons,
        byteLength_cons]
      simp only [Nat.add_assoc]

/-- A preview in place is a preview. -/
theorem Cursor.previewInPlace_eq (cursor : Cursor) (limit : Nat) :
    cursor.previewInPlace limit = .ok (cursor.preview limit) := by
  have hsplit : cursor.rest.take limit ++ cursor.rest.drop limit = cursor.rest :=
    List.take_append_drop limit cursor.rest
  unfold previewInPlace preview
  rw [getElem?_withOffsets, Nat.zero_add]
  cases hdrop : cursor.rest.drop limit with
  | nil =>
    rw [hdrop, List.append_nil] at hsplit
    rw [hsplit]
    rfl
  | cons c left =>
    have hcut := cut_append (cursor.rest.take limit) (cursor.rest.drop limit)
    rw [hsplit] at hcut
    show (cut cursor.rest (byteLength (cursor.rest.take limit)) >>= _) = _
    rw [hcut]
    rfl

end GrammarScan
