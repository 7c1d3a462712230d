import GrammarScan.Proofs.Grammar.Escapes
import GrammarScan.Proofs.Scanner.InPlace

/-!
# Where comments between delimiters close

Behind its opening delimiter, a comment is read from the left: a backslash is skipped together with the
character behind it, the first closing delimiter met outside of such a pair ends the comment, and every
other character is skipped.  `skimComment?` reads in this way, one character after the other.  It stops at the
first delimiter that is not escaped, wherever that stands (`Lexeme.skimComment?_eq_some_iff`).

A scan in place does not look for the delimiter in this way.  It goes from one slash, backslash or line
feed to the next, and looks back from a slash for the asterisk (`Lexeme.Search.comment`).
`Construct.attemptInPlace_blockComment` says that the attempt at a comment nevertheless comes to what the
reading from the left comes to, at every cursor: it refuses where the reading fails, and otherwise takes
what the reading has skipped for the text of its token and stops right behind the delimiter.
-/

namespace GrammarScan

/-- Reads a comment from the left, behind its opening delimiter, and answers with what it has skipped
until the closing delimiter and with what is left behind that.  It fails at the end of the text. -/
def Lexeme.skimComment? : List Char → Option (List Char × List Char)
  | [] => none
  | ['\\'] => none
  | '\\' :: c :: text =>
    (skimComment? text).map fun parts => ('\\' :: c :: parts.1, parts.2)
  | '*' :: '/' :: left => some ([], left)
  | c :: text => (skimComment? text).map fun parts => (c :: parts.1, parts.2)

namespace Lexeme

variable {text skipped left : List Char}

/-- The closing delimiter stands between what is skipped and what is left. -/
lemma eq_append_of_skimComment? (h : skimComment? text = some (skipped, left)) :
    text = skipped ++ '*' :: '/' :: left := by
  fun_induction skimComment? text generalizing skipped left with
  | case1 => simp at h
  | case2 => simp at h
  | case3 c text ih =>
    obtain ⟨⟨later, rest⟩, hlater, hparts⟩ := Option.map_eq_some_iff.1 h
    obtain ⟨rfl, rfl⟩ := Prod.mk.inj hparts
    rw [ih hlater]
    rfl
  | case4 rest =>
    obtain ⟨rfl, rfl⟩ := Prod.mk.inj (Option.some.inj h)
    rfl
  | case5 c text hlast hescape hclose ih =>
    obtain ⟨⟨later, rest⟩, hlater, hparts⟩ := Option.map_eq_some_iff.1 h
    obtain ⟨rfl, rfl⟩ := Prod.mk.inj hparts
    rw [ih hlater]
    rfl

/-- What is skipped is the body of the comment. -/
theorem map_fst_skimComment? (text : List Char) :
    (skimComment? text).map Prod.fst = commentBody? text := by
  fun_induction skimComment? text with
  | case1 => rfl
  | case2 => rfl
  | case3 c text ih =>
    rw [commentBody?, ← ih, Option.map_map, Option.map_map]
    rfl
  | case4 rest => rfl
  | case5 c text hlast hescape hclose ih =>
    rw [commentBody?.eq_3 c text hescape hclose, ← ih, Option.map_map, Option.map_map]
    rfl

/-- What is skipped ends in front of the first closing delimiter that is not escaped. -/
theorem skimComment?_eq_some_iff :
    skimComment? text = some (skipped, left) ↔
      text = skipped ++ '*' :: '/' :: left ∧ ClosesAt skipped text ∧
        ∀ before, ClosesAt before text → skipped.length ≤ before.length := by
  rw [← closesAfter_iff, ← commentBody?_eq_some_iff, ← map_fst_skimComment?]
  constructor
  · intro h
    refine ⟨eq_append_of_skimComment? h, ?_⟩
    rw [h]
    rfl
  · rintro ⟨htext, hbody⟩
    obtain ⟨⟨_, rest⟩, hskim, rfl⟩ := Option.map_eq_some_iff.1 hbody
    -- what is left stands behind the same delimiter
    have hsame := List.append_cancel_left ((eq_append_of_skimComment? hskim).symm.trans htext)
    simp only [List.cons.injEq, true_and] at hsame
    rw [hskim, hsame]

end Lexeme

/-- A comment between delimiters comes next: behind the opening one, the reading from the left skips
`skipped` and leaves `left`. -/
def Cursor.ShowsComment (cursor : Cursor) (skipped left : List Char) : Prop :=
  ∃ text, cursor.rest = '/' :: '*' :: text ∧ Lexeme.skimComment? text = some (skipped, left)

namespace Cursor.ShowsComment

variable {cursor : Cursor} {skipped left : List Char}

lemma rest_eq (h : cursor.ShowsComment skipped left) :
    cursor.rest = (Lexeme.blockComment skipped).spelling ++ left := by
  obtain ⟨text, hrest, hskim⟩ := h
  rw [hrest, Lexeme.eq_append_of_skimComment? hskim]
  simp [Lexeme.spelling]

lemma read?_eq (h : cursor.ShowsComment skipped left) :
    Construct.blockComment.read? cursor.rest = some (.blockComment skipped) := by
  obtain ⟨text, hrest, hskim⟩ := h
  have hbody : Lexeme.commentBody? text = some skipped := by
    rw [← Lexeme.map_fst_skimComment?, hskim]
    rfl
  rw [hrest]
  show (Lexeme.commentBody? text).map Lexeme.blockComment = _
  rw [hbody]
  rfl

end Cursor.ShowsComment

lemma Cursor.showsComment_iff {cursor : Cursor} {skipped left : List Char} :
    cursor.ShowsComment skipped left ↔
      cursor.rest = '/' :: '*' :: (skipped ++ '*' :: '/' :: left) ∧
        Lexeme.ClosesAt skipped (skipped ++ '*' :: '/' :: left) ∧
        ∀ before, Lexeme.ClosesAt before (skipped ++ '*' :: '/' :: left) →
          skipped.length ≤ before.length := by
  constructor
  · rintro ⟨text, hrest, hskim⟩
    obtain ⟨rfl, hfirst⟩ := Lexeme.skimComment?_eq_some_iff.1 hskim
    exact ⟨hrest, hfirst⟩
  · rintro ⟨hrest, hfirst⟩
    exact ⟨_, hrest, Lexeme.skimComment?_eq_some_iff.2 ⟨rfl, hfirst⟩⟩

lemma Cursor.exists_showsComment {cursor : Cursor} {lexeme : Lexeme}
    (h : Construct.blockComment.read? cursor.rest = some lexeme) :
    ∃ skipped left, cursor.ShowsComment skipped left := by
  change Lexeme.readBlockComment? cursor.rest = some lexeme at h
  unfold Lexeme.readBlockComment? at h
  split at h
  · rename_i text hrest
    obtain ⟨body, hbody, rfl⟩ := Option.map_eq_some_iff.1 h
    rw [← Lexeme.map_fst_skimComment?] at hbody
    obtain ⟨⟨skipped, left⟩, hskim, -⟩ := Option.map_eq_some_iff.1 hbody
    exact ⟨skipped, left, text, hrest, hskim⟩
  · simp at h

namespace Construct

variable {cursor : Cursor} {skipped left : List Char}

/-- Where no comment comes next, the attempt at one refuses. -/
lemma attempt_of_not_showsComment (h : ¬ ∃ skipped left, cursor.ShowsComment skipped left)
    (report : Report) : blockComment.attempt cursor report = (.ok .refused, report) := by
  refine attempt_of_read?_eq_none ?_ report
  rw [Option.eq_none_iff_forall_ne_some]
  intro lexeme hread
  exact h (Cursor.exists_showsComment hread)

/-- Where a comment comes next, the attempt at one moves behind it if there is room, and reports nothing
in any case. -/
lemma attempt_of_showsComment (h : cursor.ShowsComment skipped left) (report : Report) :
    blockComment.attempt cursor report =
      (if cursor.HasRoomFor (Lexeme.blockComment skipped).spelling then
        .ok (.accepted .elide (cursor.tokenOf (.blockComment skipped))
          (cursor.past (Lexeme.blockComment skipped).spelling))
        else .error .overflow, report) := by
  have hfront : (Lexeme.blockComment skipped).IsAtFrontOf cursor.rest :=
    (read?_eq_some_iff.1 h.read?_eq).2
  exact attempt_of_diagnostics_eq_nil hfront rfl report

end Construct

/-- The attempt at a comment between delimiters, in place or not, refuses unless the reading from the left
finds the closing delimiter, which is the first one that is not escaped.  If it does, the attempt moves
right behind that delimiter, unless a number gets too large there: what the reading has skipped is the
text of the token, every line feed of the comment counts as a line, and the column is counted from the
last of them or else goes on.  In a text that is not too long, no number gets too large. -/
theorem Construct.attemptInPlace_blockComment (cursor : Cursor) (report : Report) :
    let attempted := Construct.blockComment.attemptInPlace cursor report
    attempted = Construct.blockComment.attempt cursor report ∧
      (attempted = (.ok .refused, report) ↔ ¬ ∃ skipped left, cursor.ShowsComment skipped left) ∧
      (∀ skipped left, cursor.ShowsComment skipped left ↔
        cursor.rest = '/' :: '*' :: (skipped ++ '*' :: '/' :: left) ∧
          Lexeme.ClosesAt skipped (skipped ++ '*' :: '/' :: left) ∧
          ∀ before, Lexeme.ClosesAt before (skipped ++ '*' :: '/' :: left) →
            skipped.length ≤ before.length) ∧
      (∀ skipped left, cursor.ShowsComment skipped left →
        let lexeme := '/' :: '*' :: (skipped ++ ['*', '/'])
        let next := { cursor with
          rest := left
          offset := cursor.offset + Text.byteLength lexeme
          line := cursor.line + lexeme.count '\n'
          column :=
            if '\n' ∈ lexeme then 1 + (lexeme.rtakeWhile (· ≠ '\n')).length
            else cursor.column + lexeme.length }
        let token : Token := ⟨.blockComment, String.ofList skipped, ⟨cursor.offset, next.offset⟩,
          cursor.line, cursor.column, true⟩
        cursor.rest = lexeme ++ left ∧
          attempted =
            (if cursor.HasRoomFor lexeme then .ok (.accepted .elide token next)
              else .error .overflow, report)) ∧
      ∀ before, cursor.StandsBehind before → cursor.source.length < maxIndex →
        ((∃ disposition token next, attempted.1 = .ok (.accepted disposition token next)) ↔
          ∃ skipped left, cursor.ShowsComment skipped left) := by
  intro attempted
  have hattempt : attempted = Construct.blockComment.attempt cursor report := by
    show Construct.attemptInPlace _ _ _ = _
    rw [Construct.attemptInPlace_eq]
  refine ⟨hattempt, ⟨?_, ?_⟩, fun _ _ => Cursor.showsComment_iff, ?_, ?_⟩
  · rintro heq ⟨skipped, left, hshows⟩
    rw [hattempt, Construct.attempt_of_showsComment hshows] at heq
    split_ifs at heq <;> simp at heq
  · intro hnone
    rw [hattempt]
    exact Construct.attempt_of_not_showsComment hnone report
  · intro skipped left hshows lexeme next token
    refine ⟨hshows.rest_eq, ?_⟩
    have hnext : cursor.past lexeme = next := Cursor.past_eq hshows.rest_eq
    rw [hattempt]
    refine (Construct.attempt_of_showsComment hshows report).trans ?_
    show (if cursor.HasRoomFor lexeme then Except.ok (Outcome.accepted _ _ (cursor.past lexeme))
      else _, report) = _
    rw [hnext]
    rfl
  · intro before hstands hlength
    rw [hattempt]
    constructor
    · rintro ⟨disposition, token, next, haccepted⟩
      by_contra hnone
      rw [Construct.attempt_of_not_showsComment hnone] at haccepted
      simp at haccepted
    · rintro ⟨skipped, left, hshows⟩
      have hroom := hstands.hasRoomFor hlength hshows.rest_eq
      rw [Construct.attempt_of_showsComment hshows, if_pos hroom]
      exact ⟨_, _, _, rfl⟩

/-- A comment that opens with a slash, takes a wide character, an asterisk and a line feed out of play, and
closes behind two asterisks. -/
theorem Construct.attemptInPlace_blockComment_escapes :
    let source : Source := ⟨⟨"notes.ebnf"⟩, "/*/ \\é \\*/\\\n**/<x>"⟩
    let cursor := Cursor.start source
    let skipped := "/ \\é \\*/\\\n*".toList
    let attempted := Construct.blockComment.attemptInPlace cursor Report.empty
    cursor.ShowsComment skipped "<x>".toList ∧ cursor.StandsBehind [] ∧
      source.length < maxIndex ∧
      (∃ disposition token next, attempted.1 = .ok (.accepted disposition token next)) ∧
      attempted =
        (.ok (.accepted .elide ⟨.blockComment, String.ofList skipped, ⟨0, 16⟩, 1, 1, true⟩
          { cursor with rest := "<x>".toList, offset := 16, line := 2, column := 4 }),
          Report.empty) := by
  intro source cursor skipped attempted
  have hshows : cursor.ShowsComment skipped "<x>".toList :=
    ⟨"/ \\é \\*/\\\n**/<x>".toList, by decide, by decide⟩
  have hstands : cursor.StandsBehind [] := Cursor.standsBehind_start source
  have hlength : source.length < maxIndex := by decide
  obtain ⟨-, -, -, htaken, haccepts⟩ :=
    Construct.attemptInPlace_blockComment cursor Report.empty
  refine ⟨hshows, hstands, hlength, (haccepts [] hstands hlength).2 ⟨_, _, hshows⟩, ?_⟩
  obtain ⟨-, hattempted⟩ := htaken skipped "<x>".toList hshows
  refine hattempted.trans ?_
  rw [if_pos (by decide)]
  rfl

end GrammarScan
