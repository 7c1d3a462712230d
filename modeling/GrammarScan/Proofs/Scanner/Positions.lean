import GrammarScan.Proofs.Scanner.Invariant

/-!
# Lines and columns are exact

The line and the column of a scanner are kept up to date lexeme by lexeme.  In every state that a
scan reaches they are nevertheless those of its offset (`Text.IsPosition`), which the text alone
determines (`IsPosition.unique`), and so are those of a token and the line of a failure.

`requests_isPosition` is the main statement.  It has no condition on the length of the text: a
number that gets too large ends the scan, and never makes a position wrong.
-/

namespace GrammarScan

/-- The line and the column of an offset: the line counts the line feeds before the offset, and the
column the characters behind the last of them. -/
def Text.IsPosition (text : List Char) (offset line column : Nat) : Prop :=
  ∃ before after, text = before ++ after ∧ Text.byteLength before = offset ∧
    line = 1 + before.count '\n' ∧ column = 1 + (before.rtakeWhile (· ≠ '\n')).length

/-- An offset has at most one line and one column. -/
lemma Text.IsPosition.unique {text : List Char} {offset line column line' column' : Nat}
    (h : IsPosition text offset line column) (h' : IsPosition text offset line' column') :
    line = line' ∧ column = column' := by
  obtain ⟨before, after, htext, hoffset, rfl, rfl⟩ := h
  obtain ⟨before', after', htext', hoffset', rfl, rfl⟩ := h'
  have hsplit := splitAtByte?_eq_some_iff.2 ⟨htext, hoffset⟩
  have hsplit' := splitAtByte?_eq_some_iff.2 ⟨htext', hoffset'⟩
  obtain ⟨rfl, rfl⟩ := Prod.mk.inj (Option.some.inj (hsplit.symm.trans hsplit'))
  exact ⟨rfl, rfl⟩

lemma Cursor.StandsBehind.isPosition {cursor : Cursor} {before : List Char}
    (h : cursor.StandsBehind before) :
    Text.IsPosition cursor.source.text.toList cursor.offset cursor.line cursor.column :=
  ⟨before, cursor.rest, h.text_eq, h.offset_eq.symm, h.line_eq, by
    rw [h.column_eq, Text.columnAfter_one]⟩

namespace Scanner

namespace HasRead

variable {scanner : Scanner} {source : Source} {settings : Settings} {before : List Char}

lemma isPosition (h : scanner.HasRead source settings before) :
    Text.IsPosition source.text.toList scanner.cursor.offset scanner.cursor.line
      scanner.cursor.column := by
  rw [← h.source_eq]
  exact h.standsBehind.isPosition

/-- The position of a token is that of the cursor in front of its lexeme. -/
lemma token_isPosition (h : scanner.HasRead source settings before) (journal : Journal)
    {token : Token} (htoken : (scanner.next journal).result = .token token) :
    Text.IsPosition source.text.toList token.span.start token.line token.column := by
  have hanswers := h.next_answers journal
  generalize scanner.next journal = progress at hanswers htoken
  cases hanswers with
  | token passed cursor lexeme after later hpassed hstands hsource hfront hphase hread =>
    obtain rfl := Answer.token.inj htoken
    rw [← hsource]
    exact hstands.isPosition
  | _ => simp at htoken

/-- A failure leaves the scanner where it is, now and later. -/
lemma failure_isPosition (h : scanner.HasRead source settings before) (journal : Journal)
    {failure : Failure} (hfailure : (scanner.next journal).result = .stop (.failed failure))
    (count : Nat) :
    let later := (scanner.next journal).scanner.requests (scanner.next journal).journal count
    Text.IsPosition source.text.toList later.scanner.cursor.offset failure.line
      later.scanner.cursor.column := by
  have hanswers := h.next_answers journal
  generalize scanner.next journal = progress at hanswers hfailure ⊢
  cases hanswers with
  | failed passed _ after later hpassed hphase hread hline =>
    obtain rfl := Ending.failed.inj (Answer.stop.inj hfailure)
    have hover : after.phase ≠ .scanning := by simp [hphase]
    rw [requests_of_phase_ne hover, hline]
    exact hread.isPosition
  | _ => simp at hfailure

lemma requests_token_isPosition (h : scanner.HasRead source settings before) (journal : Journal)
    (count : Nat) {token : Token} (htoken : .token token ∈ (scanner.requests journal count).result) :
    Text.IsPosition source.text.toList token.span.start token.line token.column := by
  induction count generalizing scanner before journal with
  | zero => simp at htoken
  | succ count ih =>
    rw [requests_succ_result, List.mem_cons] at htoken
    rcases htoken with hfirst | hlater
    · exact h.token_isPosition journal hfirst.symm
    · obtain ⟨piece, hread⟩ := h.next journal
      exact ih hread _ hlater

/-- The requests behind a failure change nothing, so its line stays that of the scanner. -/
lemma requests_failure_isPosition (h : scanner.HasRead source settings before) (journal : Journal)
    (count : Nat) {failure : Failure}
    (hfailure : .stop (.failed failure) ∈ (scanner.requests journal count).result) :
    Text.IsPosition source.text.toList (scanner.requests journal count).scanner.cursor.offset
      failure.line (scanner.requests journal count).scanner.cursor.column := by
  induction count generalizing scanner before journal with
  | zero => simp at hfailure
  | succ count ih =>
    rw [requests_succ_result, List.mem_cons] at hfailure
    rw [requests_succ_scanner]
    rcases hfailure with hfirst | hlater
    · exact h.failure_isPosition journal hfirst.symm count
    · obtain ⟨piece, hread⟩ := h.next journal
      exact ih hread _ hlater

end HasRead

end Scanner

/-- After every number of requests, the line and the column of the scanner are those of its offset,
and so are those of each token that was yielded and the line of a failure. -/
theorem requests_isPosition (source : Source) (settings : Settings) (journal : Journal)
    (count : Nat) :
    let begun := Scanner.start source settings journal
    let run := begun.1.requests begun.2 count
    let text := source.text.toList
    let cursor := run.scanner.cursor
    Text.IsPosition text cursor.offset cursor.line cursor.column ∧
      (∀ token, .token token ∈ run.result →
        Text.IsPosition text token.span.start token.line token.column) ∧
      ∀ failure, .stop (.failed failure) ∈ run.result →
        Text.IsPosition text cursor.offset failure.line cursor.column := by
  intro begun run text cursor
  have hstart : begun.1.HasRead source settings [] :=
    Scanner.hasRead_start source settings journal
  refine ⟨?_, ?_, ?_⟩
  · obtain ⟨piece, hread⟩ := hstart.requests begun.2 count
    exact hread.isPosition
  · intro token htoken
    exact hstart.requests_token_isPosition begun.2 count htoken
  · intro failure hfailure
    exact hstart.requests_failure_isPosition begun.2 count hfailure

end GrammarScan
