import GrammarScan.Construct.Session
import GrammarScan.Proofs.Construct.Attempts
import GrammarScan.Text.Buffer

/-!
# Where a session takes its cursor

Whatever is done in a session, its cursor stays in the source: what is left to read is what follows some
text of the source, and the offset and the line are those of that text. This takes no more than the checks
that `Cursor.advance` and `Cursor.advanceLines` make. The column is the one of that text only if every
column that was declared is the one that the text read implies (`Session.declaresColumns`).

`Cursor.StandsIn` says this of one cursor, with the condition on the columns as a parameter. A session
keeps it for its cursor and for all the copies, since any of them may be gone back to
(`Session.StandsIn.perform`). `Session.performAll_position` is the main statement.
-/

namespace GrammarScan

open Text

namespace Cursor

/-- The cursor stands in the source behind the text `before`, whatever its column is. The column is the
one of that text if those that the cursor was moved to were declared correctly. -/
structure StandsIn (cursor : Cursor) (source : Source) (before : List Char) (declared : Prop) :
    Prop where
  source_eq : cursor.source = source
  standsBehind : { cursor with column := columnAfter 1 before }.StandsBehind before
  column_eq : declared → cursor.column = columnAfter 1 before

lemma standsIn_start (source : Source) (declared : Prop) :
    (start source).StandsIn source [] declared :=
  ⟨rfl, standsBehind_start source, fun _ => rfl⟩

namespace StandsIn

variable {cursor : Cursor} {source : Source} {before piece left : List Char} {declared : Prop}

lemma marked (h : cursor.StandsIn source before declared) (disposition : Disposition) :
    (cursor.marked disposition).StandsIn source before declared :=
  ⟨h.source_eq, h.standsBehind.marked disposition, h.column_eq⟩

lemma unmarked (h : cursor.StandsIn source before declared) :
    cursor.unmarked.StandsIn source before declared :=
  ⟨h.source_eq, h.standsBehind.unmarked, h.column_eq⟩

/-- Behind a piece of text, any column will do unless columns are declared. -/
lemma past_column (h : cursor.StandsIn source before declared)
    (hrest : cursor.rest = piece ++ left) {column : Nat}
    (hcolumn : declared → column = columnAfter cursor.column piece) :
    { cursor.past piece with column }.StandsIn source (before ++ piece) declared where
  source_eq := h.source_eq
  standsBehind := by
    rw [columnAfter_append]
    exact h.standsBehind.past hrest
  column_eq := by
    intro hdeclared
    show column = _
    rw [hcolumn hdeclared, h.column_eq hdeclared, columnAfter_append]

lemma past (h : cursor.StandsIn source before declared) (hrest : cursor.rest = piece ++ left) :
    (cursor.past piece).StandsIn source (before ++ piece) declared :=
  h.past_column hrest fun _ => rfl

end StandsIn

end Cursor

namespace Session

/-- Whether the column that an operation declares is the one behind the last line feed that it reads, or
that of the cursor and the characters read if it reads none. -/
def Operation.declaresColumn (cursor : Cursor) : Operation → Bool
  | .advanceLines count _ column =>
    match cursor.split count with
    | .ok (taken, _) =>
      column == if '\n' ∈ taken then 1 + (taken.rtakeWhile (· ≠ '\n')).length
        else cursor.column + taken.length
    | .error _ => true
  | _ => true

/-- Whether all the columns are right that are declared in the course of the operations. -/
def declaresColumns (session : Session) : List Operation → Bool
  | [] => true
  | operation :: operations =>
    operation.declaresColumn session.cursor &&
      match session.perform operation with
      | .ok next => next.declaresColumns operations
      | .error _ => true

/-- The cursor and the copies of a session stand somewhere in the source. -/
structure StandsIn (session : Session) (source : Source) (declared : Prop) : Prop where
  cursor : ∃ before, session.cursor.StandsIn source before declared
  copies : ∀ copy ∈ session.copies, ∃ before, copy.StandsIn source before declared

variable {session next : Session} {source : Source} {declared : Prop}

lemma standsIn_start (source : Source) (report : Report) (declared : Prop) :
    (start source report).StandsIn source declared :=
  ⟨⟨[], Cursor.standsIn_start source declared⟩, fun _ hcopy => nomatch hcopy⟩

namespace StandsIn

/-- Whatever copy is gone back to, it stands in the source. -/
lemma copy (h : session.StandsIn source declared) (index : Nat) :
    ∃ before, (session.copy index).StandsIn source before declared := by
  unfold Session.copy
  rw [List.getD_eq_getElem?_getD]
  cases hcopy : session.copies[index]? with
  | none =>
    obtain ⟨before, hcursor⟩ := h.cursor
    rw [hcursor.source_eq]
    exact ⟨[], Cursor.standsIn_start source declared⟩
  | some copy => exact h.copies copy (List.mem_of_getElem? hcopy)

/-- An operation leaves the session in the source. -/
lemma perform {operation : Operation} (h : session.StandsIn source declared)
    (hcolumn : declared → operation.declaresColumn session.cursor = true)
    (hnext : session.perform operation = .ok next) : next.StandsIn source declared := by
  obtain ⟨before, hcursor⟩ := h.cursor
  cases operation with
  | advance count =>
    obtain ⟨⟨taken, cursor⟩, hmove, hsession⟩ := bind_eq_ok_iff.1 hnext
    obtain ⟨hrest, rfl⟩ := Cursor.advance_eq_ok hmove
    obtain rfl := Except.ok.inj hsession
    exact ⟨⟨before ++ taken, hcursor.past hrest⟩, h.copies⟩
  | advanceLines count feeds column =>
    obtain ⟨⟨taken, cursor⟩, hmove, hsession⟩ := bind_eq_ok_iff.1 hnext
    have hsplit := Cursor.split_eq_ok_iff.2 (Cursor.rest_of_advanceLines hmove)
    obtain ⟨hrest, rfl⟩ := Cursor.advanceLines_eq_ok hmove
    obtain rfl := Except.ok.inj hsession
    refine ⟨⟨before ++ taken, hcursor.past_column hrest fun hdeclared => ?_⟩, h.copies⟩
    have hdeclares := hcolumn hdeclared
    simp only [Operation.declaresColumn, hsplit, beq_iff_eq] at hdeclares
    rw [columnAfter_eq_ite]
    exact hdeclares
  | attempt construct =>
    unfold Session.perform at hnext
    dsimp only at hnext
    rcases construct.attempt_cases session.cursor session.report with
      ⟨-, hrefused⟩ | ⟨lexeme, -, ⟨-, left, hrest, -⟩, hbroken | haccepted⟩
    · rw [hrefused] at hnext
      obtain rfl := Except.ok.inj hnext
      exact ⟨h.cursor, h.copies⟩
    · generalize construct.attempt session.cursor session.report = attempted at hbroken hnext
      obtain ⟨result, report⟩ := attempted
      obtain rfl : result = .error .overflow := hbroken
      cases hnext
    · rw [haccepted] at hnext
      obtain rfl := Except.ok.inj hnext
      exact ⟨⟨before ++ lexeme.spelling, hcursor.past hrest⟩, h.copies⟩
  | mark disposition =>
    obtain rfl := Except.ok.inj hnext
    exact ⟨⟨before, hcursor.marked disposition⟩, h.copies⟩
  | unmark =>
    obtain rfl := Except.ok.inj hnext
    exact ⟨⟨before, hcursor.unmarked⟩, h.copies⟩
  | save =>
    obtain rfl := Except.ok.inj hnext
    exact ⟨h.cursor, List.forall_mem_cons.2 ⟨h.cursor, h.copies⟩⟩
  | restore index =>
    obtain rfl := Except.ok.inj hnext
    exact ⟨h.copy index, h.copies⟩

/-- Operations leave the session in the source. -/
theorem performAll {operations : List Operation} (h : session.StandsIn source declared)
    (hcolumns : declared → session.declaresColumns operations = true)
    (hnext : session.performAll operations = .ok next) : next.StandsIn source declared := by
  induction operations generalizing session with
  | nil =>
    obtain rfl := Except.ok.inj hnext
    exact h
  | cons operation operations ih =>
    obtain ⟨between, hfirst, hlater⟩ := bind_eq_ok_iff.1 hnext
    have hboth : declared → operation.declaresColumn session.cursor = true ∧
        between.declaresColumns operations = true := by
      intro hdeclared
      have hall := hcolumns hdeclared
      rwa [declaresColumns, hfirst, Bool.and_eq_true] at hall
    have hbetween := h.perform (fun hdeclared => (hboth hdeclared).1) hfirst
    exact ih hbetween (fun hdeclared => (hboth hdeclared).2) hlater

end StandsIn

/-- In whatever way a cursor has been used, what is left to read follows some text of its source, and the
offset and the line are those of that text. If the columns that were declared are right, so is the
column. -/
theorem performAll_position (source : Source) (report : Report) (operations : List Operation)
    (reached : Session) (hreached : (start source report).performAll operations = .ok reached) :
    let cursor := reached.cursor
    cursor.source = source ∧ cursor.file = source.file ∧
      ∃ before, source.text.toList = before ++ cursor.rest ∧
        cursor.offset = byteLength before ∧
        cursor.offset + byteLength cursor.rest = source.length ∧
        cursor.line = 1 + before.count '\n' ∧
        ((start source report).declaresColumns operations = true →
          cursor.column = 1 + (before.rtakeWhile (· ≠ '\n')).length) := by
  intro cursor
  have hstart := standsIn_start source report
    ((start source report).declaresColumns operations = true)
  obtain ⟨before, hcursor⟩ := (hstart.performAll id hreached).cursor
  have hsource : cursor.source = source := hcursor.source_eq
  have hbehind := hcursor.standsBehind
  rw [← hsource]
  refine ⟨rfl, rfl, before, hbehind.text_eq, hbehind.offset_eq, hbehind.offset_add_byteLength_rest,
    hbehind.line_eq, fun hdeclared => ?_⟩
  rw [← columnAfter_one]
  exact hcursor.column_eq (hsource ▸ hdeclared)

/-- A name is read twice, from a copy the second time, and then a comment with a line feed in it. The
bar that is tried last is refused. -/
theorem performAll_position_restored :
    let source : Source := ⟨⟨"rules.ebnf"⟩, "ab\n<c> /*é\nf*/g"⟩
    let operations : List Operation := [.advance 2, .save, .advanceLines 1 1 1, .attempt .nonTerminal,
      .mark .yield, .restore 0, .advanceLines 1 1 1, .attempt .nonTerminal, .unmark,
      .attempt .whitespace, .attempt .blockComment, .attempt .alternative]
    let reached : Session :=
      ⟨⟨source, ['g'], 15, 3, 4, none⟩, [⟨source, "\n<c> /*é\nf*/g".toList, 2, 1, 3, none⟩], .empty⟩
    (start source .empty).performAll operations = .ok reached ∧
      (start source .empty).declaresColumns operations = true ∧
      ∃ before, source.text.toList = before ++ ['g'] ∧ 15 = byteLength before ∧
        3 = 1 + before.count '\n' ∧ 4 = 1 + (before.rtakeWhile (· ≠ '\n')).length := by
  intro source operations reached
  have hreached : (start source .empty).performAll operations = .ok reached := by decide
  have hdeclared : (start source .empty).declaresColumns operations = true := by decide
  obtain ⟨-, -, before, htext, hoffset, -, hline, hcolumn⟩ :=
    performAll_position source .empty operations reached hreached
  exact ⟨hreached, hdeclared, before, htext, hoffset, hline, hcolumn hdeclared⟩

end Session

end GrammarScan
