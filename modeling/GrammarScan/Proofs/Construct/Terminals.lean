import GrammarScan.Proofs.Scanner.InPlace
import GrammarScan.Proofs.Text.Forms

/-!
# Quoted texts, unit by unit

A quoted text is a sequence of units between two marks. `QuotedUnit` has the two kinds of unit: a
character that stands for itself, and a backslash with the character that it takes. A sequence of
units with a mark behind it can be read in one way only (`QuotedUnit.spellings_unique`), and the line
feeds in it are the escaped ones (`QuotedUnit.count_feed_spellings`).

The scanner knows nothing of units. It goes from one mark, backslash or line feed to the next and
steps over whatever a backslash takes (`Lexeme.Search.text`). `Construct.attemptInPlace_terminal`
says that it accepts a quoted text exactly where a sequence of units stands between marks, and what
it makes of it.
-/

namespace GrammarScan

/-- A unit of a quoted text. -/
inductive QuotedUnit where
  /-- A character that stands for itself. -/
  | plain (c : Char) (ne_quote : c ≠ '"') (ne_backslash : c ≠ '\\') (ne_feed : c ≠ '\n')
  /-- A backslash with the character that it takes, whichever that is. -/
  | escaped (c : Char)
  deriving DecidableEq

namespace QuotedUnit

/-- The source text of a unit. -/
def spelling : QuotedUnit → List Char
  | .plain c _ _ _ => [c]
  | .escaped c => ['\\', c]

/-- The source text of a sequence of units. -/
def spellings (units : List QuotedUnit) : List Char :=
  units.flatMap spelling

lemma spellings_cons (unit : QuotedUnit) (units : List QuotedUnit) :
    spellings (unit :: units) = unit.spelling ++ spellings units := rfl

/-- Sequences of units are what may stand between the marks of a quoted text. -/
theorem quotedBody_iff_exists_units {body : List Char} :
    Lexeme.QuotedBody body ↔ ∃ units, body = spellings units := by
  constructor
  · intro h
    induction h with
    | nil => exact ⟨[], rfl⟩
    | plain hquote hescape hfeed _ ih =>
      obtain ⟨units, rfl⟩ := ih
      exact ⟨.plain _ hquote hescape hfeed :: units, rfl⟩
    | escaped c _ ih =>
      obtain ⟨units, rfl⟩ := ih
      exact ⟨.escaped c :: units, rfl⟩
  · rintro ⟨units, rfl⟩
    induction units with
    | nil => exact .nil
    | cons unit units ih =>
      cases unit with
      | plain c hquote hescape hfeed => exact .plain hquote hescape hfeed ih
      | escaped c => exact .escaped c ih

/-- A mark starts no unit. -/
lemma spelling_append_ne (unit : QuotedUnit) (text left : List Char) :
    unit.spelling ++ text ≠ '"' :: left := by
  intro h
  cases unit with
  | plain c hquote _ _ => exact hquote (List.head_eq_of_cons_eq h)
  | escaped c => exact absurd (List.head_eq_of_cons_eq h) (by decide)

/-- A text starts with one unit at most. -/
lemma selfDelimiting_spelling : Text.SelfDelimiting spelling := by
  intro unit other text rest h
  cases unit with
  | plain c _ hescape _ =>
    cases other with
    | plain d _ _ _ =>
      obtain ⟨rfl, htext⟩ := List.cons.inj h
      exact ⟨rfl, htext⟩
    | escaped d => exact absurd (List.head_eq_of_cons_eq h) hescape
  | escaped c =>
    cases other with
    | plain d _ hescape _ => exact absurd (List.head_eq_of_cons_eq h).symm hescape
    | escaped d =>
      obtain ⟨rfl, htext⟩ := List.cons.inj (List.tail_eq_of_cons_eq h)
      exact ⟨rfl, htext⟩

/-- A text starts with a sequence of units and a mark in one way only. -/
theorem spellings_unique {units others : List QuotedUnit} {left rest : List Char}
    (h : spellings units ++ '"' :: left = spellings others ++ '"' :: rest) :
    units = others ∧ left = rest := by
  have hsequence : Text.SelfDelimiting fun units => spellings units ++ ['"'] :=
    selfDelimiting_spelling.sequence spelling_append_ne
  apply hsequence
  rwa [List.append_assoc, List.append_assoc]

/-- Every line feed in a sequence of units is an escaped one. -/
theorem count_feed_spellings (units : List QuotedUnit) :
    (spellings units).count '\n' = units.count (.escaped '\n') := by
  induction units with
  | nil => rfl
  | cons unit units ih =>
    have hunit : unit.spelling.count '\n' = if unit = .escaped '\n' then 1 else 0 := by
      cases unit with
      | plain c hquote hescape hfeed => simp [spelling, hfeed]
      | escaped c => simp [spelling, List.count_cons]
    rw [spellings_cons, List.count_append, hunit, ih, List.count_cons, Nat.add_comm]
    simp only [beq_iff_eq]

end QuotedUnit

/-- A quoted text comes next: a sequence of units between marks, and `left` behind it. -/
def Cursor.ShowsQuoted (cursor : Cursor) (units : List QuotedUnit) (left : List Char) : Prop :=
  cursor.rest = '"' :: (QuotedUnit.spellings units ++ '"' :: left)

namespace Cursor.ShowsQuoted

variable {cursor : Cursor} {units : List QuotedUnit} {left : List Char}

lemma unique (h : cursor.ShowsQuoted units left) {others : List QuotedUnit} {rest : List Char}
    (hother : cursor.ShowsQuoted others rest) : others = units ∧ rest = left := by
  have htext := List.tail_eq_of_cons_eq (hother.symm.trans h)
  exact QuotedUnit.spellings_unique htext

lemma rest_eq (h : cursor.ShowsQuoted units left) :
    cursor.rest = '"' :: (QuotedUnit.spellings units ++ ['"']) ++ left := by
  rw [h]
  simp

lemma isAtFrontOf (h : cursor.ShowsQuoted units left) :
    (Lexeme.terminal (QuotedUnit.spellings units)).IsAtFrontOf cursor.rest :=
  ⟨QuotedUnit.quotedBody_iff_exists_units.2 ⟨units, rfl⟩, left, h.rest_eq, trivial⟩

end Cursor.ShowsQuoted

/-- A lexeme of the construct shows as a sequence of units between marks. -/
lemma Cursor.exists_showsQuoted {cursor : Cursor} {lexeme : Lexeme}
    (hconstruct : lexeme.construct = .terminal) (hfront : lexeme.IsAtFrontOf cursor.rest) :
    ∃ units left, cursor.ShowsQuoted units left := by
  obtain ⟨hproper, left, hrest, -⟩ := hfront
  cases lexeme with
  | terminal body =>
    obtain ⟨units, rfl⟩ := QuotedUnit.quotedBody_iff_exists_units.1 hproper
    refine ⟨units, left, ?_⟩
    rw [ShowsQuoted, hrest]
    simp [Lexeme.spelling]
  | symbol symbol => cases symbol <;> cases hconstruct
  | _ => cases hconstruct

namespace Construct

variable {cursor : Cursor} {units : List QuotedUnit} {left : List Char}

/-- No quoted text is read exactly where none comes next. -/
lemma read?_terminal_eq_none_iff :
    terminal.read? cursor.rest = none ↔ ¬ ∃ units left, cursor.ShowsQuoted units left := by
  rw [read?_eq_none_iff]
  constructor
  · rintro hnot ⟨units, left, hshows⟩
    exact hnot _ rfl hshows.isAtFrontOf
  · intro hnone lexeme hconstruct hfront
    exact hnone (Cursor.exists_showsQuoted hconstruct hfront)

/-- Where a quoted text comes next, the attempt at it moves behind it if there is room, and reports
nothing in any case. -/
lemma attempt_of_showsQuoted (h : cursor.ShowsQuoted units left) (report : Report) :
    terminal.attempt cursor report =
      let lexeme := '"' :: (QuotedUnit.spellings units ++ ['"'])
      (if cursor.HasRoomFor lexeme then
        .ok (.accepted .yield (cursor.tokenOf (.terminal (QuotedUnit.spellings units)))
          (cursor.past lexeme))
        else .error .overflow, report) :=
  attempt_of_diagnostics_eq_nil h.isAtFrontOf rfl report

end Construct

/-- The attempt at a quoted text, in place or not, refuses unless a sequence of units comes next between
two marks, and never reports anything. There is at most one such sequence. If there is one, the attempt
moves right behind its closing mark, unless a number gets too large there: the units as they are written
are the text of a well-formed token, every escaped line feed counts as a line and there is no other, and
the column is counted from the last of them or else goes on. In a text that is not too long, no number
gets too large. -/
theorem Construct.attemptInPlace_terminal (cursor : Cursor) (report : Report) :
    let attempted := Construct.terminal.attemptInPlace cursor report
    attempted = Construct.terminal.attempt cursor report ∧
      attempted.2 = report ∧
      (attempted.1 = .ok .refused ↔ ¬ ∃ units left, cursor.ShowsQuoted units left) ∧
      (∀ units left, cursor.ShowsQuoted units left →
        let body := QuotedUnit.spellings units
        let lexeme := '"' :: (body ++ ['"'])
        let next := { cursor with
          rest := left
          offset := cursor.offset + Text.byteLength lexeme
          line := cursor.line + lexeme.count '\n'
          column :=
            if '\n' ∈ lexeme then 1 + (lexeme.rtakeWhile (· ≠ '\n')).length
            else cursor.column + lexeme.length }
        let token : Token := ⟨.terminal, String.ofList body, ⟨cursor.offset, next.offset⟩,
          cursor.line, cursor.column, true⟩
        (∀ others rest, cursor.ShowsQuoted others rest → others = units ∧ rest = left) ∧
          cursor.rest = lexeme ++ left ∧
          lexeme.count '\n' = units.count (.escaped '\n') ∧
          attempted.1 =
            if cursor.HasRoomFor lexeme then .ok (.accepted .yield token next)
            else .error .overflow) ∧
      ∀ before, cursor.StandsBehind before → cursor.source.length < maxIndex →
        ((∃ disposition token next, attempted.1 = .ok (.accepted disposition token next)) ↔
          ∃ units left, cursor.ShowsQuoted units left) := by
  intro attempted
  have hattempt : attempted = Construct.terminal.attempt cursor report := by
    show Construct.attemptInPlace _ _ _ = _
    rw [Construct.attemptInPlace_eq]
  refine ⟨hattempt, ?_, ?_, ?_, ?_⟩
  · rw [hattempt]
    by_cases hshows : ∃ units left, cursor.ShowsQuoted units left
    · obtain ⟨units, left, hshows⟩ := hshows
      rw [Construct.attempt_of_showsQuoted hshows]
    · rw [Construct.attempt_of_read?_eq_none (Construct.read?_terminal_eq_none_iff.2 hshows)]
  · rw [hattempt, Construct.attempt_eq_refused_iff]
    exact Construct.read?_terminal_eq_none_iff
  · intro units left hshows body lexeme next token
    have hfeeds : lexeme.count '\n' = units.count (.escaped '\n') := by
      rw [← QuotedUnit.count_feed_spellings]
      simp [lexeme, body]
    have hnext : cursor.past lexeme = next := Cursor.past_eq hshows.rest_eq
    refine ⟨fun others rest hother => hshows.unique hother, hshows.rest_eq, hfeeds, ?_⟩
    rw [hattempt, Construct.attempt_of_showsQuoted hshows]
    show (if cursor.HasRoomFor lexeme then Except.ok (Outcome.accepted _ _ (cursor.past lexeme))
      else _) = _
    rw [hnext]
    rfl
  · intro before hstands hlength
    rw [hattempt, Construct.exists_accepted_iff hstands hlength, ne_eq,
      Construct.read?_terminal_eq_none_iff, not_not]

/-- A quoted text with a wide character, both delimiters escaped, an escaped line feed and an escaped
wide character, in front of a line feed that is not escaped. -/
theorem Construct.attemptInPlace_terminal_escapes :
    let source : Source := ⟨⟨"quotes.ebnf"⟩, "\"é\\\"\\\\\\\n\\ÿ\"\n\""⟩
    let cursor := Cursor.start source
    let units : List QuotedUnit :=
      [.plain 'é' (by decide) (by decide) (by decide), .escaped '"', .escaped '\\', .escaped '\n',
        .escaped 'ÿ']
    let attempted := Construct.terminal.attemptInPlace cursor Report.empty
    cursor.ShowsQuoted units ['\n', '"'] ∧ cursor.StandsBehind [] ∧
      source.length < maxIndex ∧
      (∃ disposition token next, attempted.1 = .ok (.accepted disposition token next)) ∧
      attempted =
        (.ok (.accepted .yield
            ⟨.terminal, String.ofList (QuotedUnit.spellings units), ⟨0, 13⟩, 1, 1, true⟩
            { cursor with rest := ['\n', '"'], offset := 13, line := 2, column := 4 }),
          Report.empty) := by
  intro source cursor units attempted
  have hshows : cursor.ShowsQuoted units ['\n', '"'] := by
    show _ = _
    decide
  have hstands : cursor.StandsBehind [] := Cursor.standsBehind_start source
  have hlength : source.length < maxIndex := by decide
  obtain ⟨-, hreport, -, htaken, haccepts⟩ :=
    Construct.attemptInPlace_terminal cursor Report.empty
  refine ⟨hshows, hstands, hlength, (haccepts [] hstands hlength).2 ⟨_, _, hshows⟩, ?_⟩
  obtain ⟨-, -, -, hattempted⟩ := htaken units ['\n', '"'] hshows
  refine Prod.ext ?_ hreport
  rw [hattempted, if_pos (by decide)]
  rfl

end GrammarScan
