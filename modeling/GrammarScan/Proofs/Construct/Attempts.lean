import GrammarScan.Construct.Attempt
import GrammarScan.Proofs.Construct.Candidates
import GrammarScan.Proofs.Cursor.Motion

/-!
# What attempts come to

An attempt of the construct whose lexeme stands at the front of what is left is described in full by
`attempt_of_isAtFrontOf`: it overflows, or it moves behind the lexeme and reports its diagnostics.
Every other construct refuses and leaves no trace (`attempt_eq_refused_iff`).  `attempt_cases` puts
the two together.
-/

namespace GrammarScan

/-! ## The lines that diagnostics cite -/

lemma nameDiagnostics_line_le {file : FileName} {line : Nat} {name : List Char} :
    ∀ d ∈ nameDiagnostics file line name, d.line ≤ line + Text.lineFeeds name := by
  induction name generalizing line with
  | nil => simp [nameDiagnostics]
  | cons c name ih =>
    intro d hd
    have hlater : ∀ d ∈ nameDiagnostics file (if c = '\n' then line + 1 else line) name,
        d.line ≤ line + Text.lineFeeds (c :: name) := by
      intro d hd
      have hle := ih d hd
      rw [Text.lineFeeds_cons]
      split_ifs at hle ⊢ <;> omega
    unfold nameDiagnostics at hd
    dsimp only at hd
    split at hd
    · rcases List.mem_cons.1 hd with rfl | hd
      · exact Nat.le_add_right _ _
      · exact hlater d hd
    · exact hlater d hd

lemma Lexeme.diagnostics_line_le {file : FileName} {line : Nat} {lexeme : Lexeme} :
    ∀ d ∈ lexeme.diagnostics file line, d.line ≤ line + Text.lineFeeds lexeme.spelling := by
  cases lexeme with
  | nonTerminal name =>
    intro d hd
    have hle := nameDiagnostics_line_le d hd
    have hname : Text.lineFeeds (nonTerminal name).spelling = Text.lineFeeds name := by
      simp [spelling, Text.lineFeeds_cons]
    omega
  | _ => simp [diagnostics]

/-- The cursor behind a lexeme that comes next, marked with what becomes of the lexeme. -/
def Cursor.behind (cursor : Cursor) (lexeme : Lexeme) : Cursor :=
  (cursor.past lexeme.spelling).marked lexeme.construct.disposition

/-- The token of a lexeme that comes next. -/
def Cursor.tokenOf (cursor : Cursor) (lexeme : Lexeme) : Token :=
  lexeme.token cursor (cursor.past lexeme.spelling)

namespace Construct

variable {cursor : Cursor} {lexeme : Lexeme}

/-! ## One attempt -/

lemma attempt_of_read?_eq_none {construct : Construct} (h : construct.read? cursor.rest = none)
    (report : Report) : construct.attempt cursor report = (.ok .refused, report) := by
  unfold attempt
  rw [h]

/-- The attempt that finds its lexeme moves behind it unless a number gets too large. -/
theorem attempt_of_isAtFrontOf (h : lexeme.IsAtFrontOf cursor.rest) (report : Report) :
    lexeme.construct.attempt cursor report =
      let found := lexeme.diagnostics cursor.file cursor.line
      if ∀ d ∈ found, d.line ≤ maxIndex then
        (if cursor.HasRoomFor lexeme.spelling then
            .ok (.accepted lexeme.construct.disposition (cursor.tokenOf lexeme)
              (cursor.past lexeme.spelling))
          else .error .overflow,
          report.extend found)
      else (.error .overflow, report.extend (found.takeWhile (·.line ≤ maxIndex))) := by
  have hread : lexeme.construct.read? cursor.rest = some lexeme :=
    read?_eq_some_iff.2 ⟨rfl, h⟩
  obtain ⟨-, left, hrest, -⟩ := h
  unfold attempt
  rw [hread]
  dsimp only
  set found := lexeme.diagnostics cursor.file cursor.line with hfound
  by_cases hlines : ∀ d ∈ found, d.line ≤ maxIndex
  · have hcitable : found.takeWhile (·.line ≤ maxIndex) = found := by
      rw [List.takeWhile_eq_self_iff]
      simpa using hlines
    rw [hcitable, if_pos rfl, if_pos hlines, accept, Cursor.move_of_rest_eq hrest]
    split_ifs with hroom <;> rfl
  · have hcitable : found.length ≠ (found.takeWhile (·.line ≤ maxIndex)).length := by
      intro hlength
      have hprefix : found.takeWhile (·.line ≤ maxIndex) <+: found := List.takeWhile_prefix _
      have hself := hprefix.eq_of_length hlength.symm
      rw [List.takeWhile_eq_self_iff] at hself
      exact hlines (by simpa using hself)
    rw [if_neg hcitable, if_neg hlines]

/-- Where no line gets too large, the attempt reports all that is wrong with its lexeme, and overflows
only if the move has no room. -/
lemma attempt_of_line_le (h : lexeme.IsAtFrontOf cursor.rest)
    (hline : cursor.line + Text.lineFeeds lexeme.spelling ≤ maxIndex) (report : Report) :
    lexeme.construct.attempt cursor report =
      (if cursor.HasRoomFor lexeme.spelling then
          .ok (.accepted lexeme.construct.disposition (cursor.tokenOf lexeme)
            (cursor.past lexeme.spelling))
        else .error .overflow,
        report.extend (lexeme.diagnostics cursor.file cursor.line)) := by
  have hlines : ∀ d ∈ lexeme.diagnostics cursor.file cursor.line, d.line ≤ maxIndex := by
    intro d hd
    have hle := Lexeme.diagnostics_line_le d hd
    omega
  rw [attempt_of_isAtFrontOf h]
  exact if_pos hlines

lemma attempt_of_hasRoomFor (h : lexeme.IsAtFrontOf cursor.rest) (hline : cursor.line ≤ maxIndex)
    (hroom : cursor.HasRoomFor lexeme.spelling) (report : Report) :
    lexeme.construct.attempt cursor report =
      (.ok (.accepted lexeme.construct.disposition (cursor.tokenOf lexeme)
          (cursor.past lexeme.spelling)),
        report.extend (lexeme.diagnostics cursor.file cursor.line)) := by
  have hfeeds : cursor.line + Text.lineFeeds lexeme.spelling ≤ maxIndex := by
    unfold Cursor.HasRoomFor at hroom
    split_ifs at hroom with hzero
    · omega
    · exact hroom
  rw [attempt_of_line_le h hfeeds, if_pos hroom]

/-- The construct whose lexeme stands at the front does not refuse. -/
lemma attempt_ne_refused (h : lexeme.IsAtFrontOf cursor.rest) (report : Report) :
    (lexeme.construct.attempt cursor report).1 ≠ .ok .refused := by
  rw [attempt_of_isAtFrontOf h]
  dsimp only
  split_ifs <;> simp

/-- An attempt refuses exactly where its construct reads nothing. -/
lemma attempt_eq_refused_iff {construct : Construct} {report : Report} :
    (construct.attempt cursor report).1 = .ok .refused ↔ construct.read? cursor.rest = none := by
  constructor
  · intro hrefused
    rw [read?_eq_none_iff]
    rintro lexeme rfl hfront
    exact attempt_ne_refused hfront report hrefused
  · intro hnone
    rw [attempt_of_read?_eq_none hnone]

/-- Where nothing is wrong with the lexeme, the attempt reports nothing, even if it overflows. -/
lemma attempt_of_diagnostics_eq_nil (h : lexeme.IsAtFrontOf cursor.rest)
    (hsilent : lexeme.diagnostics cursor.file cursor.line = []) (report : Report) :
    lexeme.construct.attempt cursor report =
      (if cursor.HasRoomFor lexeme.spelling then
          .ok (.accepted lexeme.construct.disposition (cursor.tokenOf lexeme)
            (cursor.past lexeme.spelling))
        else .error .overflow, report) := by
  rw [attempt_of_isAtFrontOf h, hsilent]
  simp

/-- An attempt refuses, or a number gets too large for it, or it moves behind the lexeme that it
reads and reports what is wrong with that lexeme. -/
lemma attempt_cases (construct : Construct) (cursor : Cursor) (report : Report) :
    construct.read? cursor.rest = none ∧ construct.attempt cursor report = (.ok .refused, report) ∨
      ∃ lexeme : Lexeme, lexeme.construct = construct ∧ lexeme.IsAtFrontOf cursor.rest ∧
        ((construct.attempt cursor report).1 = .error .overflow ∨
          construct.attempt cursor report =
            (.ok (.accepted construct.disposition (cursor.tokenOf lexeme)
                (cursor.past lexeme.spelling)),
              report.extend (lexeme.diagnostics cursor.file cursor.line))) := by
  cases hread : construct.read? cursor.rest with
  | none => exact .inl ⟨rfl, attempt_of_read?_eq_none hread report⟩
  | some lexeme =>
    obtain ⟨rfl, hfront⟩ := read?_eq_some_iff.1 hread
    refine .inr ⟨lexeme, rfl, hfront, ?_⟩
    rw [attempt_of_isAtFrontOf hfront]
    dsimp only
    split_ifs
    · exact .inr rfl
    · exact .inl rfl
    · exact .inl rfl

/-- In a text that is not too long, an attempt accepts exactly where its construct reads something. -/
lemma exists_accepted_iff {before : List Char} (hstands : cursor.StandsBehind before)
    (hlength : cursor.source.length < maxIndex) {construct : Construct} {report : Report} :
    (∃ disposition token next,
        (construct.attempt cursor report).1 = .ok (.accepted disposition token next)) ↔
      construct.read? cursor.rest ≠ none := by
  constructor
  · rintro ⟨disposition, token, next, haccepted⟩ hnone
    rw [attempt_of_read?_eq_none hnone] at haccepted
    cases haccepted
  · intro hreads
    obtain ⟨lexeme, hread⟩ := Option.ne_none_iff_exists'.1 hreads
    obtain ⟨rfl, hfront⟩ := read?_eq_some_iff.1 hread
    obtain ⟨-, left, hrest, -⟩ := id hfront
    have hroom := hstands.hasRoomFor hlength hrest
    rw [attempt_of_hasRoomFor hfront (hstands.line_le hlength) hroom]
    exact ⟨_, _, _, rfl⟩

end Construct

end GrammarScan
