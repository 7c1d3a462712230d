import GrammarScan.Proofs.Cursor.Sessions
import GrammarScan.Proofs.Scanner.InPlace
import Mathlib.Algebra.Group.Nat.Defs

/-!
# Which attempts overflow

A cursor can be moved to any column, so an attempt may find no room for the column behind its lexeme. In a
source of fewer than `2 ^ 63` bytes nothing else can go wrong, whatever was done with the cursor before.
The bytes that an attempt asks for are there and end between characters, the line feeds that it declares
are those of the lexeme, and no line gets too large, neither that of the cursor nor one that a diagnostic
cites. A lexeme with a line feed in it leads to a column of its own and never overflows.

`Session.attemptInPlace_overflows` says so of the attempt that measures its lexeme in the buffer and makes
all those checks.
-/

namespace GrammarScan

open Text

/-- Where the lines behind a piece of text can be kept, a move over it has no room exactly if there is no
line feed in it and the column is too large. -/
lemma Cursor.not_hasRoomFor_iff {cursor : Cursor} {piece : List Char}
    (hline : cursor.line + lineFeeds piece ≤ maxIndex) :
    ¬ cursor.HasRoomFor piece ↔ '\n' ∉ piece ∧ maxIndex < cursor.column + piece.length := by
  unfold HasRoomFor
  split_ifs with hfeeds
  · rw [not_le]
    exact (and_iff_right (lineFeeds_eq_zero_iff.1 hfeeds)).symm
  · have hmem : ¬ '\n' ∉ piece := mt lineFeeds_eq_zero_iff.2 hfeeds
    exact iff_of_false (not_not.2 hline) fun h => hmem h.1

namespace Construct

variable {construct : Construct} {cursor : Cursor} {report : Report}

/-- An attempt finds no fault but a number that is too large. -/
lemma eq_overflow_of_attempt {fault : Fault}
    (h : (construct.attempt cursor report).1 = .error fault) : fault = .overflow := by
  rcases construct.attempt_cases cursor report with
    ⟨-, hrefused⟩ | ⟨lexeme, -, -, hbroken | haccepted⟩
  · rw [hrefused] at h
    cases h
  · exact Except.error.inj (h.symm.trans hbroken)
  · rw [haccepted] at h
    cases h

/-- An attempt that accepts moves behind the lexeme that comes next. -/
lemma exists_of_attempt_accepts {disposition : Disposition} {token : Token} {next : Cursor}
    (h : (construct.attempt cursor report).1 = .ok (.accepted disposition token next)) :
    ∃ lexeme : Lexeme, lexeme.construct = construct ∧ lexeme.IsAtFrontOf cursor.rest ∧
      next = cursor.past lexeme.spelling := by
  rcases construct.attempt_cases cursor report with
    ⟨-, hrefused⟩ | ⟨lexeme, hconstruct, hfront, hbroken | haccepted⟩
  · rw [hrefused] at h
    cases h
  · cases h.symm.trans hbroken
  · rw [haccepted] at h
    obtain ⟨-, -, rfl⟩ := Outcome.accepted.inj (Except.ok.inj h)
    exact ⟨lexeme, hconstruct, hfront, rfl⟩

/-- Where no line gets too large, an attempt overflows exactly at a lexeme without a line feed behind
which the column is too large. -/
theorem attempt_eq_overflow_iff (hlines : ∀ lexeme : Lexeme, lexeme.IsAtFrontOf cursor.rest →
      cursor.line + lineFeeds lexeme.spelling ≤ maxIndex) :
    (construct.attempt cursor report).1 = .error .overflow ↔
      ∃ lexeme : Lexeme, lexeme.construct = construct ∧ lexeme.IsAtFrontOf cursor.rest ∧
        '\n' ∉ lexeme.spelling ∧ maxIndex < cursor.column + lexeme.spelling.length := by
  constructor
  · intro hoverflow
    rcases construct.attempt_cases cursor report with ⟨-, hrefused⟩ | ⟨lexeme, rfl, hfront, -⟩
    · rw [hrefused] at hoverflow
      cases hoverflow
    · refine ⟨lexeme, rfl, hfront, (Cursor.not_hasRoomFor_iff (hlines lexeme hfront)).1 ?_⟩
      intro hroom
      rw [attempt_of_line_le hfront (hlines lexeme hfront), if_pos hroom] at hoverflow
      cases hoverflow
  · rintro ⟨lexeme, rfl, hfront, hlarge⟩
    have hroom := (Cursor.not_hasRoomFor_iff (hlines lexeme hfront)).2 hlarge
    rw [attempt_of_line_le hfront (hlines lexeme hfront), if_neg hroom]

end Construct

namespace Session

/-- In whatever way the cursor has been used, and whatever column it was moved to, an attempt at a
construct fails only if it reads a lexeme without a line feed behind which the column is too large. -/
theorem attemptInPlace_overflows (source : Source) (hlength : source.length < 2 ^ 63)
    (report : Report) (operations : List Operation) (reached : Session)
    (hreached : (start source report).performAll operations = .ok reached) (construct : Construct)
    (sink : Report) :
    let cursor := reached.cursor
    let attempted := (construct.attemptInPlace cursor sink).1
    (∀ fault, attempted = .error fault → fault = .overflow) ∧
      (attempted = .error .overflow ↔
        ∃ lexeme : Lexeme, lexeme.construct = construct ∧ lexeme.IsAtFrontOf cursor.rest ∧
          '\n' ∉ lexeme.spelling ∧ maxIndex < cursor.column + lexeme.spelling.length) ∧
      (attempted = .ok .refused ↔
        ∀ lexeme : Lexeme, lexeme.construct = construct → ¬ lexeme.IsAtFrontOf cursor.rest) ∧
      (∀ lexeme : Lexeme, lexeme.construct = construct → lexeme.IsAtFrontOf cursor.rest →
        cursor.line + lexeme.spelling.count '\n' ≤ maxIndex ∧
          ∀ d ∈ lexeme.diagnostics cursor.file cursor.line, d.line ≤ maxIndex) ∧
      ∀ disposition token next, attempted = .ok (.accepted disposition token next) →
        ∃ lexeme : Lexeme, lexeme.construct = construct ∧ lexeme.IsAtFrontOf cursor.rest ∧
          cursor.rest = lexeme.spelling ++ next.rest ∧
          next.line = cursor.line + lexeme.spelling.count '\n' ∧
          next.column =
            if '\n' ∈ lexeme.spelling then 1 + (lexeme.spelling.rtakeWhile (· ≠ '\n')).length
            else cursor.column + lexeme.spelling.length := by
  intro cursor attempted
  have hsmall : 1 + source.length ≤ maxIndex := by
    have hmax : maxIndex = 2 ^ 64 - 1 := rfl
    omega
  obtain ⟨before, hcursor⟩ :=
    ((standsIn_start source report False).performAll False.elim hreached).cursor
  have hlines : ∀ lexeme : Lexeme, lexeme.IsAtFrontOf cursor.rest →
      cursor.line + lineFeeds lexeme.spelling ≤ maxIndex := by
    rintro lexeme ⟨-, left, hrest, -⟩
    have hline : cursor.line + lineFeeds lexeme.spelling ≤ 1 + cursor.source.length :=
      hcursor.standsBehind.line_add_le hrest
    rw [hcursor.source_eq] at hline
    exact hline.trans hsmall
  have hattempted : attempted = (construct.attempt cursor sink).1 := by
    rw [← Construct.attemptInPlace_eq]
  rw [hattempted]
  refine ⟨fun fault => Construct.eq_overflow_of_attempt, Construct.attempt_eq_overflow_iff hlines, ?_,
    ?_, ?_⟩
  · rw [Construct.attempt_eq_refused_iff, Construct.read?_eq_none_iff]
  · intro lexeme _ hfront
    have hline := hlines lexeme hfront
    exact ⟨hline, fun d hd => (Lexeme.diagnostics_line_le d hd).trans hline⟩
  · intro disposition token next haccepted
    obtain ⟨lexeme, hconstruct, hfront, rfl⟩ := Construct.exists_of_attempt_accepts haccepted
    obtain ⟨-, left, hrest, -⟩ := id hfront
    refine ⟨lexeme, hconstruct, hfront, ?_, rfl, columnAfter_eq_ite _ _⟩
    rw [Cursor.past_rest hrest, hrest]

/-- A cursor that was moved to one of the last columns has no room for a name. -/
theorem attemptInPlace_overflows_name :
    let source : Source := ⟨⟨"rules.ebnf"⟩, "a<bc>"⟩
    let operations : List Operation := [.advanceLines 1 0 (2 ^ 64 - 4)]
    let reached : Session := ⟨⟨source, "<bc>".toList, 1, 1, 2 ^ 64 - 4, none⟩, [], .empty⟩
    source.length < 2 ^ 63 ∧ (start source .empty).performAll operations = .ok reached ∧
      (Construct.nonTerminal.attemptInPlace reached.cursor .empty).1 = .error .overflow := by
  intro source operations reached
  have hlength : source.length < 2 ^ 63 := by decide
  have hreached : (start source .empty).performAll operations = .ok reached := by decide
  obtain ⟨-, hoverflow, -⟩ := attemptInPlace_overflows source hlength .empty operations reached
    hreached .nonTerminal .empty
  have hread : Construct.nonTerminal.read? reached.cursor.rest = some (.nonTerminal ['b', 'c']) := by
    decide
  obtain ⟨hconstruct, hfront⟩ := Construct.read?_eq_some_iff.1 hread
  exact ⟨hlength, hreached, hoverflow.2 ⟨_, hconstruct, hfront, by decide, by decide⟩⟩

end Session

end GrammarScan
