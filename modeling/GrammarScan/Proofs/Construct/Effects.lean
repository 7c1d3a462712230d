import GrammarScan.Proofs.Grammar.Kinds
import GrammarScan.Proofs.Scanner.InPlace
import GrammarScan.Scanner.Desk

/-!
# What attempts do to a desk

An attempt on a desk does to the cursor and the report on it what an attempt does that is handed
both (`Construct.on_attemptOn`).
-/

namespace GrammarScan

open Text

namespace Desk

/-- Diagnostics are written down up to the first on a line too large to keep. -/
lemma on_write (found : List Diagnostic) (desk : Desk) :
    (write found).on desk =
      let citable := found.takeWhile (·.line ≤ maxIndex)
      (if found.length = citable.length then .ok () else .error .overflow,
        { desk with report := desk.report.extend citable }) := by
  induction found generalizing desk with
  | nil => simp [write]
  | cons diagnostic found ih =>
    have hextend : ∀ later, (desk.report.push diagnostic).extend later =
        desk.report.extend (diagnostic :: later) := by
      intro later
      apply Report.ext
      simp
    rw [write]
    by_cases hline : maxIndex < diagnostic.line
    · have hcut : ¬ diagnostic.line ≤ maxIndex := not_le.2 hline
      simp [hline, hcut]
    · have hkept : diagnostic.line ≤ maxIndex := not_lt.1 hline
      rw [if_neg hline, Work.on_bind, Work.on_modify]
      dsimp only
      rw [ih]
      simp [hkept, hextend]

end Desk

namespace Construct

/-- An attempt on a desk is an attempt that is handed the cursor and the report. -/
theorem on_attemptOn (construct : Construct) (desk : Desk) :
    construct.attemptOn.on desk =
      match construct.attempt desk.cursor desk.report with
      | (.error fault, report) => (.error fault, { desk with report })
      | (.ok .refused, report) => (.ok none, { desk with report })
      | (.ok (.accepted disposition token next), report) =>
        (.ok (some (disposition, token)), ⟨next, report⟩) := by
  unfold attemptOn
  rw [Desk.Work.on_bind, Desk.Work.on_get]
  dsimp only
  by_cases hstart : desk.cursor.firstChar?.any construct.startsWith
  · rw [if_pos hstart, Desk.Work.on_bind, Desk.Work.on_lift, extent?_rest_eq hstart]
    cases hread : construct.read? desk.cursor.rest with
    | none =>
      rw [attempt_of_read?_eq_none hread]
      rfl
    | some lexeme =>
      obtain ⟨-, -, left, hrest, -⟩ := read?_eq_some_iff.1 hread
      unfold attempt
      rw [hread]
      dsimp only [Option.map_some]
      rw [Desk.Work.on_bind, Desk.on_write, Lexeme.diagnostics_extent]
      dsimp only
      split_ifs with hcitable
      · dsimp only
        rw [Desk.Work.on_bind, Desk.on_take, Lexeme.move_extent, accept,
          Cursor.move_of_rest_eq hrest]
        split_ifs with hroom
        · have hinside : charsInside lexeme.spelling lexeme.extent.opener lexeme.extent.closer =
              .ok lexeme.payload := lexeme.charsInside_spelling
          dsimp only
          rw [Desk.Work.on_bind, Desk.Work.on_lift, hinside]
          show (Except.ok (some (_, Token.mk _ _ _ _ _ lexeme.defects.isEmpty)), _) = _
          rw [Lexeme.isEmpty_defects]
          rfl
        · rfl
      · rfl
  · rw [if_neg hstart, attempt_of_read?_eq_none (read?_eq_none_of_not_startsWith hstart)]
    rfl

/-- An attempt on a desk refuses and leaves everything as it was, or a number gets too large for it, or it
moves the cursor behind the lexeme that it reads and reports what is wrong with that lexeme. -/
lemma attemptOn_cases (construct : Construct) (desk : Desk) :
    construct.read? desk.cursor.rest = none ∧ construct.attemptOn.on desk = (.ok none, desk) ∨
      ∃ lexeme : Lexeme, lexeme.construct = construct ∧ lexeme.IsAtFrontOf desk.cursor.rest ∧
        ((construct.attemptOn.on desk).1 = .error .overflow ∨
          construct.attemptOn.on desk =
            (.ok (some (construct.disposition, desk.cursor.tokenOf lexeme)),
              ⟨desk.cursor.past lexeme.spelling,
                desk.report.extend (lexeme.diagnostics desk.cursor.file desk.cursor.line)⟩)) := by
  rw [on_attemptOn]
  rcases construct.attempt_cases desk.cursor desk.report with
    ⟨hnone, hrefused⟩ | ⟨lexeme, hconstruct, hfront, hoverflow | haccepted⟩
  · rw [hrefused]
    exact .inl ⟨hnone, rfl⟩
  · refine .inr ⟨lexeme, hconstruct, hfront, .inl ?_⟩
    generalize construct.attempt desk.cursor desk.report = attempted at hoverflow
    obtain ⟨result, report⟩ := attempted
    obtain rfl : result = .error .overflow := hoverflow
    rfl
  · rw [haccepted]
    exact .inr ⟨lexeme, hconstruct, hfront, .inr rfl⟩

lemma disposition_eq_elide_iff_mem {construct : Construct} :
    construct.disposition = .elide ↔ construct ∈ [whitespace, lineComment, blockComment] := by
  cases construct <;> simp [disposition]

end Construct

/-- Only a name has diagnostics. -/
lemma Lexeme.diagnostics_eq_nil {lexeme : Lexeme} (h : lexeme.construct ≠ .nonTerminal)
    (file : FileName) (line : Nat) : lexeme.diagnostics file line = [] := by
  cases lexeme with
  | nonTerminal name => exact absurd rfl h
  | _ => rfl

/-- What an attempt that has accepted has done to a desk. Whatever is not said to have changed is as it
was. -/
structure Construct.HasAccepted (construct : Construct) (before after : Desk)
    (disposition : Disposition) (token : Token) : Prop where
  source_eq : after.cursor.source = before.cursor.source
  mark_eq : after.cursor.mark = before.cursor.mark
  /-- The cursor has gone over some text. -/
  exists_piece : ∃ piece, piece ≠ [] ∧ before.cursor.rest = piece ++ after.cursor.rest ∧
    after.cursor.offset = before.cursor.offset + byteLength piece
  span_eq : token.span = ⟨before.cursor.offset, after.cursor.offset⟩
  line_eq : token.line = before.cursor.line
  column_eq : token.column = before.cursor.column
  elide_iff_isTrivia : disposition = .elide ↔ token.kind.isTrivia = true
  elide_iff_mem : disposition = .elide ↔ construct ∈ [.whitespace, .lineComment, .blockComment]
  /-- Entries have been added to the report, and only on a name. -/
  exists_found : ∃ found, after.report.toList = before.report.toList ++ found ∧
    (construct ≠ .nonTerminal → found = [])

/-- An attempt that refuses leaves the desk as it was. One that accepts has moved the cursor over some text
and may have added to the report, with a token for that text, and has done nothing else. -/
theorem Construct.attemptOn_atomic (construct : Construct) (desk : Desk) :
    ((construct.attemptOn.on desk).1 = .ok none → (construct.attemptOn.on desk).2 = desk) ∧
      ∀ disposition token, (construct.attemptOn.on desk).1 = .ok (some (disposition, token)) →
        construct.HasAccepted desk (construct.attemptOn.on desk).2 disposition token := by
  rcases construct.attemptOn_cases desk with
    ⟨-, hrefused⟩ | ⟨lexeme, rfl, hfront, hoverflow | haccepted⟩
  · rw [hrefused]
    refine ⟨fun _ => rfl, ?_⟩
    intro disposition token haccepted
    cases haccepted
  · rw [hoverflow]
    constructor
    · intro hrefused
      cases hrefused
    · intro disposition token haccepted
      cases haccepted
  · rw [haccepted]
    constructor
    · intro hrefused
      cases hrefused
    · rintro disposition token ⟨⟩
      obtain ⟨-, left, hrest, -⟩ := id hfront
      have hleft : desk.cursor.rest = lexeme.spelling ++ (desk.cursor.past lexeme.spelling).rest := by
        rw [Cursor.past_rest hrest, hrest]
      exact
        { source_eq := rfl
          mark_eq := rfl
          exists_piece := ⟨lexeme.spelling, hfront.spelling_ne_nil, hleft, rfl⟩
          span_eq := rfl
          line_eq := rfl
          column_eq := rfl
          elide_iff_isTrivia := Lexeme.disposition_eq_elide_iff
          elide_iff_mem := Construct.disposition_eq_elide_iff_mem
          exists_found := ⟨_, Report.toList_extend _ _, fun hconstruct =>
            Lexeme.diagnostics_eq_nil hconstruct _ _⟩ }

/-- A name with a space in it, once without its closing bracket. -/
theorem Construct.attemptOn_atomic_open_name :
    let opened : Desk := ⟨(Cursor.start ⟨⟨"names.ebnf"⟩, "<a b;"⟩).marked .elide, Report.empty⟩
    let closed : Desk := ⟨(Cursor.start ⟨⟨"names.ebnf"⟩, "<a b>;"⟩).marked .elide, Report.empty⟩
    let token : Token := ⟨.nonTerminal, "a b", ⟨0, 5⟩, 1, 1, false⟩
    (Construct.nonTerminal.attemptOn.on opened).1 = .ok none ∧
      (Construct.nonTerminal.attemptOn.on opened).2 = opened ∧
      (Construct.nonTerminal.attemptOn.on closed).1 = .ok (some (.yield, token)) ∧
      Construct.nonTerminal.HasAccepted closed (Construct.nonTerminal.attemptOn.on closed).2
        .yield token := by
  intro opened closed token
  have hrefused : (Construct.nonTerminal.attemptOn.on opened).1 = .ok none := by
    rw [Construct.on_attemptOn]
    rfl
  have haccepted : (Construct.nonTerminal.attemptOn.on closed).1 =
      .ok (some (.yield, token)) := by
    rw [Construct.on_attemptOn]
    rfl
  exact ⟨hrefused, (Construct.attemptOn_atomic _ opened).1 hrefused, haccepted,
    (Construct.attemptOn_atomic _ closed).2 _ _ haccepted⟩

end GrammarScan
