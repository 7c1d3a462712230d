import GrammarScan.Proofs.Scanner.Findings
import GrammarScan.Proofs.Scanner.InPlace
import Mathlib.Data.List.Infix

/-!
# Names and what is wrong with them

A name in angle brackets is read whatever stands in it. `offendersIn` lists the characters of a name
that may not stand there, each with the part of the name before it, and `Diagnostic.onOffender` is
what is reported on one of them. The diagnostics for a name are those on its offenders
(`nameDiagnostics_eq_map_offendersIn`).

A scan in place goes through the name once, looks for its end, and on the way notes each defect with
the number of line feeds before it (`Sweep.throughName`). It reports nothing before it has found the
end. `Construct.attemptInPlace_nonTerminal` says, for every cursor and report, where the attempt at a
name accepts, what it reports, and what it comes to.
-/

namespace GrammarScan

/-! ## The offenders of a name -/

/-- The characters of a name that may not stand there, each behind the part of the name before it. -/
def offendersIn (name : List Char) : List (List Char × Char) :=
  (name.inits.zip name).filter (OffendsInName ·.2)

/-- The diagnostic on an offender in a name that starts on a given line of a file. -/
def Diagnostic.onOffender (file : FileName) (line : Nat) (offender : List Char × Char) :
    Diagnostic where
  file := file
  line := line + offender.1.count '\n'
  message :=
    if offender.2 = '\n' then "non-terminal cannot contain a line break"
    else "non-terminal cannot contain " ++ Text.quoteChar offender.2
  severity := .recoverable

lemma offendersIn_cons (c : Char) (name : List Char) :
    offendersIn (c :: name) =
      (if OffendsInName c then [([], c)] else []) ++
        (offendersIn name).map fun offender => (c :: offender.1, offender.2) := by
  have hlater : ((name.inits.map (c :: ·)).zip name).filter (OffendsInName ·.2) =
      (offendersIn name).map fun offender => (c :: offender.1, offender.2) := by
    rw [List.zip_map_left, List.filter_map]
    rfl
  rw [offendersIn, List.inits_cons, List.zip_cons_cons, List.filter_cons, hlater]
  by_cases hoffends : OffendsInName c
  · simp [hoffends]
  · simp [hoffends]

/-- A name is reported on offender by offender. -/
theorem nameDiagnostics_eq_map_offendersIn (file : FileName) (line : Nat) (name : List Char) :
    nameDiagnostics file line name =
      (offendersIn name).map (Diagnostic.onOffender file line) := by
  induction name generalizing line with
  | nil => rfl
  | cons c name ih =>
    have hlater : nameDiagnostics file (if c = '\n' then line + 1 else line) name =
        ((offendersIn name).map fun offender => (c :: offender.1, offender.2)).map
          (Diagnostic.onOffender file line) := by
      rw [ih, List.map_map]
      apply List.map_congr_left
      intro offender _
      have hline : (if c = '\n' then line + 1 else line) + offender.1.count '\n' =
          line + (c :: offender.1).count '\n' := by
        by_cases hfeed : c = '\n'
        · rw [if_pos hfeed, hfeed, List.count_cons_self]
          omega
        · rw [if_neg hfeed, List.count_cons_of_ne hfeed]
      simp only [Diagnostic.onOffender, Function.comp_apply, hline]
    unfold nameDiagnostics
    dsimp only
    rw [hlater, offendersIn_cons, List.map_append]
    by_cases hoffends : OffendsInName c
    · obtain ⟨defect, hdefect, hmessage⟩ := nameDefect?_of_offends hoffends
      rw [hdefect, if_pos hoffends]
      simp [Diagnostic.onOffender, hmessage]
    · rw [nameDefect?_of_not_offends hoffends, if_neg hoffends]
      rfl

/-- A name is well formed if it has no offenders. -/
lemma isEmpty_offendersIn (name : List Char) :
    (offendersIn name).isEmpty = (Lexeme.nonTerminal name).wellFormed := by
  induction name with
  | nil => rfl
  | cons c name ih =>
    have hsplit : (Lexeme.nonTerminal (c :: name)).wellFormed =
        ((nameDefect? c).isNone && (Lexeme.nonTerminal name).wellFormed) := rfl
    rw [hsplit, offendersIn_cons, ← ih]
    by_cases hoffends : OffendsInName c
    · obtain ⟨defect, hdefect, -⟩ := nameDefect?_of_offends hoffends
      simp [hoffends, hdefect]
    · simp [hoffends, nameDefect?_of_not_offends hoffends]

/-! ## The attempt at a name -/

/-- A name comes next, in angle brackets, and `left` behind it. A digit starts no name. -/
def Cursor.ShowsName (cursor : Cursor) (name left : List Char) : Prop :=
  cursor.rest = '<' :: (name ++ '>' :: left) ∧ '>' ∉ name ∧ ∀ c ∈ name.head?, c.isDigit = false

namespace Cursor.ShowsName

variable {cursor : Cursor} {name left : List Char}

lemma rest_eq (h : cursor.ShowsName name left) :
    cursor.rest = '<' :: (name ++ ['>']) ++ left := by
  rw [h.1]
  simp

lemma isAtFrontOf (h : cursor.ShowsName name left) :
    (Lexeme.nonTerminal name).IsAtFrontOf cursor.rest :=
  ⟨h.2, left, h.rest_eq, trivial⟩

end Cursor.ShowsName

/-- A lexeme of the construct shows as a name. -/
lemma Cursor.exists_showsName {cursor : Cursor} {lexeme : Lexeme}
    (hconstruct : lexeme.construct = .nonTerminal) (hfront : lexeme.IsAtFrontOf cursor.rest) :
    ∃ name left, cursor.ShowsName name left := by
  obtain ⟨hproper, left, hrest, -⟩ := hfront
  cases lexeme with
  | nonTerminal name => exact ⟨name, left, by simpa [Lexeme.spelling] using hrest, hproper⟩
  | symbol symbol => cases symbol <;> cases hconstruct
  | _ => cases hconstruct

namespace Construct

variable {cursor : Cursor} {name left : List Char}

/-- No name is read exactly where none comes next. -/
lemma read?_nonTerminal_eq_none_iff :
    nonTerminal.read? cursor.rest = none ↔ ¬ ∃ name left, cursor.ShowsName name left := by
  rw [read?_eq_none_iff]
  constructor
  · rintro hnot ⟨name, left, hshows⟩
    exact hnot _ rfl hshows.isAtFrontOf
  · intro hnone lexeme hconstruct hfront
    exact hnone (Cursor.exists_showsName hconstruct hfront)

/-- Where a name comes next, the attempt at it reports its offenders and moves behind it, unless a
number gets too large. -/
lemma attempt_of_showsName (h : cursor.ShowsName name left) (report : Report) :
    let found := (offendersIn name).map (Diagnostic.onOffender cursor.file cursor.line)
    let lexeme := '<' :: (name ++ ['>'])
    nonTerminal.attempt cursor report =
      if ∀ d ∈ found, d.line ≤ maxIndex then
        (if cursor.HasRoomFor lexeme then
            .ok (.accepted .yield (cursor.tokenOf (.nonTerminal name)) (cursor.past lexeme))
          else .error .overflow,
          report.extend found)
      else (.error .overflow, report.extend (found.takeWhile (·.line ≤ maxIndex))) := by
  intro found lexeme
  have hfound : (Lexeme.nonTerminal name).diagnostics cursor.file cursor.line = found :=
    nameDiagnostics_eq_map_offendersIn cursor.file cursor.line name
  rw [← hfound]
  exact attempt_of_isAtFrontOf h.isAtFrontOf report

end Construct

/-- The attempt at a name, in place or not, refuses unless a name comes next, and then it reports nothing.
If one comes next, the attempt reports each of its offenders, in order and on the line it stands on, and
moves behind the closing bracket: the name is the text of a token that is well formed if nothing was
reported, every line feed of the name counts as a line, and the column is counted from the last of them or
else goes on. It cannot do so if a number gets too large, which does not happen in a text that is not too
long. -/
theorem Construct.attemptInPlace_nonTerminal (cursor : Cursor) (report : Report) :
    let attempted := Construct.nonTerminal.attemptInPlace cursor report
    attempted = Construct.nonTerminal.attempt cursor report ∧
      (attempted.1 = .ok .refused ↔ ¬ ∃ name left, cursor.ShowsName name left) ∧
      (attempted.1 = .ok .refused → attempted.2 = report) ∧
      (∀ name left, cursor.ShowsName name left →
        let found := (offendersIn name).map (Diagnostic.onOffender cursor.file cursor.line)
        let lexeme := '<' :: (name ++ ['>'])
        let next := { cursor with
          rest := left
          offset := cursor.offset + Text.byteLength lexeme
          line := cursor.line + name.count '\n'
          column :=
            if '\n' ∈ name then 1 + (lexeme.rtakeWhile (· ≠ '\n')).length
            else cursor.column + lexeme.length }
        let token : Token := ⟨.nonTerminal, String.ofList name, ⟨cursor.offset, next.offset⟩,
          cursor.line, cursor.column, found.isEmpty⟩
        let fits := (∀ d ∈ found, d.line ≤ maxIndex) ∧ cursor.HasRoomFor lexeme
        cursor.rest = lexeme ++ left ∧
          (fits → attempted.1 = .ok (.accepted .yield token next) ∧
            attempted.2.toList = report.toList ++ found) ∧
          (¬ fits → attempted.1 = .error .overflow)) ∧
      ∀ before, cursor.StandsBehind before → cursor.source.length < maxIndex →
        ((∃ disposition token next, attempted.1 = .ok (.accepted disposition token next)) ↔
          ∃ name left, cursor.ShowsName name left) := by
  intro attempted
  have hattempt : attempted = Construct.nonTerminal.attempt cursor report := by
    show Construct.attemptInPlace _ _ _ = _
    rw [Construct.attemptInPlace_eq]
  refine ⟨hattempt, ?_, ?_, ?_, ?_⟩
  · rw [hattempt, Construct.attempt_eq_refused_iff]
    exact Construct.read?_nonTerminal_eq_none_iff
  · rw [hattempt, Construct.attempt_eq_refused_iff]
    intro hnone
    rw [Construct.attempt_of_read?_eq_none hnone]
  · intro name left hshows found lexeme next token fits
    have hrest : cursor.rest = lexeme ++ left := hshows.rest_eq
    have hcount : lexeme.count '\n' = name.count '\n' := by simp [lexeme]
    have hmem : '\n' ∈ lexeme ↔ '\n' ∈ name := by simp [lexeme]
    have hnext : cursor.past lexeme = next := by
      rw [Cursor.past_eq hrest, Text.lineFeeds, hcount]
      simp only [hmem, next]
    have hwellFormed : found.isEmpty = (Lexeme.nonTerminal name).wellFormed := by
      rw [← isEmpty_offendersIn, List.isEmpty_map]
    have htoken : cursor.tokenOf (.nonTerminal name) = token := by
      simp only [token, hwellFormed]
      rfl
    have hshown := Construct.attempt_of_showsName hshows report
    dsimp only at hshown
    refine ⟨hrest, ?_, ?_⟩
    · rintro ⟨hlines, hroom⟩
      rw [hattempt, hshown, if_pos hlines, if_pos hroom, hnext, htoken]
      exact ⟨rfl, Report.toList_extend report found⟩
    · intro hfits
      rw [hattempt, hshown]
      split_ifs with hlines hroom
      · exact absurd ⟨hlines, hroom⟩ hfits
      · rfl
      · rfl
  · intro before hstands hlength
    rw [hattempt, Construct.exists_accepted_iff hstands hlength, ne_eq,
      Construct.read?_nonTerminal_eq_none_iff, not_not]

/-- A name on the second line of a file with a wide character, a line feed and a question mark in it. -/
theorem Construct.attemptInPlace_nonTerminal_offenders :
    let source : Source := ⟨⟨"names.ebnf"⟩, "\n<é\n?>;"⟩
    let cursor := (Cursor.start source).past ['\n']
    let report := Report.empty.add source.file 1 "rule is never used"
    let attempted := Construct.nonTerminal.attemptInPlace cursor report
    cursor.ShowsName ['é', '\n', '?'] [';'] ∧ cursor.StandsBehind ['\n'] ∧
      source.length < maxIndex ∧
      (∃ disposition token next, attempted.1 = .ok (.accepted disposition token next)) ∧
      attempted.1 =
        .ok (.accepted .yield ⟨.nonTerminal, "é\n?", ⟨1, 7⟩, 2, 1, false⟩
          { cursor with rest := [';'], offset := 7, line := 3, column := 3 }) ∧
      attempted.2.toList = report.toList ++
        [⟨source.file, 2, "non-terminal cannot contain a line break", .recoverable⟩,
          ⟨source.file, 3, "non-terminal cannot contain '?'", .recoverable⟩] := by
  intro source cursor report attempted
  have hshows : cursor.ShowsName ['é', '\n', '?'] [';'] :=
    ⟨by decide, by decide, by simp⟩
  have hrest : (Cursor.start source).rest = ['\n'] ++ cursor.rest := by decide
  have hstands : cursor.StandsBehind ['\n'] := (Cursor.standsBehind_start source).past hrest
  have hlength : source.length < maxIndex := by decide
  obtain ⟨-, -, -, htaken, haccepts⟩ := Construct.attemptInPlace_nonTerminal cursor report
  obtain ⟨-, hfits, -⟩ := htaken ['é', '\n', '?'] [';'] hshows
  obtain ⟨hattempted, hreport⟩ := hfits ⟨by decide, by decide⟩
  exact ⟨hshows, hstands, hlength, (haccepts _ hstands hlength).2 ⟨_, _, hshows⟩, hattempted, hreport⟩

end GrammarScan
