import GrammarScan.Proofs.Grammar.Readings
import GrammarScan.Proofs.Scanner.Failures
import GrammarScan.Proofs.Scanner.InPlace

/-!
# What a scan makes of a reading

A scan is determined by the reading of its text in full.  Each lexeme of the reading has a token
(`PlacedLexeme.token`) and diagnostics (`PlacedLexeme.diagnostics`), which depend on the text in front of
it only, and the rest of the reading decides how the scan ends (`Failure.before?`).

`ReadsInFull.tokenization_eq` and `ReadsInFull.report_eq` are the main statements: the tokens of a scan
are those of the lexemes, without trivia unless trivia is kept, its report has the diagnostics of all of
them and the failure, and nothing else has an influence on the two.  How scans of different texts or with
different settings compare is therefore a question about readings.  As for coverage, the text is taken to
have fewer than `maxIndex` bytes.
-/

namespace GrammarScan

open Lexeme (spellings placedBehind significantBehind)

namespace PlacedLexeme

/-- The token of a lexeme in its place. -/
def token (placed : PlacedLexeme) : Token where
  kind := placed.lexeme.kind
  text := String.ofList placed.lexeme.payload
  span := ⟨Text.byteLength placed.before, Text.byteLength (placed.before ++ placed.lexeme.spelling)⟩
  line := 1 + Text.lineFeeds placed.before
  column := Text.columnAfter 1 placed.before
  wellFormed := placed.lexeme.wellFormed

/-- The event that records the token of a lexeme in its place. -/
def yielding (placed : PlacedLexeme) : Event :=
  .tokenYielded placed.token.kind placed.token.line placed.token.column

/-- The diagnostics for a lexeme in its place in a file. -/
def diagnostics (file : FileName) (placed : PlacedLexeme) : List Diagnostic :=
  placed.lexeme.diagnostics file (1 + Text.lineFeeds placed.before)

end PlacedLexeme

/-- Whether a scan yields the token of a lexeme. -/
def Settings.yields (settings : Settings) (placed : PlacedLexeme) : Bool :=
  settings.keepTrivia || placed.isSignificant

/-- The failure of a scan in front of a rest that starts with no lexeme; at the end of the text there is
none. -/
def Failure.before? (file : FileName) (previewLength : Nat) (read : List Char) :
    List Char → Option Failure
  | [] => none
  | symbol :: left =>
    some ⟨file, 1 + Text.lineFeeds read, causeAt symbol, quotation previewLength (symbol :: left)⟩

/-- A failure without its quotation. -/
def Failure.unquoted (failure : Failure) : Failure :=
  { failure with preview := "" }

/-- The end of a scan that a failure stopped, if one did. -/
def Ending.ofFailure? : Option Failure → Ending
  | none => .complete
  | some failure => .failed failure

lemma Cursor.StandsBehind.tokenOf_eq_token {cursor : Cursor} {before : List Char}
    (h : cursor.StandsBehind before) (lexeme : Lexeme) :
    cursor.tokenOf lexeme = (PlacedLexeme.mk before lexeme).token := by
  simp only [Cursor.tokenOf, Lexeme.token, PlacedLexeme.token, Cursor.past_offset, h.offset_eq,
    h.line_eq, h.column_eq, Text.byteLength_append]

namespace Scanner

variable {scanner after : Scanner} {journal later : Journal} {token : Token}

/-! ## Draining step by step -/

lemma drain_of_next_eq {other : Scanner} {written : Journal}
    (h : scanner.next journal = other.next written) : scanner.drain journal = other.drain written := by
  rcases hnext : other.next written with ⟨answer, after, later⟩
  cases answer with
  | token token => rw [drain_of_next_token hnext, drain_of_next_token (h.trans hnext)]
  | stop ending => rw [drain_of_next_stop hnext, drain_of_next_stop (h.trans hnext)]

lemma drain_of_step_passed (h : scanner.step journal = ⟨.token token, after, later⟩)
    (hpasses : after.passesOver = true) : scanner.drain journal = after.drain later := by
  refine drain_of_next_eq ?_
  rw [next_of_step_token h, if_pos hpasses]

lemma drain_of_step_yielded (h : scanner.step journal = ⟨.token token, after, later⟩)
    (hkeeps : ¬ after.passesOver = true) (hcount : after.yielded < maxIndex) :
    let recorded := later.record (.tokenYielded token.kind token.line token.column)
    scanner.drain journal =
      { after.counted.drain recorded with
        result := (after.counted.drain recorded).result.cons token } := by
  refine drain_of_next_token ?_
  rw [next_of_step_token h, if_neg hkeeps, yield, if_pos hcount]
  rfl

namespace HasRead

variable {source : Source} {settings : Settings} {before : List Char} {lexeme : Lexeme}

/-- The lexeme at the front is read next. -/
lemma step_of_isAtFrontOf (h : scanner.HasRead source settings before)
    (hphase : scanner.phase = .scanning) (hlength : source.length < maxIndex)
    (hfront : lexeme.IsAtFrontOf scanner.cursor.rest) (journal : Journal) :
    ∃ later,
      scanner.step journal =
          ⟨.token (PlacedLexeme.mk before lexeme).token, scanner.behind lexeme, later⟩ ∧
        later.report.toList =
          journal.report.toList ++ (PlacedLexeme.mk before lexeme).diagnostics source.file := by
  have hsteps := scanner.step_steps journal
  generalize scanner.step journal = progress at hsteps ⊢
  cases hsteps with
  | ended hover => exact absurd hphase hover
  | finish _ hrest =>
    rw [hrest] at hfront
    exact absurd hfront lexeme.not_isAtFrontOf_nil
  | read found later _ hfound hreport =>
    obtain rfl := hfront.unique hfound
    have hfile : scanner.cursor.file = source.file := congrArg Source.file h.source_eq
    refine ⟨later, ?_, ?_⟩
    · rw [h.standsBehind.tokenOf_eq_token]
    · rw [hreport, Report.toList_extend, hfile, h.standsBehind.line_eq]
      rfl
  | fail symbol left later _ hrest hnone hreport => exact absurd hfront (hnone lexeme)
  | overflow found later _ hfound hreport hroom =>
    exact absurd (h.not_overflow hfound hroom) (not_le.2 hlength)

/-- The lexeme at the front is read next, and its token is yielded unless it is passed over. -/
lemma drain_of_isAtFrontOf (h : scanner.HasRead source settings before)
    (hphase : scanner.phase = .scanning) (hlength : source.length < maxIndex)
    (hfront : lexeme.IsAtFrontOf scanner.cursor.rest) (journal : Journal) :
    ∃ (after : Scanner) (later : Journal),
      after.phase = .scanning ∧
        after.HasRead source settings (before ++ lexeme.spelling) ∧
        after.expected = scanner.expected.map (fun _ => lexeme.construct.followers) ∧
        later.report.toList =
          journal.report.toList ++ (PlacedLexeme.mk before lexeme).diagnostics source.file ∧
        later.trace.toList = (scanner.step journal).journal.trace.toList ++
          (if settings.yields ⟨before, lexeme⟩ then [(PlacedLexeme.mk before lexeme).yielding]
            else []) ∧
        scanner.drain journal =
          { after.drain later with
            result :=
              if settings.yields ⟨before, lexeme⟩ then
                (after.drain later).result.cons (PlacedLexeme.mk before lexeme).token
              else (after.drain later).result } := by
  have hread := h.behind hphase hfront
  obtain ⟨later, hstep, hreport⟩ := h.step_of_isAtFrontOf hphase hlength hfront journal
  have hyields : settings.yields ⟨before, lexeme⟩ = !(scanner.behind lexeme).passesOver := by
    rw [Bool.eq_iff_iff, Settings.yields, Bool.not_eq_true', ← Bool.not_eq_true,
      behind_passesOver_iff, h.settings_eq]
    simp [PlacedLexeme.isSignificant, or_comm, imp_iff_not_or]
  by_cases hpasses : (scanner.behind lexeme).passesOver = true
  · have hdrops : settings.yields ⟨before, lexeme⟩ = false := by
      rw [hyields, hpasses]
      rfl
    refine ⟨scanner.behind lexeme, later, hphase, hread, rfl, hreport, ?_, ?_⟩
    · rw [hstep, hdrops]
      exact (List.append_nil _).symm
    · rw [drain_of_step_passed hstep hpasses, hdrops]
      rfl
  · have hkeeps : settings.yields ⟨before, lexeme⟩ = true := by
      rw [hyields, eq_false_of_ne_true hpasses]
      rfl
    have hcount : (scanner.behind lexeme).yielded < maxIndex := by
      have hyielded : scanner.yielded ≤ source.length := h.yielded_le.trans h.length_le
      exact hyielded.trans_lt hlength
    refine ⟨(scanner.behind lexeme).counted, later.record (PlacedLexeme.mk before lexeme).yielding,
      hphase, h.behind_yielded hphase hfront, rfl, hreport, ?_, ?_⟩
    · rw [hstep, hkeeps]
      exact Array.toList_push
    · rw [drain_of_step_yielded hstep hpasses hcount, hkeeps]
      rfl

/-- Where no lexeme can be read, the scan ends. -/
lemma drain_of_not_isAtFrontOf (h : scanner.HasRead source settings before)
    (hphase : scanner.phase = .scanning)
    (hnone : ∀ lexeme : Lexeme, ¬ lexeme.IsAtFrontOf scanner.cursor.rest) (journal : Journal) :
    let failure? := Failure.before? source.file settings.previewLength before scanner.cursor.rest
    (scanner.drain journal).result = ⟨[], .ofFailure? failure?⟩ ∧
      (scanner.drain journal).journal.report.toList =
        journal.report.toList ++ (failure?.map Failure.diagnostic).toList := by
  have hsteps := scanner.step_steps journal
  generalize hstep : scanner.step journal = progress at hsteps
  cases hsteps with
  | ended hover => exact absurd hphase hover
  | finish _ hrest =>
    rw [drain_of_next_stop (next_of_step_stop hstep), hrest]
    exact ⟨rfl, (List.append_nil _).symm⟩
  | read lexeme later _ hfront hreport => exact absurd hfront (hnone lexeme)
  | fail symbol left later _ hrest _ hreport =>
    have hfailure : Failure.before? source.file settings.previewLength before scanner.cursor.rest =
        some ⟨scanner.cursor.file, scanner.cursor.line, Failure.causeAt symbol, scanner.preview⟩ := by
      rw [hrest, Failure.before?, h.standsBehind.line_eq, preview_eq_quotation, h.settings_eq, hrest,
        ← h.source_eq]
      rfl
    rw [drain_of_next_stop (next_of_step_stop hstep), hfailure]
    refine ⟨rfl, ?_⟩
    show (later.report.push _).toList = _
    rw [Report.toList_push, hreport]
    rfl
  | overflow lexeme later _ hfront hreport hroom => exact absurd hfront (hnone lexeme)

/-- A scan yields the tokens of a reading of what is left, reports on its lexemes, and ends in front
of its rest. -/
theorem drain_of_readsInFull (h : scanner.HasRead source settings before)
    (hphase : scanner.phase = .scanning) (hlength : source.length < maxIndex) {text rest : List Char}
    {lexemes : List Lexeme} (htext : scanner.cursor.rest = text)
    (hreads : ReadsInFull text lexemes rest) (journal : Journal) :
    let placed := placedBehind before lexemes
    let failure? :=
      Failure.before? source.file settings.previewLength (before ++ spellings lexemes) rest
    (scanner.drain journal).result =
        ⟨(placed.filter settings.yields).map PlacedLexeme.token, .ofFailure? failure?⟩ ∧
      (scanner.drain journal).journal.report.toList =
        journal.report.toList ++ placed.flatMap (·.diagnostics source.file) ++
          (failure?.map Failure.diagnostic).toList := by
  obtain ⟨hreads, hnone⟩ := hreads
  induction hreads generalizing scanner before journal with
  | none text =>
    subst htext
    have hnil : before ++ spellings [] = before := List.append_nil before
    rw [hnil]
    simpa [placedBehind] using h.drain_of_not_isAtFrontOf hphase hnone journal
  | @read lexeme lexemes text rest hproper hends hlater ih =>
    have hfront : lexeme.IsAtFrontOf scanner.cursor.rest := ⟨hproper, text, htext, hends⟩
    obtain ⟨after, later, hscanning, hread, -, hreport, -, hdrain⟩ :=
      h.drain_of_isAtFrontOf hphase hlength hfront journal
    have hafter : after.cursor.rest = text := by
      refine hread.rest_eq ?_
      rw [h.text_eq, htext, List.append_assoc]
    obtain ⟨hlaterResult, hlaterReport⟩ := ih hread hscanning hafter later hnone
    have hspellings : before ++ spellings (lexeme :: lexemes) =
        before ++ lexeme.spelling ++ spellings lexemes := (List.append_assoc _ _ _).symm
    rw [hspellings, placedBehind, hdrain]
    dsimp only
    refine ⟨?_, ?_⟩
    · rw [hlaterResult]
      split_ifs with hyields
      · rw [List.filter_cons_of_pos hyields]
        rfl
      · rw [List.filter_cons_of_neg hyields]
    · rw [hlaterReport, hreport, List.flatMap_cons, List.append_assoc journal.report.toList]

end HasRead

end Scanner

/-! ## Whole scans -/

/-- Trivia has no diagnostics. -/
lemma flatMap_diagnostics_placedBehind (file : FileName) (before : List Char)
    (lexemes : List Lexeme) :
    (placedBehind before lexemes).flatMap (·.diagnostics file) =
      (significantBehind before lexemes).flatMap (·.diagnostics file) := by
  unfold significantBehind
  induction placedBehind before lexemes with
  | nil => rfl
  | cons placed others ih =>
    rw [List.flatMap_cons, ih]
    by_cases hsignificant : placed.isSignificant = true
    · rw [List.filter_cons_of_pos hsignificant, List.flatMap_cons]
    · have htrivia : placed.lexeme.kind.isTrivia = true := by
        simpa [PlacedLexeme.isSignificant] using hsignificant
      rw [List.filter_cons_of_neg hsignificant, PlacedLexeme.diagnostics,
        Lexeme.diagnostics_of_isTrivia htrivia, List.nil_append]

lemma Lexeme.severity_of_mem_diagnostics {lexeme : Lexeme} {file : FileName} {line : Nat}
    {diagnostic : Diagnostic} (h : diagnostic ∈ lexeme.diagnostics file line) :
    diagnostic.severity = .recoverable := by
  rw [← lexeme.diagnostics_extent, Extent.diagnostics] at h
  obtain ⟨defect, -, rfl⟩ := List.mem_map.1 h
  rfl

/-- The recoverable findings of a report. -/
def Report.recoverable (report : Report) : List Diagnostic :=
  report.toList.filter (·.severity = .recoverable)

namespace ReadsInFull

variable {source : Source} {lexemes : List Lexeme} {rest : List Char}

/-- A scan yields the tokens of a reading of its text and ends in front of its rest. -/
theorem tokenization_eq (h : ReadsInFull source.text.toList lexemes rest)
    (hlength : source.length < maxIndex) (settings : Settings) (journal : Journal) :
    (source.tokenize settings journal).1 =
      ⟨((placedBehind [] lexemes).filter settings.yields).map PlacedLexeme.token,
        .ofFailure?
          (Failure.before? source.file settings.previewLength (spellings lexemes) rest)⟩ := by
  have hstart := Scanner.hasRead_start source settings
    (journal.record (.sourceEntered source.file source.length))
  exact (hstart.drain_of_readsInFull rfl hlength rfl h _).1

/-- A scan reports on the lexemes of a reading of its text and on the failure in front of its rest. -/
theorem report_eq (h : ReadsInFull source.text.toList lexemes rest)
    (hlength : source.length < maxIndex) (settings : Settings) (journal : Journal) :
    (source.tokenize settings journal).2.report.toList =
      journal.report.toList ++ (significantBehind [] lexemes).flatMap (·.diagnostics source.file) ++
        ((Failure.before? source.file settings.previewLength (spellings lexemes) rest).map
          Failure.diagnostic).toList := by
  have hstart := Scanner.hasRead_start source settings
    (journal.record (.sourceEntered source.file source.length))
  rw [← flatMap_diagnostics_placedBehind]
  exact (hstart.drain_of_readsInFull rfl hlength rfl h _).2

lemma failure?_eq (h : ReadsInFull source.text.toList lexemes rest)
    (hlength : source.length < maxIndex) (settings : Settings) (journal : Journal) :
    (source.tokenize settings journal).1.failure? =
      Failure.before? source.file settings.previewLength (spellings lexemes) rest := by
  rw [h.tokenization_eq hlength]
  cases rest <;> rfl

/-- A scan that passes over trivia yields the tokens of the other lexemes. -/
lemma elided_tokens_eq (h : ReadsInFull source.text.toList lexemes rest)
    (hlength : source.length < maxIndex) {settings : Settings} (hdrop : settings.keepTrivia = false)
    (journal : Journal) :
    (source.tokenize settings journal).1.tokens =
      (significantBehind [] lexemes).map PlacedLexeme.token := by
  have hyields : settings.yields = (·.isSignificant) := by
    funext placed
    rw [Settings.yields, hdrop, Bool.false_or]
  rw [h.tokenization_eq hlength, hyields]
  rfl

/-- A scan that keeps trivia yields the tokens of all lexemes. -/
lemma kept_tokens_eq (h : ReadsInFull source.text.toList lexemes rest)
    (hlength : source.length < maxIndex) {settings : Settings} (hkeep : settings.keepTrivia = true)
    (journal : Journal) :
    (source.tokenize settings journal).1.tokens =
      (placedBehind [] lexemes).map PlacedLexeme.token := by
  have hyields : ∀ placed ∈ placedBehind [] lexemes, settings.yields placed = true := by
    intro placed hplaced
    rw [Settings.yields, hkeep, Bool.true_or]
  rw [h.tokenization_eq hlength]
  exact congrArg (List.map PlacedLexeme.token) (List.filter_eq_self.2 hyields)

/-- The recoverable findings of a scan are the diagnostics of its lexemes. -/
lemma recoverable_eq (h : ReadsInFull source.text.toList lexemes rest)
    (hlength : source.length < maxIndex) (settings : Settings) (journal : Journal) :
    (source.tokenize settings journal).2.report.recoverable =
      journal.report.recoverable ++
        (significantBehind [] lexemes).flatMap (·.diagnostics source.file) := by
  have hown : ∀ diagnostic ∈ (significantBehind [] lexemes).flatMap (·.diagnostics source.file),
      decide (diagnostic.severity = .recoverable) = true := by
    intro diagnostic hdiagnostic
    obtain ⟨placed, -, hplaced⟩ := List.mem_flatMap.1 hdiagnostic
    exact decide_eq_true (Lexeme.severity_of_mem_diagnostics hplaced)
  have hfatal : ∀ failure? : Option Failure,
      ((failure?.map Failure.diagnostic).toList.filter (·.severity = .recoverable)) = [] := by
    intro failure?
    cases failure? <;> rfl
  rw [Report.recoverable, h.report_eq hlength, List.filter_append, List.filter_append, hfatal,
    List.append_nil, List.filter_eq_self.2 hown]
  rfl

end ReadsInFull

end GrammarScan
