import GrammarScan.Proofs.Grammar.Kinds
import GrammarScan.Proofs.Scanner.Invariant

/-!
# What a request passes over

A request passes over trivia, any number of lexemes of it and only where trivia is not kept, and then
ends with one more step: this is `exists_passes_next`.  The steps that pass over something change
the cursor and the expectations and nothing else that anyone could see (`Passes.report_eq`), so what
a request comes to is what its last step comes to.
-/

namespace GrammarScan

/-- Trivia has nothing that could be reported. -/
lemma Lexeme.diagnostics_of_isTrivia {lexeme : Lexeme} (h : lexeme.kind.isTrivia = true)
    (file : FileName) (line : Nat) : lexeme.diagnostics file line = [] := by
  cases lexeme with
  | nonTerminal name => simp [kind, Kind.isTrivia] at h
  | _ => rfl

namespace Scanner

/-- A scanner gets from one state to another by passing over trivia. -/
inductive Passes : Scanner → Journal → Scanner → Journal → Prop
  | refl (scanner : Scanner) (journal : Journal) : Passes scanner journal scanner journal
  | pass {scanner last : Scanner} {journal later reached : Journal} (lexeme : Lexeme)
      (hphase : scanner.phase = .scanning) (hfront : lexeme.IsAtFrontOf scanner.cursor.rest)
      (hreport : later.report =
        journal.report.extend (lexeme.diagnostics scanner.cursor.file scanner.cursor.line))
      (htrivia : lexeme.kind.isTrivia = true) (hkeep : scanner.settings.keepTrivia = false)
      (h : Passes (scanner.behind lexeme) later last reached) :
      Passes scanner journal last reached

/-- What the last step of a request comes to. -/
inductive Closes (scanner : Scanner) (journal : Journal) : Progress Answer → Prop
  /-- The lexeme at the front is read and not passed over. -/
  | yield (lexeme : Lexeme) (later : Journal) (hphase : scanner.phase = .scanning)
      (hfront : lexeme.IsAtFrontOf scanner.cursor.rest)
      (hreport : later.report =
        journal.report.extend (lexeme.diagnostics scanner.cursor.file scanner.cursor.line))
      (hkept : lexeme.kind.isTrivia = true → scanner.settings.keepTrivia = true) :
      Closes scanner journal
        ((scanner.behind lexeme).yield (scanner.cursor.tokenOf lexeme) later)
  /-- Nothing is read. -/
  | stop (ending : Ending) (after : Scanner) (later : Journal)
      (hsteps : scanner.Steps journal ⟨.stop ending, after, later⟩) :
      Closes scanner journal ⟨.stop ending, after, later⟩

variable {scanner last : Scanner} {journal reached : Journal} {lexeme : Lexeme}

/-- A lexeme is passed over exactly if it is trivia and trivia is not kept. -/
lemma behind_passesOver_iff :
    (scanner.behind lexeme).passesOver = true ↔
      lexeme.kind.isTrivia = true ∧ scanner.settings.keepTrivia = false := by
  have hmark : (scanner.behind lexeme).cursor.mark = some lexeme.construct.disposition := rfl
  have hsettings : (scanner.behind lexeme).settings = scanner.settings := rfl
  rw [passesOver, hmark, hsettings, ← Lexeme.disposition_eq_elide_iff]
  simp

/-- A request passes over trivia and ends with one more step. -/
theorem exists_passes_next (scanner : Scanner) (journal : Journal) :
    ∃ last reached, scanner.Passes journal last reached ∧
      last.Closes reached (scanner.next journal) := by
  fun_induction Scanner.next scanner journal with
  | case1 scanner journal token after later hstep hskip ih =>
    obtain ⟨last, reached, hpasses, hcloses⟩ := ih
    have hsteps := scanner.step_steps journal
    rw [hstep] at hsteps
    cases hsteps with
    | read lexeme _ hphase hfront hreport =>
      obtain ⟨htrivia, hkeep⟩ := behind_passesOver_iff.1 hskip
      exact ⟨last, reached, .pass lexeme hphase hfront hreport htrivia hkeep hpasses, hcloses⟩
  | case2 scanner journal token after later hstep hkeep =>
    have hsteps := scanner.step_steps journal
    rw [hstep] at hsteps
    cases hsteps with
    | read lexeme _ hphase hfront hreport =>
      refine ⟨scanner, journal, .refl scanner journal, .yield lexeme later hphase hfront hreport ?_⟩
      intro htrivia
      by_contra hdrop
      exact hkeep (behind_passesOver_iff.2 ⟨htrivia, by simpa using hdrop⟩)
  | case3 scanner journal ending after later hstep =>
    have hsteps := scanner.step_steps journal
    rw [hstep] at hsteps
    exact ⟨scanner, journal, .refl scanner journal, .stop ending after later hsteps⟩

namespace Passes

lemma phase_eq (h : scanner.Passes journal last reached) : last.phase = scanner.phase := by
  induction h with
  | refl => rfl
  | pass lexeme hphase hfront hreport htrivia hkeep h ih => exact ih

/-- Passing over trivia reports nothing. -/
theorem report_eq (h : scanner.Passes journal last reached) : reached.report = journal.report := by
  induction h with
  | refl => rfl
  | pass lexeme hphase hfront hreport htrivia hkeep h ih =>
    rw [ih, hreport, Lexeme.diagnostics_of_isTrivia htrivia, Report.extend_nil]

/-- Passing over trivia keeps the invariant of a scan. -/
theorem hasRead (h : scanner.Passes journal last reached) {source : Source} {settings : Settings}
    {before : List Char} (hread : scanner.HasRead source settings before) :
    ∃ passed, last.HasRead source settings (before ++ passed) := by
  induction h generalizing before with
  | refl scanner journal => exact ⟨[], by rwa [List.append_nil]⟩
  | pass lexeme hphase hfront hreport htrivia hkeep h ih =>
    obtain ⟨passed, hlast⟩ := ih (hread.behind hphase hfront)
    exact ⟨lexeme.spelling ++ passed, by rwa [← List.append_assoc]⟩

end Passes

lemma yield_eq_token {token read : Token} (h : (scanner.yield token journal).result = .token read) :
    read = token ∧ scanner.yield token journal =
      ⟨.token token, { scanner with yielded := scanner.yielded + 1 },
        journal.record (.tokenYielded token.kind token.line token.column)⟩ := by
  unfold yield at h ⊢
  split
  · rename_i hcount
    rw [if_pos hcount] at h
    exact ⟨(Answer.token.inj h).symm, rfl⟩
  · rename_i hcount
    simp [hcount] at h

lemma yield_eq_stop {token : Token} {ending : Ending}
    (h : (scanner.yield token journal).result = .stop ending) :
    ending = .broken .overflow ∧ maxIndex ≤ scanner.yielded := by
  unfold yield at h
  split at h
  · simp at h
  · rename_i hcount
    exact ⟨(Answer.stop.inj h).symm, not_lt.1 hcount⟩

/-! ## What a request comes to -/

/-- A request that yields a token has read one lexeme behind the trivia, and reported on this one
only. -/
structure Yields (scanner : Scanner) (journal : Journal) (source : Source) (settings : Settings)
    (before : List Char) (token : Token) (passed : List Char) (cursor : Cursor)
    (lexeme : Lexeme) : Prop where
  standsBehind : cursor.StandsBehind (before ++ passed)
  source_eq : cursor.source = source
  isAtFrontOf : lexeme.IsAtFrontOf cursor.rest
  token_eq : token = cursor.tokenOf lexeme
  kept : lexeme.kind.isTrivia = true → settings.keepTrivia = true
  report_eq : (scanner.next journal).journal.report =
    journal.report.extend (lexeme.diagnostics source.file cursor.line)
  phase_eq : (scanner.next journal).scanner.phase = .scanning
  hasRead : (scanner.next journal).scanner.HasRead source settings
    (before ++ passed ++ lexeme.spelling)

/-- How a request ends a scan: at the end of the text, in front of what cannot be read, or because
the text is too long for its numbers. -/
inductive Stops (scanner : Scanner) (journal : Journal) (source : Source) (settings : Settings)
    (before : List Char) : Ending → Prop
  | complete (passed : List Char) (last : Scanner) (reached : Journal)
      (hrest : last.cursor.rest = []) (hreport : reached.report = journal.report)
      (hread : last.HasRead source settings (before ++ passed))
      (hnext : scanner.next journal = last.finish reached) :
      Stops scanner journal source settings before .complete
  | failed (passed : List Char) (last : Scanner) (reached : Journal) (symbol : Char)
      (left : List Char) (hrest : last.cursor.rest = symbol :: left)
      (hnone : ∀ lexeme : Lexeme, ¬ lexeme.IsAtFrontOf last.cursor.rest)
      (hreport : reached.report = journal.report)
      (hread : last.HasRead source settings (before ++ passed))
      (hnext : scanner.next journal = last.fail (Failure.causeAt symbol) reached) :
      Stops scanner journal source settings before
        (.failed ⟨last.cursor.file, last.cursor.line, Failure.causeAt symbol, last.preview⟩)
  | broken (hlength : maxIndex ≤ source.length) :
      Stops scanner journal source settings before (.broken .overflow)

namespace HasRead

variable {source : Source} {settings : Settings} {before : List Char}

theorem exists_yields (h : scanner.HasRead source settings before) {token : Token}
    (htoken : (scanner.next journal).result = .token token) :
    ∃ passed cursor lexeme,
      scanner.Yields journal source settings before token passed cursor lexeme := by
  obtain ⟨last, reached, hpasses, hcloses⟩ := scanner.exists_passes_next journal
  obtain ⟨passed, hlast⟩ := hpasses.hasRead h
  have hreported : reached.report = journal.report := hpasses.report_eq
  generalize hnext : scanner.next journal = progress at hcloses htoken
  cases hcloses with
  | yield lexeme later hphase hfront hreport hkept =>
    obtain ⟨rfl, hyield⟩ := yield_eq_token htoken
    rw [hyield] at hnext
    refine ⟨passed, last.cursor, lexeme, hlast.standsBehind, hlast.source_eq, hfront, rfl, ?_, ?_,
      ?_, ?_⟩
    · rw [← hlast.settings_eq]
      exact hkept
    · rw [hnext, ← hreported, ← hlast.source_eq]
      exact hreport
    · rw [hnext]
      exact hphase
    · rw [hnext]
      exact hlast.behind_yielded hphase hfront
  | stop => simp at htoken

theorem next_stops (h : scanner.HasRead source settings before) (hphase : scanner.phase = .scanning)
    {ending : Ending} (hstop : (scanner.next journal).result = .stop ending) :
    scanner.Stops journal source settings before ending := by
  obtain ⟨last, reached, hpasses, hcloses⟩ := scanner.exists_passes_next journal
  obtain ⟨passed, hlast⟩ := hpasses.hasRead h
  have hreported : reached.report = journal.report := hpasses.report_eq
  have hscanning : last.phase = .scanning := hpasses.phase_eq.trans hphase
  generalize hnext : scanner.next journal = progress at hcloses hstop
  cases hcloses with
  | yield lexeme later _ hfront hreport hkept =>
    obtain ⟨rfl, hcount⟩ := yield_eq_stop hstop
    have hyielded : last.yielded ≤ source.length := hlast.yielded_le.trans hlast.length_le
    exact .broken (hcount.trans hyielded)
  | stop other after later hsteps =>
    obtain rfl := Answer.stop.inj hstop
    cases hsteps with
    | ended hover => exact absurd hscanning hover
    | finish _ hrest => exact .complete passed last reached hrest hreported hlast hnext
    | fail symbol left earlier _ hrest hnone hreport =>
      exact .failed passed last earlier symbol left hrest hnone (hreport.trans hreported) hlast hnext
    | overflow lexeme _ _ hfront hreport hroom => exact .broken (hlast.not_overflow hfront hroom)

end HasRead

end Scanner

end GrammarScan
