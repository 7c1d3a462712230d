import GrammarScan.Proofs.Scanner.Readings

/-!
# Elision is filtering

Whether trivia is kept and how much a fatal message quotes makes no difference to what is read.  A
scan that passes over trivia yields what one that keeps it yields, without the trivia, although it
gets there in fewer requests; and the length of quotations is seen in quotations only.

Both follow from the reading of the text, which does not depend on the settings.  `tokenize_elision` is
the main statement.
-/

namespace GrammarScan

open Lexeme (placedBehind significantBehind)

/-- The length of a quotation makes no difference to anything else in a failure. -/
lemma Failure.map_unquoted_before? (file : FileName) (p q : Nat) (read rest : List Char) :
    (before? file p read rest).map unquoted = (before? file q read rest).map unquoted := by
  cases rest <;> rfl

/-- The tokens that are not trivia are those of the lexemes that are not. -/
lemma filter_map_token_placedBehind (before : List Char) (lexemes : List Lexeme) :
    ((placedBehind before lexemes).map PlacedLexeme.token).filter (!·.kind.isTrivia) =
      (significantBehind before lexemes).map PlacedLexeme.token :=
  List.filter_map

/-- A scan without trivia yields the tokens of a scan with trivia that are not trivia, reports the
same recoverable findings, and fails where the other does and for the same cause.  The lengths of
their quotations do not matter to this; if they are the same, failures and reports are equal. -/
theorem tokenize_elision (source : Source) (hlength : source.length < maxIndex)
    (settings : Settings) (journal : Journal) (p q : Nat) :
    let elided := source.tokenize ((settings.withTrivia false).withPreviewLength p) journal
    let kept := source.tokenize ((settings.withTrivia true).withPreviewLength q) journal
    elided.1.tokens = kept.1.tokens.filter (!·.kind.isTrivia) ∧
      elided.2.report.recoverable = kept.2.report.recoverable ∧
      elided.1.failure?.map Failure.unquoted = kept.1.failure?.map Failure.unquoted ∧
      (p = q → elided.1.failure? = kept.1.failure? ∧ elided.2.report = kept.2.report) := by
  intro elided kept
  obtain ⟨lexemes, rest, hreads⟩ := exists_readsInFull source.text.toList
  refine ⟨?_, ?_, ?_, ?_⟩
  · rw [hreads.elided_tokens_eq hlength rfl, hreads.kept_tokens_eq hlength rfl,
      filter_map_token_placedBehind]
  · rw [hreads.recoverable_eq hlength, hreads.recoverable_eq hlength]
  · rw [hreads.failure?_eq hlength, hreads.failure?_eq hlength]
    exact Failure.map_unquoted_before? source.file p q _ rest
  · rintro rfl
    refine ⟨?_, Report.ext ?_⟩
    · rw [hreads.failure?_eq hlength, hreads.failure?_eq hlength]
      rfl
    · rw [hreads.report_eq hlength, hreads.report_eq hlength]
      rfl

/-- Comments and whitespace around a name with a defect, and a quoted text that is never closed and is
quoted in full by one of the scans only. -/
theorem tokenize_elision_open_terminal :
    let source : Source := ⟨⟨"trivia.ebnf"⟩, "/* é */ <a b> // c\n\"d"⟩
    let elided := source.tokenize ((Settings.predictive.withTrivia false).withPreviewLength 1)
      Journal.empty
    let kept := source.tokenize ((Settings.predictive.withTrivia true).withPreviewLength 20)
      Journal.empty
    source.length < maxIndex ∧ elided.1.tokens = kept.1.tokens.filter (!·.kind.isTrivia) ∧
      elided.2.report.recoverable = kept.2.report.recoverable ∧
      elided.1.failure?.map Failure.unquoted = kept.1.failure?.map Failure.unquoted := by
  intro source elided kept
  have hlength : source.length < maxIndex := by decide
  obtain ⟨htokens, hfindings, hfailure, -⟩ :=
    tokenize_elision source hlength Settings.predictive Journal.empty 1 20
  exact ⟨hlength, htokens, hfindings, hfailure⟩

end GrammarScan
