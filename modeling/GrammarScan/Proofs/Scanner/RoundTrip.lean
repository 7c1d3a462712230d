import GrammarScan.Proofs.Grammar.Sequences
import GrammarScan.Proofs.Scanner.Invariant

/-!
# What is written is read back

A sequence of proper lexemes in which neighbours keep apart (`Lexeme.CanPrecede`) is read back from
its text: `tokenize_spellings` says that a scan with trivia kept gives one token for each lexeme, of
its kind and with its payload, and then ends with the text.  The payloads can contain any delimiter
that does not close their own lexeme, and the scan can use either strategy.  As for coverage, the
text is taken to have fewer than `maxIndex` bytes.
-/

namespace GrammarScan

namespace Scanner

/-- At the end of the text, a scan is complete. -/
lemma drain_of_rest_eq_nil {scanner : Scanner} (hphase : scanner.phase = .scanning)
    (hrest : scanner.cursor.rest = []) (journal : Journal) :
    (scanner.drain journal).result = ⟨[], .complete⟩ := by
  have hstep : scanner.step journal = scanner.finish journal := by
    unfold step
    rw [hphase, hrest]
  rw [drain_of_next_stop (next_of_step_stop hstep)]

namespace HasRead

variable {scanner : Scanner} {source : Source} {settings : Settings} {before : List Char}
  {lexeme : Lexeme} {lexemes : List Lexeme}

/-- The lexeme at the front of what is left is yielded next. -/
lemma exists_next_token (h : scanner.HasRead source settings before)
    (hphase : scanner.phase = .scanning) (hkeep : settings.keepTrivia = true)
    (hlength : source.length < maxIndex) (hfront : lexeme.IsAtFrontOf scanner.cursor.rest)
    (journal : Journal) :
    ∃ token after later, scanner.next journal = ⟨.token token, after, later⟩ ∧
      token.kind = lexeme.kind ∧ token.text = String.ofList lexeme.payload ∧
      after.phase = .scanning ∧ after.HasRead source settings (before ++ lexeme.spelling) := by
  have hanswers := h.next_answersInFull hkeep hlength journal
  generalize scanner.next journal = progress at hanswers ⊢
  cases hanswers with
  | token found after later hfound hscanning hread =>
    obtain rfl : lexeme = found := hfront.unique hfound
    exact ⟨_, after, later, rfl, rfl, rfl, hscanning, hread⟩
  | ended later hended => exact absurd hphase hended
  | finished after later hrest hfinished hread =>
    have hne := hfront.spelling_ne_nil
    obtain ⟨-, left, htext, -⟩ := hfront
    rw [hrest] at htext
    exact absurd (List.append_eq_nil_iff.1 htext.symm).1 hne
  | failed failure after later hnone hfailed hread => exact absurd hfront (hnone lexeme)

/-- In front of a sequence of lexemes, a scan reads one after the other. -/
lemma drain_spellings (h : scanner.HasRead source settings before)
    (hphase : scanner.phase = .scanning) (hkeep : settings.keepTrivia = true)
    (hlength : source.length < maxIndex) (hproper : ∀ lexeme ∈ lexemes, lexeme.IsProper)
    (hchain : lexemes.IsChain Lexeme.CanPrecede)
    (htext : source.text.toList = before ++ Lexeme.spellings lexemes) (journal : Journal) :
    (scanner.drain journal).result.ending = .complete ∧
      (scanner.drain journal).result.tokens.map (fun token => (token.kind, token.text)) =
        lexemes.map fun lexeme => (lexeme.kind, String.ofList lexeme.payload) := by
  induction lexemes generalizing scanner before journal with
  | nil =>
    have hrest : scanner.cursor.rest = [] := h.rest_eq htext
    rw [drain_of_rest_eq_nil hphase hrest]
    exact ⟨rfl, rfl⟩
  | cons lexeme lexemes ih =>
    have hfront : lexeme.IsAtFrontOf scanner.cursor.rest := by
      rw [h.rest_eq htext]
      exact Lexeme.isAtFrontOf_spellings hproper hchain
    obtain ⟨token, after, later, hnext, hkind, hpayload, hscanning, hread⟩ :=
      h.exists_next_token hphase hkeep hlength hfront journal
    obtain ⟨-, hothers⟩ := List.forall_mem_cons.1 hproper
    have htail : lexemes.IsChain Lexeme.CanPrecede := hchain.of_cons
    have hleft : source.text.toList = before ++ lexeme.spelling ++ Lexeme.spellings lexemes := by
      rw [htext, List.append_assoc]
      rfl
    obtain ⟨hending, htokens⟩ := ih hread hscanning hothers htail hleft later
    rw [drain_of_next_token hnext]
    refine ⟨hending, ?_⟩
    show (token.kind, token.text) :: _ = (lexeme.kind, String.ofList lexeme.payload) :: _
    rw [hkind, hpayload, htokens]

end HasRead

end Scanner

/-- The text of a sequence of proper lexemes is scanned back to one token for each of them. -/
theorem tokenize_spellings (lexemes : List Lexeme) (hproper : ∀ lexeme ∈ lexemes, lexeme.IsProper)
    (hchain : lexemes.IsChain Lexeme.CanPrecede) (file : FileName) (settings : Settings)
    (journal : Journal) (hlength : Text.byteLength (Lexeme.spellings lexemes) < maxIndex) :
    let source : Source := ⟨file, String.ofList (Lexeme.spellings lexemes)⟩
    let tokenization := (source.tokenize (settings.withTrivia true) journal).1
    tokenization.ending = .complete ∧ tokenization.failure? = none ∧
      tokenization.tokens.map (fun token => (token.kind, token.text)) =
        lexemes.map fun lexeme => (lexeme.kind, String.ofList lexeme.payload) := by
  intro source tokenization
  have htext : source.text.toList = Lexeme.spellings lexemes := String.toList_ofList
  have hshort : source.length < maxIndex := by
    rw [Source.length, htext]
    exact hlength
  have hstart := Scanner.hasRead_start source (settings.withTrivia true)
    (journal.record (.sourceEntered source.file source.length))
  obtain ⟨hending, htokens⟩ :=
    hstart.drain_spellings rfl rfl hshort hproper hchain htext _
  have hcomplete : tokenization.ending = .complete := hending
  refine ⟨hcomplete, ?_, htokens⟩
  unfold Tokenization.failure?
  rw [hcomplete]

/-- The delimiters of other lexemes in payloads, escaped closing delimiters, and an open comment at
the end. -/
theorem tokenize_nested_delimiters :
    let lexemes : List Lexeme :=
      [.nonTerminal ['λ', '/', '*'], .terminal ['\\', '"', '<'], .blockComment ['\\', '*', '/'],
        .symbol (.opening .grouping), .whitespace ['\n'], .lineComment ['*', '/'] false]
    let source : Source := ⟨⟨"nested.ebnf"⟩, String.ofList (Lexeme.spellings lexemes)⟩
    (∀ lexeme ∈ lexemes, lexeme.IsProper) ∧ lexemes.IsChain Lexeme.CanPrecede ∧
      Text.byteLength (Lexeme.spellings lexemes) < maxIndex ∧
      (source.tokenize (Settings.predictive.withTrivia true) Journal.empty).1.tokens.map
          (fun token => (token.kind, token.text)) =
        [(.nonTerminal, "λ/*"), (.terminal, "\\\"<"), (.blockComment, "\\*/"),
          (.symbol (.opening .grouping), "("), (.whitespace, "\n"), (.lineComment, "*/")] := by
  intro lexemes source
  have hproper : ∀ lexeme ∈ lexemes, lexeme.IsProper := by decide
  have hchain : lexemes.IsChain Lexeme.CanPrecede := by decide
  have hlength : Text.byteLength (Lexeme.spellings lexemes) < maxIndex := by decide
  have hread := tokenize_spellings lexemes hproper hchain ⟨"nested.ebnf"⟩ Settings.predictive
    Journal.empty hlength
  exact ⟨hproper, hchain, hlength, hread.2.2⟩

end GrammarScan
