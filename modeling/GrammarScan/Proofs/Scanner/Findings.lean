import GrammarScan.Proofs.Scanner.Passing
import GrammarScan.Text.Buffer
import Mathlib.Data.List.Forall2

/-!
# What a scan reports

The report of a scan is determined by its tokens.  `Token.offenders` lists the characters that may not
stand in a name, for the names among the tokens and with their offsets in the source, and
`Diagnostic.Cites` says what the report has to say about such a character.

`tokenize_report` is the main statement: behind what was in the report before, a scan leaves one
finding for each offender of its tokens, in the order of the source, and then the failure that
stopped it, if one did.  A name that is never closed, or tried in vain, leaves nothing.
-/

namespace GrammarScan

/-- Whether a character may not stand in a name. -/
def OffendsInName (c : Char) : Prop := c = '\n' ∨ c ∈ forbiddenInName

instance (c : Char) : Decidable (OffendsInName c) :=
  inferInstanceAs (Decidable (c = '\n' ∨ c ∈ forbiddenInName))

/-- The characters of a token that may not stand in a name, with their offsets in the source; only
the token of a name has any. -/
def Token.offenders (token : Token) : List (Nat × Char) :=
  if token.kind = .nonTerminal then
    (Text.withOffsets (token.span.start + 1) token.text.toList).filter (OffendsInName ·.2)
  else []

/-- A recoverable diagnostic on the character that stands at an offset of a source: it cites the
file, the line of the character and what is wrong with it. -/
structure Diagnostic.Cites (diagnostic : Diagnostic) (source : Source) (offset : Nat)
    (c : Char) : Prop where
  severity_eq : diagnostic.severity = .recoverable
  file_eq : diagnostic.file = source.file
  line_eq : ∃ before after, source.text.toList = before ++ c :: after ∧
    Text.byteLength before = offset ∧ diagnostic.line = 1 + before.count '\n'
  message_eq : diagnostic.message =
    if c = '\n' then "non-terminal cannot contain a line break"
    else "non-terminal cannot contain " ++ Text.quoteChar c

namespace Text

lemma fst_of_mem_withOffsets {start : Nat} {cs : List Char} {offender : Nat × Char}
    (h : offender ∈ withOffsets start cs) :
    start ≤ offender.1 ∧ offender.1 < start + byteLength cs := by
  induction cs generalizing start with
  | nil => simp [withOffsets] at h
  | cons c cs ih =>
    have hsize := c.utf8Size_pos
    rw [byteLength_cons]
    rcases List.mem_cons.1 h with rfl | hlater
    · dsimp only
      omega
    · have hbounds := ih hlater
      omega

lemma pairwise_withOffsets (start : Nat) (cs : List Char) :
    (withOffsets start cs).Pairwise fun a b => a.1 < b.1 := by
  induction cs generalizing start with
  | nil => exact List.Pairwise.nil
  | cons c cs ih =>
    refine List.pairwise_cons.2 ⟨?_, ih _⟩
    intro offender hoffender
    have hsize := c.utf8Size_pos
    have hbounds := fst_of_mem_withOffsets hoffender
    dsimp only
    omega

end Text

/-! ## The findings on one name -/

lemma nameDefect?_of_offends {c : Char} (h : OffendsInName c) :
    ∃ defect, nameDefect? c = some defect ∧ defect.message =
      if c = '\n' then "non-terminal cannot contain a line break"
      else "non-terminal cannot contain " ++ Text.quoteChar c := by
  unfold nameDefect?
  by_cases hfeed : c = '\n'
  · rw [if_pos hfeed, if_pos hfeed]
    exact ⟨.lineBreak, rfl, rfl⟩
  · have hforbidden : c ∈ forbiddenInName := h.resolve_left hfeed
    rw [if_neg hfeed, if_neg hfeed, if_pos hforbidden]
    exact ⟨.forbidden c, rfl, rfl⟩

lemma nameDefect?_of_not_offends {c : Char} (h : ¬ OffendsInName c) : nameDefect? c = none := by
  rw [OffendsInName, ← Lexeme.nameDefect?_isSome_iff] at h
  simpa using h

/-- The diagnostics on a name cite its offending characters, one each and in order. -/
theorem nameDiagnostics_cites {source : Source} {before name after : List Char}
    (htext : source.text.toList = before ++ (name ++ after)) :
    List.Forall₂ (fun diagnostic offender => diagnostic.Cites source offender.1 offender.2)
      (nameDiagnostics source.file (1 + Text.lineFeeds before) name)
      ((Text.withOffsets (Text.byteLength before) name).filter (OffendsInName ·.2)) := by
  induction name generalizing before with
  | nil => exact .nil
  | cons c name ih =>
    have hshifted : source.text.toList = (before ++ [c]) ++ (name ++ after) := by
      rw [htext]
      simp
    have hlater := ih hshifted
    have hline : 1 + Text.lineFeeds (before ++ [c]) =
        if c = '\n' then 1 + Text.lineFeeds before + 1 else 1 + Text.lineFeeds before := by
      rw [Text.lineFeeds_append, Text.lineFeeds_cons]
      split_ifs <;> rfl
    have hoffset : Text.byteLength (before ++ [c]) = Text.byteLength before + c.utf8Size := by
      simp
    rw [hline, hoffset] at hlater
    unfold nameDiagnostics Text.withOffsets
    by_cases hoffends : OffendsInName c
    · obtain ⟨defect, hdefect, hmessage⟩ := nameDefect?_of_offends hoffends
      rw [hdefect, List.filter_cons_of_pos (by simpa using hoffends)]
      refine .cons ⟨rfl, rfl, ⟨before, name ++ after, htext, rfl, rfl⟩, hmessage⟩ hlater
    · rw [nameDefect?_of_not_offends hoffends,
        List.filter_cons_of_neg (by simpa using hoffends)]
      exact hlater

/-! ## The findings on one token -/

/-- What is reported on a lexeme cites the offenders of its token. -/
lemma Cursor.StandsBehind.diagnostics_cites {cursor : Cursor} {before : List Char} {lexeme : Lexeme}
    (h : cursor.StandsBehind before) (hfront : lexeme.IsAtFrontOf cursor.rest) :
    List.Forall₂ (fun diagnostic offender => diagnostic.Cites cursor.source offender.1 offender.2)
      (lexeme.diagnostics cursor.source.file cursor.line) (cursor.tokenOf lexeme).offenders := by
  cases lexeme with
  | nonTerminal name =>
    obtain ⟨-, rest, hrest, -⟩ := hfront
    have htext : cursor.source.text.toList = (before ++ ['<']) ++ (name ++ '>' :: rest) := by
      rw [h.text_eq, hrest]
      simp [Lexeme.spelling]
    have hline : cursor.line = 1 + Text.lineFeeds (before ++ ['<']) := by
      rw [h.line_eq, Text.lineFeeds_append]
      rfl
    have hoffset : cursor.offset + 1 = Text.byteLength (before ++ ['<']) := by
      rw [h.offset_eq, Text.byteLength_append]
      rfl
    have hname : (cursor.tokenOf (.nonTerminal name)).text.toList = name := String.toList_ofList
    have hkind : (cursor.tokenOf (.nonTerminal name)).kind = .nonTerminal := rfl
    have hspan : (cursor.tokenOf (.nonTerminal name)).span.start = cursor.offset := rfl
    rw [Token.offenders, if_pos hkind, hname, hspan, hoffset, hline]
    exact nameDiagnostics_cites htext
  | symbol symbol => exact .nil
  | _ => exact .nil

/-- The offenders of a token stand inside its span, in order. -/
lemma Token.offenders_bounds (cursor : Cursor) (lexeme : Lexeme) :
    (cursor.tokenOf lexeme).offenders.Pairwise (fun a b => a.1 < b.1) ∧
      ∀ offender ∈ (cursor.tokenOf lexeme).offenders, cursor.offset ≤ offender.1 ∧
        offender.1 < cursor.offset + Text.byteLength lexeme.spelling := by
  cases lexeme with
  | nonTerminal name =>
    have hname : (cursor.tokenOf (.nonTerminal name)).text.toList = name := String.toList_ofList
    have hkind : (cursor.tokenOf (.nonTerminal name)).kind = .nonTerminal := rfl
    have hspan : (cursor.tokenOf (.nonTerminal name)).span.start = cursor.offset := rfl
    rw [Token.offenders, if_pos hkind, hname, hspan]
    refine ⟨(Text.pairwise_withOffsets _ _).filter _, ?_⟩
    intro offender hoffender
    have hbounds := Text.fst_of_mem_withOffsets (List.mem_of_mem_filter hoffender)
    have hlength : Text.byteLength (Lexeme.nonTerminal name).spelling =
        1 + Text.byteLength name + 1 := by
      simp only [Lexeme.spelling, List.cons_append, Text.byteLength_cons, Text.byteLength_append,
        Text.byteLength_nil, Nat.add_assoc]
      rfl
    omega
  | symbol symbol => exact ⟨.nil, fun offender hoffender => absurd hoffender List.not_mem_nil⟩
  | _ => exact ⟨.nil, fun offender hoffender => absurd hoffender List.not_mem_nil⟩

/-! ## The findings of a scan -/

namespace Scanner.HasRead

variable {scanner : Scanner} {source : Source} {settings : Settings} {before : List Char}

/-- The offenders of the tokens of a scan stand in the order of the source, behind what was read
before. -/
lemma drain_offenders (h : scanner.HasRead source settings before) (journal : Journal) :
    ((scanner.drain journal).result.tokens.flatMap Token.offenders).Pairwise
        (fun a b => a.1 < b.1) ∧
      ∀ offender ∈ (scanner.drain journal).result.tokens.flatMap Token.offenders,
        Text.byteLength before ≤ offender.1 := by
  fun_induction Scanner.drain scanner journal generalizing before with
  | case1 scanner journal ending after later hnext =>
    exact ⟨.nil, fun offender hoffender => absurd hoffender List.not_mem_nil⟩
  | case2 scanner journal token after later hnext drained =>
    rename_i ih
    obtain ⟨passed, cursor, lexeme, hyields⟩ := h.exists_yields (congrArg Progress.result hnext)
    have hread := hyields.hasRead
    rw [hnext] at hread
    obtain ⟨hpairwise, hbehind⟩ := ih hread
    obtain ⟨hown, hbounds⟩ := Token.offenders_bounds cursor lexeme
    rw [← hyields.token_eq] at hown hbounds
    have hoffset : cursor.offset = Text.byteLength before + Text.byteLength passed := by
      rw [hyields.standsBehind.offset_eq, Text.byteLength_append]
    rw [Text.byteLength_append, Text.byteLength_append, ← hoffset] at hbehind
    refine ⟨List.pairwise_append.2 ⟨hown, hpairwise, ?_⟩, ?_⟩
    · intro offender hoffender other hother
      have hinside := hbounds offender hoffender
      have houtside := hbehind other hother
      omega
    · intro offender hoffender
      rcases List.mem_append.1 hoffender with hfirst | hother
      · have hinside := hbounds offender hfirst
        omega
      · have houtside := hbehind offender hother
        omega

/-- A scan adds the findings on its tokens to the report, and the failure that stopped it. -/
lemma drain_findings (h : scanner.HasRead source settings before) (hphase : scanner.phase = .scanning)
    (hlength : source.length < maxIndex) (journal : Journal) :
    ∃ found, (scanner.drain journal).journal.report.toList =
        journal.report.toList ++ found ++
          ((scanner.drain journal).result.failure?.map Failure.diagnostic).toList ∧
      List.Forall₂ (fun diagnostic offender => diagnostic.Cites source offender.1 offender.2) found
        ((scanner.drain journal).result.tokens.flatMap Token.offenders) := by
  fun_induction Scanner.drain scanner journal generalizing before with
  | case1 scanner journal ending after later hnext =>
    refine ⟨[], ?_, .nil⟩
    have hjournal := congrArg Progress.journal hnext
    rw [List.append_nil]
    cases h.next_stops hphase (congrArg Progress.result hnext) with
    | complete passed last reached hrest hreport hread hlast =>
      rw [hlast] at hjournal
      rw [← hjournal]
      show reached.report.toList = _
      rw [hreport]
      exact (List.append_nil _).symm
    | failed passed last reached symbol left hrest hnone hreport hread hlast =>
      rw [hlast] at hjournal
      rw [← hjournal, ← hreport]
      exact Report.toList_push _ _
    | broken hlong => exact absurd hlong (not_le.2 hlength)
  | case2 scanner journal token after later hnext drained =>
    rename_i ih
    obtain ⟨passed, cursor, lexeme, hyields⟩ := h.exists_yields (congrArg Progress.result hnext)
    have hread := hyields.hasRead
    have hscanning := hyields.phase_eq
    have hreport := hyields.report_eq
    have hcites := hyields.standsBehind.diagnostics_cites hyields.isAtFrontOf
    rw [hnext] at hread hscanning hreport
    rw [hyields.source_eq, ← hyields.token_eq] at hcites
    obtain ⟨found, hfound, hothers⟩ := ih hread hscanning
    refine ⟨lexeme.diagnostics source.file cursor.line ++ found, ?_, ?_⟩
    · show (after.drain later).journal.report.toList = _
      rw [hfound, hreport, Report.toList_extend, List.append_assoc journal.report.toList]
      rfl
    · exact List.rel_append hcites hothers

end Scanner.HasRead

/-- The report of a scan is what it was before, then one finding on each character of a yielded name
that may not stand there, in the order of the source, and at the end the failure that stopped the
scan, if one did. -/
theorem tokenize_report (source : Source) (hlength : source.length < maxIndex)
    (settings : Settings) (journal : Journal) :
    let tokenization := (source.tokenize settings journal).1
    let offenders := tokenization.tokens.flatMap Token.offenders
    offenders.Pairwise (fun a b => a.1 < b.1) ∧
      ∃ found, (source.tokenize settings journal).2.report.toList =
          journal.report.toList ++ found ++ (tokenization.failure?.map fun failure =>
            ⟨failure.file, failure.line, failure.message, .fatal⟩).toList ∧
        List.Forall₂ (fun diagnostic offender => diagnostic.Cites source offender.1 offender.2)
          found offenders := by
  intro tokenization offenders
  have hstart := Scanner.hasRead_start source settings
    (journal.record (.sourceEntered source.file source.length))
  refine ⟨(hstart.drain_offenders _).1, ?_⟩
  exact hstart.drain_findings rfl hlength _

/-- A name with a line feed and a space in it, a second name with a quote mark, and a name that is
never closed. -/
theorem tokenize_report_defective_names :
    let source : Source := ⟨⟨"names.ebnf"⟩, "<a\n b> /* < */ <é'> <c"⟩
    let tokenization := (source.tokenize Settings.predictive Journal.empty).1
    source.length < maxIndex ∧
      ∃ found, (source.tokenize Settings.predictive Journal.empty).2.report.toList =
          found ++ (tokenization.failure?.map fun failure =>
            ⟨failure.file, failure.line, failure.message, .fatal⟩).toList ∧
        List.Forall₂ (fun diagnostic offender => diagnostic.Cites source offender.1 offender.2)
          found (tokenization.tokens.flatMap Token.offenders) := by
  intro source tokenization
  have hlength : source.length < maxIndex := by decide
  exact ⟨hlength, (tokenize_report source hlength Settings.predictive Journal.empty).2⟩

end GrammarScan
