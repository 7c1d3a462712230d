import GrammarScan.Proofs.Grammar.Seams
import GrammarScan.Proofs.Scanner.Readings

/-!
# Scans of texts written one behind the other

`tokenize_append` says that a text can be scanned in pieces: if a scan of the first piece reads it to
its end, what comes behind it is scanned as on its own, and tokens, failures and diagnostics are moved
behind the first piece (`Token.behind`, `Failure.behind`, `Diagnostic.behind`).

`tokenize_append_extends` is about any first piece.  It may end within a lexeme, or the scan may fail
in it; what was yielded and what was reported about it stays as it is when text is added, and so does
a failure at an unknown symbol.

Both are statements on readings (`ReadsInFull.exists_append`, `Reads.exists_extension`), carried over to
scans.  The exceptions at the seam are said in terms of the kind of the last lexeme
(`Source.lastKind?`).
-/

namespace GrammarScan

open Lexeme (spellings placedBehind significantBehind)

/-! ## Moving behind a text -/

/-- A token of a text that comes to stand behind another text. -/
def Token.behind (before : List Char) (token : Token) : Token :=
  { token with
    span := ⟨Text.byteLength before + token.span.start, Text.byteLength before + token.span.stop⟩
    line := Text.lineFeeds before + token.line
    column :=
      if token.line = 1 then (before.rtakeWhile (· ≠ '\n')).length + token.column
      else token.column }

/-- A failure in a text that comes to stand behind another text. -/
def Failure.behind (before : List Char) (failure : Failure) : Failure :=
  { failure with line := Text.lineFeeds before + failure.line }

/-- A diagnostic on a text that comes to stand behind another text. -/
def Diagnostic.behind (before : List Char) (diagnostic : Diagnostic) : Diagnostic :=
  { diagnostic with line := Text.lineFeeds before + diagnostic.line }

lemma Text.columnAfter_one_append (before cs : List Char) :
    columnAfter 1 (before ++ cs) =
      if lineFeeds cs = 0 then (before.rtakeWhile (· ≠ '\n')).length + columnAfter 1 cs
      else columnAfter 1 cs := by
  rw [columnAfter_append]
  split_ifs with hfeeds
  · have hmem : '\n' ∉ cs := lineFeeds_eq_zero_iff.1 hfeeds
    rw [columnAfter_of_not_mem hmem, columnAfter_of_not_mem hmem, columnAfter_one]
    omega
  · have hmem : '\n' ∈ cs := by
      by_contra hnone
      exact hfeeds (lineFeeds_eq_zero_iff.2 hnone)
    exact columnAfter_of_mem hmem _ _

lemma Lexeme.diagnostics_add_line (lexeme : Lexeme) (file : FileName) (feeds line : Nat) :
    lexeme.diagnostics file (feeds + line) =
      (lexeme.diagnostics file line).map fun diagnostic =>
        { diagnostic with line := feeds + diagnostic.line } := by
  simp only [← lexeme.diagnostics_extent, Extent.diagnostics, List.map_map, Function.comp_def,
    Nat.add_assoc]

namespace PlacedLexeme

lemma token_behind (before : List Char) (placed : PlacedLexeme) :
    (placed.behind before).token = placed.token.behind before := by
  have hline : 1 + Text.lineFeeds placed.before = 1 ↔ Text.lineFeeds placed.before = 0 := by
    omega
  simp only [token, behind, Token.behind, Text.byteLength_append, Text.lineFeeds_append,
    Text.columnAfter_one_append, hline, Nat.add_assoc, Nat.add_left_comm]

lemma diagnostics_behind (file : FileName) (before : List Char) (placed : PlacedLexeme) :
    (placed.behind before).diagnostics file =
      (placed.diagnostics file).map (Diagnostic.behind before) := by
  have hline : 1 + Text.lineFeeds (before ++ placed.before) =
      Text.lineFeeds before + (1 + Text.lineFeeds placed.before) := by
    rw [Text.lineFeeds_append, Nat.add_left_comm]
  show placed.lexeme.diagnostics file (1 + Text.lineFeeds (before ++ placed.before)) = _
  rw [hline, Lexeme.diagnostics_add_line]
  rfl

end PlacedLexeme

lemma Failure.before?_append (file : FileName) (previewLength : Nat) (before read rest : List Char) :
    before? file previewLength (before ++ read) rest =
      (before? file previewLength read rest).map (behind before) := by
  cases rest with
  | nil => rfl
  | cons symbol left =>
    simp only [before?, Option.map_some, behind, Text.lineFeeds_append, Nat.add_left_comm]

/-- What is reported on lexemes and on a failure moves with them. -/
lemma findings_behind (file : FileName) (before : List Char) (placed : List PlacedLexeme)
    (failure? : Option Failure) :
    (placed.map (PlacedLexeme.behind before)).flatMap (·.diagnostics file) ++
        ((failure?.map (Failure.behind before)).map Failure.diagnostic).toList =
      (placed.flatMap (·.diagnostics file) ++ (failure?.map Failure.diagnostic).toList).map
        (Diagnostic.behind before) := by
  rw [List.map_append, List.flatMap_map, List.map_flatMap]
  simp only [PlacedLexeme.diagnostics_behind]
  cases failure? <;> rfl

/-! ## The last lexeme -/

/-- The kind of the last lexeme that is read in a source, trivia included. -/
def Source.lastKind? (source : Source) : Option Kind :=
  (source.tokenize (Settings.standard.withTrivia true) Journal.empty).1.tokens.getLast?.map
    Token.kind

/-- The last lexeme of a reading decides. -/
lemma ReadsInFull.lastKind?_eq {source : Source} {lexemes : List Lexeme} {rest : List Char}
    (h : ReadsInFull source.text.toList lexemes rest) (hlength : source.length < maxIndex) :
    source.lastKind? = lexemes.getLast?.map Lexeme.kind := by
  have hkinds : ((placedBehind [] lexemes).map PlacedLexeme.token).map Token.kind =
      ((placedBehind [] lexemes).map PlacedLexeme.lexeme).map Lexeme.kind := by
    simp only [List.map_map, Function.comp_def, PlacedLexeme.token]
  rw [Source.lastKind?, h.kept_tokens_eq hlength rfl, ← List.getLast?_map, hkinds,
    Lexeme.map_lexeme_placedBehind, List.getLast?_map]

/-! ## Scanning in pieces -/

lemma Source.length_append (file : FileName) (text more : String) :
    Source.length ⟨file, text ++ more⟩ = Source.length ⟨file, text⟩ + Source.length ⟨file, more⟩ := by
  show Text.byteLength (text ++ more).toList = _
  rw [String.toList_append, Text.byteLength_append]
  rfl

/-- A scan of a text and of another one behind it is a scan of the first and a scan of the second,
moved behind the first, provided that the first scan gets to its end, that it does not do so in a
line comment, and that no asterisk meets a parenthesis. -/
theorem tokenize_append (file : FileName) (text more : String)
    (hlength : Source.length ⟨file, text ++ more⟩ < maxIndex) (settings : Settings)
    (journal : Journal) :
    let elided := settings.withTrivia false
    let first := Source.tokenize ⟨file, text⟩ elided journal
    let second := Source.tokenize ⟨file, more⟩ elided Journal.empty
    let whole := Source.tokenize ⟨file, text ++ more⟩ elided journal
    first.1.failure? = none →
      (Source.lastKind? ⟨file, text⟩ = some .lineComment → text.toList.getLast? = some '\n') →
      (Source.lastKind? ⟨file, text⟩ = some (.symbol (.opening .grouping)) →
        more.toList.head? ≠ some '*') →
      whole.1.tokens = first.1.tokens ++ second.1.tokens.map (Token.behind text.toList) ∧
        whole.1.failure? = second.1.failure?.map (Failure.behind text.toList) ∧
        whole.2.report.toList =
          first.2.report.toList ++ second.2.report.toList.map (Diagnostic.behind text.toList) := by
  intro elided first second whole hcomplete hclosed hstar
  have htext : (text ++ more).toList = text.toList ++ more.toList := String.toList_append
  have hbytes := Source.length_append file text more
  have hfirstLength : Source.length ⟨file, text⟩ < maxIndex := by omega
  have hsecondLength : Source.length ⟨file, more⟩ < maxIndex := by omega
  obtain ⟨lexemes, left, hfirst⟩ := exists_readsInFull (Source.mk file text).text.toList
  obtain ⟨others, rest, hsecond⟩ := exists_readsInFull (Source.mk file more).text.toList
  obtain rfl : left = [] := by
    rw [hfirst.failure?_eq hfirstLength] at hcomplete
    cases left with
    | nil => rfl
    | cons symbol left => exact absurd hcomplete (Option.some_ne_none _)
  rw [hfirst.lastKind?_eq hfirstLength] at hclosed hstar
  obtain ⟨joined, hjoined, hsignificant⟩ := hfirst.exists_append hsecond hclosed hstar
  have hspellings : spellings joined = text.toList ++ spellings others :=
    hjoined.reads.spellings_eq hsecond.reads
  have hwhole : ReadsInFull (Source.mk file (text ++ more)).text.toList joined rest := by
    rw [htext]
    exact hjoined
  rw [Lexeme.significantBehind_behind text.toList others] at hsignificant
  refine ⟨?_, ?_, ?_⟩
  · rw [hwhole.elided_tokens_eq hlength rfl, hfirst.elided_tokens_eq hfirstLength rfl,
      hsecond.elided_tokens_eq hsecondLength rfl, hsignificant]
    simp only [List.map_append, List.map_map, Function.comp_def, PlacedLexeme.token_behind]
  · rw [hwhole.failure?_eq hlength, hsecond.failure?_eq hsecondLength, hspellings,
      Failure.before?_append]
  · have hnothing : ((Failure.before? file elided.previewLength (spellings lexemes) []).map
        Failure.diagnostic).toList = [] := rfl
    have hempty : Journal.empty.report.toList = [] := rfl
    rw [hwhole.report_eq hlength, hfirst.report_eq hfirstLength, hsecond.report_eq hsecondLength,
      hspellings, Failure.before?_append, hsignificant, List.flatMap_append, hnothing, hempty,
      List.append_nil, List.nil_append, ← findings_behind]
    simp only [List.append_assoc]

/-- Whitespace on both sides of the seam, a name over two lines in front of it, and behind it a name
with a defect and a symbol that starts no lexeme. -/
theorem tokenize_append_at_whitespace :
    let file : FileName := ⟨"pieces.ebnf"⟩
    let text := "<é\nx>\n "
    let more := "\t\"b\"\n<c d> #"
    let elided := Settings.predictive.withTrivia false
    let first := Source.tokenize ⟨file, text⟩ elided Journal.empty
    let second := Source.tokenize ⟨file, more⟩ elided Journal.empty
    let whole := Source.tokenize ⟨file, text ++ more⟩ elided Journal.empty
    first.1.failure? = none ∧ Source.lastKind? ⟨file, text⟩ = some .whitespace ∧
      whole.1.tokens = first.1.tokens ++ second.1.tokens.map (Token.behind text.toList) ∧
        whole.1.failure? = second.1.failure?.map (Failure.behind text.toList) ∧
        whole.2.report.toList =
          first.2.report.toList ++ second.2.report.toList.map (Diagnostic.behind text.toList) := by
  intro file text more elided first second whole
  let lexemes : List Lexeme := [.nonTerminal ['é', '\n', 'x'], .whitespace ['\n', ' ']]
  have hreads : ReadsInFull (spellings lexemes) lexemes [] :=
    readsInFull_spellings (by decide) (by decide)
  have htext : spellings lexemes = (Source.mk file text).text.toList := by decide
  rw [htext] at hreads
  have hshort : Source.length ⟨file, text⟩ < maxIndex := by decide
  have hcomplete : first.1.failure? = none := hreads.failure?_eq hshort elided Journal.empty
  have hlast : Source.lastKind? ⟨file, text⟩ = some .whitespace := hreads.lastKind?_eq hshort
  have hlength : Source.length ⟨file, text ++ more⟩ < maxIndex := by decide
  refine ⟨hcomplete, hlast, ?_⟩
  refine tokenize_append file text more hlength Settings.predictive Journal.empty hcomplete ?_ ?_
  · rw [hlast]
    simp
  · rw [hlast]
    simp

/-! ## Adding text -/

/-- If the last lexeme of a text is a symbol, its token is yielded last and ends with the text. -/
lemma ReadsInFull.exists_last_token {source : Source} {lexemes : List Lexeme} {symbol : Symbol}
    (h : ReadsInFull source.text.toList lexemes [])
    (hlast : lexemes.getLast?.map Lexeme.kind = some (.symbol symbol)) :
    ∃ last ∈ ((significantBehind [] lexemes).map PlacedLexeme.token).getLast?,
      last.kind = .symbol symbol ∧ last.span.stop = source.length := by
  obtain ⟨last, hmem, hkind⟩ := Option.map_eq_some_iff.1 hlast
  obtain ⟨init, rfl⟩ := List.getLast?_eq_some_iff.1 hmem
  have hkept : last.kind.isTrivia = false := by
    rw [hkind]
    rfl
  refine ⟨(PlacedLexeme.mk ([] ++ spellings init) last).token, ?_, hkind, ?_⟩
  · rw [Lexeme.significantBehind_concat_of_not_isTrivia hkept, List.map_append]
    exact List.getLast?_concat
  · show Text.byteLength (spellings init ++ last.spelling) = Text.byteLength source.text.toList
    rw [h.reads.text_eq]
    simp [spellings]

/-- A scan that reads what another one reads first yields its tokens and finds its findings first. -/
lemma ReadsInFull.extends_of_prefix {file : FileName} {text longer : String}
    {lexemes extended : List Lexeme} {rest left : List Char}
    (h : ReadsInFull (Source.mk file text).text.toList lexemes rest)
    (hlonger : ReadsInFull (Source.mk file longer).text.toList extended left)
    (hbegins : significantBehind [] lexemes <+: significantBehind [] extended)
    (hlength : Source.length ⟨file, text⟩ < maxIndex)
    (hlongerLength : Source.length ⟨file, longer⟩ < maxIndex) {settings : Settings}
    (hdrop : settings.keepTrivia = false) (journal : Journal) :
    let first := Source.tokenize ⟨file, text⟩ settings journal
    let whole := Source.tokenize ⟨file, longer⟩ settings journal
    first.1.tokens <+: whole.1.tokens ∧
      first.2.report.recoverable <+: whole.2.report.recoverable := by
  obtain ⟨others, hothers⟩ := hbegins
  refine ⟨?_, ?_⟩
  · rw [h.elided_tokens_eq hlength hdrop, hlonger.elided_tokens_eq hlongerLength hdrop, ← hothers,
      List.map_append]
    exact List.prefix_append _ _
  · rw [h.recoverable_eq hlength, hlonger.recoverable_eq hlongerLength, ← hothers,
      List.flatMap_append, ← List.append_assoc]
    exact List.prefix_append _ _

/-- A symbol that starts no lexeme stops the reading of a text, whatever comes behind it. -/
lemma ReadsInFull.append_of_unknownSymbol {text left : List Char} {next symbol : Char}
    {lexemes : List Lexeme} (h : ReadsInFull text lexemes (next :: left))
    (hcause : Failure.causeAt next = .unknownSymbol symbol) (more : List Char) :
    ReadsInFull (text ++ more) lexemes (next :: (left ++ more)) := by
  have hfound : (Failure.Cause.unknownSymbol symbol).IsFoundAt (next :: left) :=
    Failure.isFoundAt_cons_iff.2 ⟨hcause.symm, h.not_isAtFrontOf⟩
  -- only the next character is looked at
  have hmore : (Failure.Cause.unknownSymbol symbol).IsFoundAt (next :: (left ++ more)) := hfound
  exact ⟨h.reads.append_of_ne_nil (List.cons_ne_nil next left) more,
    (Failure.isFoundAt_cons_iff.1 hmore).2⟩

/-- A scan of a longer text yields what a scan of a shorter one yields and finds what it finds, unless
an asterisk turns a parenthesis at the end of the shorter text into something else.  A scan that fails
at an unknown symbol yields no more when text is added, and fails there for the same cause. -/
theorem tokenize_append_extends (file : FileName) (text more : String)
    (hlength : Source.length ⟨file, text ++ more⟩ < maxIndex) (settings : Settings)
    (journal : Journal) :
    let elided := settings.withTrivia false
    let first := Source.tokenize ⟨file, text⟩ elided journal
    let whole := Source.tokenize ⟨file, text ++ more⟩ elided journal
    ((∀ last ∈ first.1.tokens.getLast?, last.kind = .symbol (.opening .grouping) →
        last.span.stop = Source.length ⟨file, text⟩ → more.toList.head? ≠ some '*') →
      first.1.tokens <+: whole.1.tokens ∧
        first.2.report.recoverable <+: whole.2.report.recoverable) ∧
      ∀ failure symbol, first.1.failure? = some failure → failure.cause = .unknownSymbol symbol →
        whole.1.tokens = first.1.tokens ∧
          whole.1.failure?.map Failure.unquoted = some failure.unquoted := by
  intro elided first whole
  have htext : (text ++ more).toList = text.toList ++ more.toList := String.toList_append
  have hshort : Source.length ⟨file, text⟩ < maxIndex := by
    have hbytes := Source.length_append file text more
    omega
  obtain ⟨lexemes, rest, hfirst⟩ := exists_readsInFull (Source.mk file text).text.toList
  refine ⟨?_, ?_⟩
  · intro hstar
    rw [hfirst.elided_tokens_eq hshort rfl] at hstar
    have hseam : rest = [] →
        lexemes.getLast?.map Lexeme.kind = some (.symbol (.opening .grouping)) →
          more.toList.head? ≠ some '*' := by
      rintro rfl hlast
      obtain ⟨last, hmem, hkind, hstop⟩ := hfirst.exists_last_token hlast
      exact hstar last hmem hkind hstop
    obtain ⟨extended, left, hextended, hbegins⟩ := hfirst.reads.exists_extension more.toList hseam
    have hwhole : ReadsInFull (Source.mk file (text ++ more)).text.toList extended left := by
      rw [htext]
      exact hextended
    exact hfirst.extends_of_prefix hwhole hbegins hshort hlength rfl journal
  · intro failure symbol hfailure hcause
    rw [hfirst.failure?_eq hshort] at hfailure
    cases rest with
    | nil => simp [Failure.before?] at hfailure
    | cons next left =>
      obtain rfl := Option.some.inj hfailure
      have hwhole : ReadsInFull (Source.mk file (text ++ more)).text.toList lexemes
          (next :: (left ++ more.toList)) := by
        rw [htext]
        exact hfirst.append_of_unknownSymbol hcause more.toList
      refine ⟨?_, ?_⟩
      · rw [hfirst.elided_tokens_eq hshort rfl, hwhole.elided_tokens_eq hlength rfl]
      · rw [hwhole.failure?_eq hlength]
        rfl

/-- A name with a defect and a quoted text, in front of a symbol that starts no lexeme. -/
theorem tokenize_append_extends_unknown_symbol :
    let file : FileName := ⟨"grown.ebnf"⟩
    let text := "<a b> \"c\"#"
    let more := "<d> ("
    let elided := Settings.predictive.withTrivia false
    let failure : Failure := ⟨file, 1, .unknownSymbol '#', "#"⟩
    let first := Source.tokenize ⟨file, text⟩ elided Journal.empty
    let whole := Source.tokenize ⟨file, text ++ more⟩ elided Journal.empty
    first.1.failure? = some failure ∧
      (first.1.tokens <+: whole.1.tokens ∧
        first.2.report.recoverable <+: whole.2.report.recoverable) ∧
      whole.1.tokens = first.1.tokens ∧
        whole.1.failure?.map Failure.unquoted = some failure.unquoted := by
  intro file text more elided failure first whole
  let lexemes : List Lexeme := [.nonTerminal ['a', ' ', 'b'], .whitespace [' '], .terminal ['c']]
  have hspellings : ReadsInFull (spellings lexemes) lexemes [] :=
    readsInFull_spellings (by decide) (by decide)
  have hstuck : (Failure.Cause.unknownSymbol '#').IsFoundAt ['#'] := ⟨rfl, by decide⟩
  have hreads : ReadsInFull (spellings lexemes ++ ['#']) lexemes ['#'] := by
    refine ⟨hspellings.reads.append ?_, (Failure.isFoundAt_cons_iff.1 hstuck).2⟩
    rintro last ⟨⟩
    trivial
  have htext : spellings lexemes ++ ['#'] = (Source.mk file text).text.toList := by decide
  rw [htext] at hreads
  have hshort : Source.length ⟨file, text⟩ < maxIndex := by decide
  have hfailure : first.1.failure? = some failure := by
    rw [hreads.failure?_eq hshort]
    decide
  have hlength : Source.length ⟨file, text ++ more⟩ < maxIndex := by decide
  obtain ⟨hextends, hstops⟩ :=
    tokenize_append_extends file text more hlength Settings.predictive Journal.empty
  refine ⟨hfailure, ?_, hstops failure '#' hfailure rfl⟩
  refine hextends ?_
  intro last hlast hkind hstop
  decide

end GrammarScan
