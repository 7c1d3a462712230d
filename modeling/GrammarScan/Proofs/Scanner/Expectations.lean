import GrammarScan.Proofs.Scanner.Traces

/-!
# Which expectations are missed

A predictive scan expects some constructs behind each lexeme, trivia included, and records where it meets
another one. What it records is determined by the reading of its text. At a lexeme it depends on the kind
of the lexeme and on that of the one before it (`Kind.isUnexpectedBehind`), and on nothing that was read
earlier. In front of a rest that starts with no lexeme, an expectation is missed whatever was expected.

`HasRead.drain_trace` says this of any state that a scan gets into, by induction on the reading of what
is left: the step in front of each lexeme records the missed expectation, and only then is the token
yielded. `tokenize_expectations` is the main statement. As for coverage, the text is taken to have fewer
than `maxIndex` bytes.
-/

namespace GrammarScan

open Lexeme (spellings placedBehind)

/-- Whether a lexeme of the kind is not expected behind one of the previous kind: either end of a
definition behind a comment, and a bar or either end of a definition behind one of the three. -/
def Kind.isUnexpectedBehind (kind previous : Kind) : Bool :=
  let ends : List Kind := [.symbol .definitionStart, .symbol .definitionEnd]
  (previous ∈ [.lineComment, .blockComment] && kind ∈ ends) ||
    (previous ∈ .symbol .alternative :: ends && kind ∈ .symbol .alternative :: ends)

/-- The event that records a missed expectation at the front of a text; an empty text has none. -/
def Event.missAt (line : Nat) (text : List Char) : List Event :=
  text.head?.toList.map fun symbol => .expectationMissed symbol line

/-- What a predictive scan records at a lexeme, by the kind of the lexeme before it: that the lexeme was
not expected, if it was not, and then that its token is yielded, if it is. -/
def Settings.recordAt (settings : Settings) (previous? : Option Kind) (placed : PlacedLexeme) :
    List Event :=
  (if previous?.any placed.lexeme.kind.isUnexpectedBehind then
      Event.missAt (1 + Text.lineFeeds placed.before) placed.lexeme.spelling
    else []) ++
    if settings.yields placed then [placed.yielding] else []

/-- What a predictive scan records at each of the lexemes that it reads behind the text `before`, the
first of which stands behind a lexeme of the given kind. -/
def Settings.records (settings : Settings) (previous? : Option Kind) (before : List Char)
    (lexemes : List Lexeme) : List (List Event) :=
  List.zipWith settings.recordAt (previous? :: lexemes.map (some ·.kind)) (placedBehind before lexemes)

/-! ## What is expected -/

/-- The constructs that a predictive scan expects behind a lexeme, and at the start. -/
def Construct.expectedBehind (previous? : Option Lexeme) : List Construct :=
  previous?.elim all (·.construct.followers)

/-- All is expected behind a construct but either end of a definition behind a comment, and a bar and
either end of a definition behind one of these. -/
lemma Construct.mem_followers_iff {construct previous : Construct} :
    construct ∈ previous.followers ↔
      (previous = .lineComment ∨ previous = .blockComment → construct ≠ .definition) ∧
        (previous = .alternative ∨ previous = .definition →
          construct ≠ .alternative ∧ construct ≠ .definition) := by
  have hnodup : all.Nodup := by decide
  have hall := construct.mem_all
  cases previous <;>
    simp [followers, hnodup.mem_erase_iff, (hnodup.erase _).mem_erase_iff, hall]

namespace Lexeme

variable {lexeme previous : Lexeme}

lemma construct_eq_comment_iff :
    (lexeme.construct = .lineComment ∨ lexeme.construct = .blockComment) ↔
      lexeme.kind = .lineComment ∨ lexeme.kind = .blockComment := by
  cases lexeme with
  | symbol symbol => cases symbol <;> simp [construct, kind]
  | _ => simp [construct, kind]

lemma construct_eq_definition_iff :
    lexeme.construct = .definition ↔
      lexeme.kind = .symbol .definitionStart ∨ lexeme.kind = .symbol .definitionEnd := by
  cases lexeme with
  | symbol symbol => cases symbol <;> simp [construct, kind]
  | _ => simp [construct, kind]

lemma construct_eq_alternative_iff :
    lexeme.construct = .alternative ↔ lexeme.kind = .symbol .alternative := by
  cases lexeme with
  | symbol symbol => cases symbol <;> simp [construct, kind]
  | _ => simp [construct, kind]

/-- The kinds of two lexemes tell whether the second is expected behind the first. -/
theorem construct_mem_followers_iff :
    lexeme.construct ∈ previous.construct.followers ↔
      ¬ lexeme.kind.isUnexpectedBehind previous.kind = true := by
  rw [Construct.mem_followers_iff, construct_eq_comment_iff]
  simp only [construct_eq_definition_iff, construct_eq_alternative_iff, ne_eq,
    Kind.isUnexpectedBehind, Bool.or_eq_true, Bool.and_eq_true, decide_eq_true_eq, List.mem_cons,
    List.not_mem_nil, or_false]
  tauto

end Lexeme

lemma Construct.mem_expectedBehind_iff {lexeme : Lexeme} {previous? : Option Lexeme} :
    lexeme.construct ∈ expectedBehind previous? ↔
      ¬ (previous?.map Lexeme.kind).any lexeme.kind.isUnexpectedBehind = true := by
  cases previous? with
  | none => simp [expectedBehind, lexeme.construct.mem_all]
  | some previous => exact Lexeme.construct_mem_followers_iff

/-! ## One lexeme -/

namespace Dispatch

variable {cursor : Cursor} {symbol : Char} {left : List Char}

/-- Where none of the likely constructs can be read, an expectation is missed. -/
lemma find_trace_of_forall_none (hmark : cursor.mark = none) (hrest : cursor.rest = symbol :: left)
    {constructs : List Construct}
    (hnone : ∀ construct ∈ constructs.filter (·.startsWith symbol),
      construct.read? cursor.rest = none) (journal : Journal) :
    (find (some constructs) cursor symbol journal).2.trace.toList =
      journal.trace.toList ++ Event.missAt cursor.line cursor.rest := by
  unfold find
  dsimp only
  rw [Construct.firstAccepting_of_forall_none hnone hmark, hrest]
  dsimp only
  rw [byStarter_trace]
  exact Array.toList_push

/-- The lexeme at the front is not expected exactly where a missed expectation is recorded. -/
lemma find_trace_of_isAtFrontOf {lexeme : Lexeme} (hmark : cursor.mark = none)
    (hrest : cursor.rest = symbol :: left) (hfront : lexeme.IsAtFrontOf cursor.rest)
    (constructs : List Construct) (journal : Journal) :
    (find (some constructs) cursor symbol journal).2.trace.toList =
      journal.trace.toList ++
        if lexeme.construct ∈ constructs then [] else Event.missAt cursor.line cursor.rest := by
  by_cases hmem : lexeme.construct ∈ constructs
  · have hstarts : lexeme.construct.startsWith symbol = true := (hrest ▸ hfront).startsWith
    have hlikely : lexeme.construct ∈ constructs.filter (·.startsWith symbol) :=
      List.mem_filter.2 ⟨hmem, hstarts⟩
    rw [if_pos hmem, List.append_nil]
    unfold find
    dsimp only
    rw [Construct.firstAccepting_of_mem hfront hlikely]
    rcases Construct.firstAccepting_singleton_cases hfront journal.report with
      haccepts | ⟨hbroken, -⟩
    · rw [haccepts]
      rfl
    · generalize Construct.firstAccepting cursor journal.report [lexeme.construct] = tried at hbroken
      obtain ⟨result, report⟩ := tried
      obtain rfl : result = .error .overflow := hbroken
      rfl
  · rw [if_neg hmem]
    refine find_trace_of_forall_none hmark hrest ?_ journal
    intro construct hconstruct
    rw [Construct.read?_of_isAtFrontOf hfront, if_neg]
    rintro rfl
    exact hmem (List.mem_filter.1 hconstruct).1

end Dispatch

namespace Scanner

variable {scanner : Scanner} {constructs : List Construct}

/-- A step records what dispatch records, and then a failure. -/
lemma step_trace {symbol : Char} {left : List Char} (hphase : scanner.phase = .scanning)
    (hrest : scanner.cursor.rest = symbol :: left) (journal : Journal) :
    (scanner.step journal).journal.trace.toList =
      (Dispatch.find scanner.expected scanner.cursor.unmarked symbol journal).2.trace.toList ++
        ((scanner.step journal).result.failure?.map Event.scanFailed).toList := by
  unfold step
  rw [hphase, hrest]
  dsimp only
  rcases Dispatch.find scanner.expected scanner.cursor.unmarked symbol journal with
    ⟨acceptance | cause | fault, later⟩
  · exact (List.append_nil _).symm
  · exact Array.toList_push
  · exact (List.append_nil _).symm

namespace HasRead

variable {source : Source} {settings : Settings} {before : List Char}

/-- A step in front of a lexeme records whether the lexeme is unexpected. -/
lemma step_trace_of_isAtFrontOf (h : scanner.HasRead source settings before)
    (hphase : scanner.phase = .scanning) (hlength : source.length < maxIndex)
    (hexpected : scanner.expected = some constructs) {lexeme : Lexeme}
    (hfront : lexeme.IsAtFrontOf scanner.cursor.rest) (journal : Journal) :
    (scanner.step journal).journal.trace.toList =
      journal.trace.toList ++
        if lexeme.construct ∈ constructs then []
        else Event.missAt (1 + Text.lineFeeds before) lexeme.spelling := by
  obtain ⟨later, hstep, -⟩ := h.step_of_isAtFrontOf hphase hlength hfront journal
  obtain ⟨symbol, others, hspelling⟩ := List.exists_cons_of_ne_nil hfront.spelling_ne_nil
  obtain ⟨-, left, hrest, -⟩ := id hfront
  rw [hspelling, List.cons_append] at hrest
  have hmark : scanner.cursor.unmarked.mark = none := rfl
  have hfind := Dispatch.find_trace_of_isAtFrontOf hmark hrest hfront constructs journal
  -- the lexeme and what is left start with the same character
  have hmiss : Event.missAt scanner.cursor.unmarked.line scanner.cursor.unmarked.rest =
      Event.missAt (1 + Text.lineFeeds before) lexeme.spelling := by
    rw [hspelling, ← h.standsBehind.line_eq]
    show Event.missAt scanner.cursor.line scanner.cursor.rest = _
    rw [hrest]
    rfl
  rw [step_trace hphase hrest, hexpected, hfind, hmiss, hstep]
  exact List.append_nil _

/-- A scan that stops where no lexeme can be read has missed an expectation there, unless the text is
read to its end, and records how it ends. -/
lemma drain_trace_of_not_isAtFrontOf (h : scanner.HasRead source settings before)
    (hphase : scanner.phase = .scanning) (hexpected : scanner.expected = some constructs)
    (hnone : ∀ lexeme : Lexeme, ¬ lexeme.IsAtFrontOf scanner.cursor.rest) (journal : Journal) :
    let done := scanner.drain journal
    done.journal.trace.toList =
      journal.trace.toList ++
        Event.missAt (1 + Text.lineFeeds before) scanner.cursor.rest ++
          done.result.ending.events done.scanner := by
  have hsteps := scanner.step_steps journal
  generalize hstep : scanner.step journal = progress at hsteps
  cases hsteps with
  | ended hover => exact absurd hphase hover
  | finish _ hrest =>
    rw [drain_of_next_stop (next_of_step_stop hstep), hrest]
    show (journal.trace.push _).toList = _
    rw [Array.toList_push]
    exact congrArg (· ++ _) (List.append_nil _).symm
  | read lexeme later _ hfront hreport => exact absurd hfront (hnone lexeme)
  | fail symbol left later _ hrest _ hreport =>
    have hmark : scanner.cursor.unmarked.mark = none := rfl
    have hrefused : ∀ construct ∈ constructs.filter (·.startsWith symbol),
        construct.read? scanner.cursor.unmarked.rest = none :=
      fun construct _ => Construct.read?_of_forall_not hnone construct
    have hfind := Dispatch.find_trace_of_forall_none hmark hrest hrefused journal
    have htrace := step_trace hphase hrest journal
    rw [hexpected, hfind, hstep] at htrace
    rw [drain_of_next_stop (next_of_step_stop hstep), ← h.standsBehind.line_eq]
    exact htrace
  | overflow lexeme later _ hfront hreport hroom => exact absurd hfront (hnone lexeme)

/-! ## Whole scans -/

/-- A predictive scan records what a reading of what is left tells, and then how it ends. -/
theorem drain_trace (h : scanner.HasRead source settings before)
    (hphase : scanner.phase = .scanning) (hlength : source.length < maxIndex)
    {text rest : List Char} {lexemes : List Lexeme} (htext : scanner.cursor.rest = text)
    (hreads : ReadsInFull text lexemes rest) {previous? : Option Lexeme}
    (hexpected : scanner.expected = some (Construct.expectedBehind previous?))
    (journal : Journal) :
    let done := scanner.drain journal
    done.journal.trace.toList =
      journal.trace.toList ++
        (settings.records (previous?.map Lexeme.kind) before lexemes).flatten ++
          Event.missAt (1 + Text.lineFeeds (before ++ spellings lexemes)) rest ++
            done.result.ending.events done.scanner := by
  obtain ⟨hreads, hnone⟩ := hreads
  induction hreads generalizing scanner before previous? journal with
  | none text =>
    subst htext
    have hnil : before ++ spellings [] = before := List.append_nil before
    have hrecords : (settings.records (previous?.map Lexeme.kind) before []).flatten = [] := rfl
    rw [hnil, hrecords, List.append_nil]
    exact h.drain_trace_of_not_isAtFrontOf hphase hexpected hnone journal
  | @read lexeme lexemes text rest hproper hends hlater ih =>
    have hfront : lexeme.IsAtFrontOf scanner.cursor.rest := ⟨hproper, text, htext, hends⟩
    obtain ⟨after, later, hscanning, hread, hbehind, -, hrecorded, hdrain⟩ :=
      h.drain_of_isAtFrontOf hphase hlength hfront journal
    have hafter : after.cursor.rest = text := by
      refine hread.rest_eq ?_
      rw [h.text_eq, htext, List.append_assoc]
    -- behind a lexeme, its followers are expected, whatever was expected before
    have hfollowers : after.expected = some (Construct.expectedBehind (some lexeme)) := by
      rw [hbehind, hexpected]
      rfl
    have hlaterTrace := ih hread hscanning hafter hfollowers later hnone
    have hspellings : before ++ spellings (lexeme :: lexemes) =
        before ++ lexeme.spelling ++ spellings lexemes := (List.append_assoc _ _ _).symm
    have hrecord : later.trace.toList = journal.trace.toList ++
        settings.recordAt (previous?.map Lexeme.kind) ⟨before, lexeme⟩ := by
      rw [hrecorded, h.step_trace_of_isAtFrontOf hphase hlength hexpected hfront,
        List.append_assoc, Settings.recordAt]
      simp only [Construct.mem_expectedBehind_iff, ite_not]
    have hrecords : settings.records (previous?.map Lexeme.kind) before (lexeme :: lexemes) =
        settings.recordAt (previous?.map Lexeme.kind) ⟨before, lexeme⟩ ::
          settings.records (some lexeme.kind) (before ++ lexeme.spelling) lexemes := rfl
    intro done
    rw [hspellings, hrecords, List.flatten_cons, ← List.append_assoc, ← hrecord]
    simp only [done]
    rw [hdrain]
    refine hlaterTrace.trans ?_
    split_ifs <;> rfl

end HasRead

end Scanner

/-- A predictive scan goes through the lexemes of its text, those of them that are trivia and not yielded
included. Behind its start, its trace has for each of them, in order, that the lexeme was not expected
behind the one before it, if it was not, and then that its token is yielded, if it is. In front of a rest
that starts with no lexeme, an expectation is missed in any case, and then the failure is recorded. A
missed expectation is recorded with the character and the line in front of which it is missed. -/
theorem tokenize_expectations (source : Source) (hlength : source.length < maxIndex)
    (settings : Settings) (journal : Journal) :
    let predictive := settings.withStrategy .predictive
    let done := source.tokenize predictive journal
    ∃ lexemes rest, ReadsInFull source.text.toList lexemes rest ∧
      (source.tokenize (predictive.withTrivia true) journal).1.tokens =
        (placedBehind [] lexemes).map PlacedLexeme.token ∧
      done.1.tokens =
        ((placedBehind [] lexemes).filter predictive.yields).map PlacedLexeme.token ∧
      (done.1.failure? = none ↔ rest = []) ∧
      done.2.trace.toList =
        journal.trace.toList ++
          [.sourceEntered source.file source.length,
            .scanStarted source.file .predictive source.length] ++
          (predictive.records none [] lexemes).flatten ++
          Event.missAt (1 + Text.lineFeeds (spellings lexemes)) rest ++
          [done.1.closing source] := by
  intro predictive done
  obtain ⟨lexemes, rest, hreads⟩ := exists_readsInFull source.text.toList
  refine ⟨lexemes, rest, hreads, hreads.kept_tokens_eq hlength rfl journal, ?_, ?_, ?_⟩
  · exact congrArg Tokenization.tokens (hreads.tokenization_eq hlength predictive journal)
  · show (source.tokenize predictive journal).1.failure? = none ↔ rest = []
    rw [hreads.failure?_eq hlength]
    cases rest <;> simp [Failure.before?]
  · set entered := journal.record (.sourceEntered source.file source.length) with hentered
    let begun := Scanner.start source predictive entered
    have hstart : begun.1.HasRead source predictive [] :=
      Scanner.hasRead_start source predictive entered
    have hexpected : begun.1.expected = some (Construct.expectedBehind none) := rfl
    have htrace := hstart.drain_trace rfl hlength rfl hreads hexpected begun.2
    -- the number of tokens in the last event is that of the result
    have hkeeps : begun.1.Keeps (fun event => !event.isMiss) :=
      ⟨fun event hother => by simp [hother], .inr fun event hmiss => by simp [hmiss]⟩
    obtain ⟨-, hyielded⟩ := hkeeps.drain rfl begun.2
    have hclosing := Source.events_eq_closing hlength entered (hyielded.trans (Nat.zero_add _))
    have hbegun : begun.2.trace.toList = journal.trace.toList ++
        [.sourceEntered source.file source.length,
          .scanStarted source.file .predictive source.length] := by
      show ((journal.trace.push _).push _).toList = _
      rw [Array.toList_push, Array.toList_push, List.append_assoc]
      rfl
    dsimp only at htrace
    rw [hclosing, hbegun, List.nil_append] at htrace
    exact htrace

/-- A definition behind a comment, a bar behind its start, its end written twice, and then a character
with which nothing starts. Behind the space, the end of the definition is expected. -/
theorem tokenize_expectations_missed :
    let source : Source := ⟨⟨"rules.ebnf"⟩, "// c\n::=|<a> ;;$"⟩
    let failure : Failure := ⟨source.file, 2, .unknownSymbol '$', "$"⟩
    let done := source.tokenize Settings.predictive Journal.empty
    source.length < maxIndex ∧ done.2.trace.toList =
      [.sourceEntered source.file 16, .scanStarted source.file .predictive 16,
        .expectationMissed ':' 2, .tokenYielded (.symbol .definitionStart) 2 1,
        .expectationMissed '|' 2, .tokenYielded (.symbol .alternative) 2 4,
        .tokenYielded .nonTerminal 2 5, .tokenYielded (.symbol .definitionEnd) 2 9,
        .expectationMissed ';' 2, .tokenYielded (.symbol .definitionEnd) 2 10,
        .expectationMissed '$' 2, .scanFailed failure] := by
  intro source failure done
  have hlength : source.length < maxIndex := by decide
  let lexemes : List Lexeme := [.lineComment [' ', 'c'] true, .symbol .definitionStart,
    .symbol .alternative, .nonTerminal ['a'], .whitespace [' '], .symbol .definitionEnd,
    .symbol .definitionEnd]
  have hspellings : ReadsInFull (spellings lexemes) lexemes [] :=
    readsInFull_spellings (by decide) (by decide)
  have hstuck : (Failure.Cause.unknownSymbol '$').IsFoundAt ['$'] := ⟨rfl, by decide⟩
  have hreads : ReadsInFull (spellings lexemes ++ ['$']) lexemes ['$'] := by
    refine ⟨hspellings.reads.append ?_, (Failure.isFoundAt_cons_iff.1 hstuck).2⟩
    rintro last ⟨⟩
    trivial
  have htext : spellings lexemes ++ ['$'] = source.text.toList := by decide
  rw [htext] at hreads
  have hresult : done.1 = _ := hreads.tokenization_eq hlength Settings.predictive Journal.empty
  obtain ⟨others, rest, hothers, -, -, -, htrace⟩ :=
    tokenize_expectations source hlength Settings.predictive Journal.empty
  obtain ⟨rfl, rfl⟩ := hreads.unique hothers
  have hclosing : done.1.closing source = .scanFailed failure := by
    rw [hresult]
    decide
  refine ⟨hlength, htrace.trans ?_⟩
  show _ ++ [done.1.closing source] = _
  rw [hclosing]
  decide

end GrammarScan
