import GrammarScan.Proofs.Scanner.Batches
import GrammarScan.Proofs.Scanner.Strategies

/-!
# What traces tell

A scan records what it does while it does it, and counts the tokens that it has yielded on the way.  What
is recorded in the end is what the result says, in the order of the result: the tokens, and then how the
scan ended (`Tokenization.closing`).  `Tokenization.accountView` writes out what a reader of the trace sees
of that, with titles and fields.  The predictive strategy also records where none of the expected
constructs could be read, and nothing else sets the traces of the two strategies apart.

Both are one induction over the run.  `Journal.kept` is what some choice of events leaves of a trace, and
`Scanner.Keeps` says of a choice that it drops no event but the missed expectations, and these in any case
unless the scanner has no expectations to miss.  To drop them and to keep everything are two such choices.

`tokenize_trace` is the main statement.  As for coverage, the text is taken to have fewer than `maxIndex`
bytes.
-/

namespace GrammarScan

/-! ## Events -/

/-- Whether an event records that none of the expected constructs could be read. -/
def Event.isMiss : Event → Bool
  | .expectationMissed _ _ => true
  | _ => false

/-- An event with another strategy in its fields. -/
def Event.withStrategy (strategy : Strategy) : Event → Event
  | .scanStarted file _ length => .scanStarted file strategy length
  | event => event

/-- What a trace shows of an event: whether work is entered, how much the event matters, its title, and its
fields. -/
structure Event.View where
  isEntry : Bool
  level : Level
  title : String
  fields : List (String × FieldValue)

/-- An event as a trace shows it. -/
def Event.view (event : Event) : Event.View :=
  ⟨event.isEntry, event.level, event.title, event.fields⟩

/-- The event that records a yielded token. -/
def Token.event (token : Token) : Event :=
  .tokenYielded token.kind token.line token.column

/-- The event that records how the scan of a source ended. -/
def Tokenization.closing (tokenization : Tokenization) (source : Source) : Event :=
  match tokenization.failure? with
  | none =>
    .scanFinished source.file tokenization.tokens.length (1 + Text.lineFeeds source.text.toList)
  | some failure => .scanFailed failure

/-- What a trace is to tell of the scan of a source: the entering of the source, the start of the scan, an
event for each token, and how the scan ended. -/
def Tokenization.account (tokenization : Tokenization) (source : Source) (strategy : Strategy) :
    List Event :=
  .sourceEntered source.file source.length :: .scanStarted source.file strategy source.length ::
    (tokenization.tokens.map Token.event ++ [tokenization.closing source])

/-- What a trace is to show of a yielded token. -/
def Token.eventView (token : Token) : Event.View :=
  ⟨false, .trace, "token",
    [("kind", .text token.kind.name), ("line", .number token.line), ("column", .number token.column)]⟩

/-- What a trace is to show of how the scan of a source ended. -/
def Tokenization.closingView (tokenization : Tokenization) (source : Source) : Event.View :=
  match tokenization.failure? with
  | none =>
    ⟨false, .debug, "scan finished",
      [("file", .text source.file.path), ("tokens", .number tokenization.tokens.length),
        ("lines", .number (1 + Text.lineFeeds source.text.toList))]⟩
  | some failure =>
    ⟨false, .warn, failure.message,
      [("file", .text source.file.path), ("line", .number failure.line)]⟩

/-- What a trace is to show of the scan of a source. -/
def Tokenization.accountView (tokenization : Tokenization) (source : Source) (strategy : Strategy) :
    List Event.View :=
  ⟨true, .debug, "tokenize",
      [("file", .text source.file.path), ("len", .number source.length)]⟩ ::
    ⟨false, .debug, "scan started",
      [("file", .text source.file.path), ("strategy", .text strategy.name),
        ("len", .number source.length)]⟩ ::
    (tokenization.tokens.map Token.eventView ++ [tokenization.closingView source])

/-- The events that record how a scanner ended. -/
def Ending.events (scanner : Scanner) : Ending → List Event
  | .complete => [.scanFinished scanner.cursor.file scanner.yielded scanner.cursor.line]
  | .failed failure => [.scanFailed failure]
  | .broken _ => []

/-- The events that record an answer, with the scanner behind it. -/
def Answer.events (scanner : Scanner) : Answer → List Event
  | .token read => [read.event]
  | .stop ending => ending.events scanner

/-- What a choice of events leaves of a trace. -/
def Journal.kept (keep : Event → Bool) (journal : Journal) : List Event :=
  journal.trace.toList.filter keep

/-- All that a scanner may record is kept, but for the missed expectations where it has expectations. -/
structure Scanner.Keeps (keep : Event → Bool) (scanner : Scanner) : Prop where
  of_not_isMiss : ∀ event : Event, event.isMiss = false → keep event = true
  misses : scanner.expected = none ∨ ∀ event : Event, event.isMiss = true → keep event = false

/-! ## Accounts -/

namespace Tokenization

lemma closing_isMiss (tokenization : Tokenization) (source : Source) :
    (tokenization.closing source).isMiss = false := by
  unfold closing
  split <;> rfl

lemma isMiss_of_mem_account {tokenization : Tokenization} {source : Source} {strategy : Strategy}
    {event : Event} (h : event ∈ tokenization.account source strategy) : event.isMiss = false := by
  simp only [account, List.mem_cons, List.mem_append, List.mem_map, List.not_mem_nil, or_false] at h
  rcases h with rfl | rfl | ⟨token, -, rfl⟩ | rfl
  · rfl
  · rfl
  · rfl
  · exact tokenization.closing_isMiss source

lemma closing_withStrategy (tokenization : Tokenization) (source : Source) (strategy : Strategy) :
    (tokenization.closing source).withStrategy strategy = tokenization.closing source := by
  unfold closing
  split <;> rfl

/-- Accounts of the same result differ in the strategy only. -/
lemma map_withStrategy_account (tokenization : Tokenization) (source : Source)
    (strategy other : Strategy) :
    (tokenization.account source strategy).map (Event.withStrategy other) =
      tokenization.account source other := by
  have htokens : (tokenization.tokens.map Token.event).map (Event.withStrategy other) =
      tokenization.tokens.map Token.event := List.map_map ..
  unfold account
  rw [List.map_cons, List.map_cons, List.map_append, htokens, List.map_singleton,
    closing_withStrategy]
  rfl

lemma view_closing {tokenization : Tokenization} {source : Source}
    (hfile : ∀ failure, tokenization.failure? = some failure → failure.file = source.file) :
    (tokenization.closing source).view = tokenization.closingView source := by
  unfold closing closingView
  cases hfailure : tokenization.failure? with
  | none => rfl
  | some failure =>
    rw [← hfile failure hfailure]
    rfl

/-- An account is shown event by event. -/
lemma map_view_account {tokenization : Tokenization} {source : Source}
    (hfile : ∀ failure, tokenization.failure? = some failure → failure.file = source.file)
    (strategy : Strategy) :
    (tokenization.account source strategy).map Event.view =
      tokenization.accountView source strategy := by
  have htokens : (tokenization.tokens.map Token.event).map Event.view =
      tokenization.tokens.map Token.eventView := List.map_map ..
  unfold account accountView
  rw [List.map_cons, List.map_cons, List.map_append, htokens, List.map_singleton, view_closing hfile]
  rfl

end Tokenization

section Kept

variable {keep : Event → Bool} {event : Event}

lemma Journal.kept_withReport (journal : Journal) (report : Report) :
    (journal.withReport report).kept keep = journal.kept keep := rfl

lemma Journal.kept_record_of_pos (h : keep event = true) (journal : Journal) :
    (journal.record event).kept keep = journal.kept keep ++ [event] := by
  unfold kept record
  rw [Array.toList_push, List.filter_append, List.filter_cons_of_pos h, List.filter_nil]

lemma Journal.kept_record_of_neg (h : keep event = false) (journal : Journal) :
    (journal.record event).kept keep = journal.kept keep := by
  unfold kept record
  rw [Array.toList_push, List.filter_append, List.filter_cons_of_neg (by simp [h]), List.filter_nil,
    List.append_nil]

/-! ## One lexeme -/

namespace Dispatch

lemma byStarter_trace (cursor : Cursor) (symbol : Char) (journal : Journal) :
    (byStarter cursor symbol journal).2.trace = journal.trace := by
  unfold byStarter
  split
  · rfl
  · split <;> rfl

/-- Dispatch records nothing that is kept. -/
lemma find_kept {expected : Option (List Construct)}
    (h : expected = none ∨ ∀ event : Event, event.isMiss = true → keep event = false)
    (cursor : Cursor) (symbol : Char) (journal : Journal) :
    (find expected cursor symbol journal).2.kept keep = journal.kept keep := by
  have hstarter : ∀ written : Journal,
      (byStarter cursor symbol written).2.kept keep = written.kept keep := by
    intro written
    unfold Journal.kept
    rw [byStarter_trace]
  cases expected with
  | none => exact hstarter journal
  | some constructs =>
    have hmiss : keep (.expectationMissed symbol cursor.line) = false :=
      (h.resolve_left (by simp)) _ rfl
    unfold find
    dsimp only
    split
    · rfl
    · rw [hstarter, Journal.kept_record_of_neg hmiss, Journal.kept_withReport]
    · rfl

end Dispatch

namespace Scanner

variable {scanner after : Scanner} {journal later : Journal} {token : Token} {ending : Ending}

/-- Reading a lexeme records nothing that is kept, and the scan goes on. -/
lemma Keeps.step_token (h : scanner.Keeps keep)
    (hstep : scanner.step journal = ⟨.token token, after, later⟩) :
    later.kept keep = journal.kept keep ∧ after.Keeps keep ∧ after.phase = .scanning ∧
      after.yielded = scanner.yielded := by
  unfold step at hstep
  split at hstep
  · simp [finish] at hstep
  · rename_i symbol left hphase hrest
    have hkept := Dispatch.find_kept h.misses scanner.cursor.unmarked symbol journal
    generalize Dispatch.find scanner.expected scanner.cursor.unmarked symbol journal = found
      at hstep hkept
    rcases found with ⟨acceptance | cause | fault, written⟩
    · obtain ⟨-, rfl, rfl⟩ := Progress.mk.inj hstep
      refine ⟨hkept, ⟨h.of_not_isMiss, ?_⟩, hphase, rfl⟩
      -- behind a lexeme, something is expected only if something was before
      exact h.misses.imp_left fun hnone => by simp [hnone]
    · simp [fail] at hstep
    · simp at hstep
  · simp at hstep

/-- A step that ends a scan records how. -/
lemma Keeps.step_stop (h : scanner.Keeps keep) (hphase : scanner.phase = .scanning)
    (hstep : scanner.step journal = ⟨.stop ending, after, later⟩) :
    later.kept keep = journal.kept keep ++ ending.events after ∧
      after.yielded = scanner.yielded := by
  unfold step at hstep
  split at hstep
  · obtain ⟨hending, rfl, rfl⟩ := Progress.mk.inj hstep
    obtain rfl := Answer.stop.inj hending
    exact ⟨Journal.kept_record_of_pos (h.of_not_isMiss _ rfl) journal, rfl⟩
  · rename_i symbol left _ hrest
    have hkept := Dispatch.find_kept h.misses scanner.cursor.unmarked symbol journal
    generalize Dispatch.find scanner.expected scanner.cursor.unmarked symbol journal = found
      at hstep hkept
    rcases found with ⟨acceptance | cause | fault, written⟩
    · simp [accept] at hstep
    · obtain ⟨hending, rfl, rfl⟩ := Progress.mk.inj hstep
      obtain rfl := Answer.stop.inj hending
      refine ⟨?_, rfl⟩
      rw [Journal.kept_withReport, Journal.kept_record_of_pos (h.of_not_isMiss _ rfl), ← hkept]
      rfl
    · obtain ⟨hending, rfl, rfl⟩ := Progress.mk.inj hstep
      obtain rfl := Answer.stop.inj hending
      exact ⟨hkept.trans (List.append_nil _).symm, rfl⟩
  · rename_i hfinish hgo
    cases hrest : scanner.cursor.rest with
    | nil => exact absurd hrest (hfinish hphase)
    | cons symbol left => exact absurd hrest (hgo symbol left hphase)

/-! ## Requests and whole scans -/

/-- A request records its answer. -/
theorem Keeps.next (h : scanner.Keeps keep) (hphase : scanner.phase = .scanning)
    (journal : Journal) :
    let done := scanner.next journal
    done.journal.kept keep = journal.kept keep ++ done.result.events done.scanner ∧
      (∀ token, done.result = .token token →
        done.scanner.Keeps keep ∧ done.scanner.phase = .scanning) ∧
      done.scanner.yielded = scanner.yielded + done.result.token?.toList.length := by
  fun_induction Scanner.next scanner journal with
  | case1 scanner journal token after later hstep hskip ih =>
    -- a lexeme that is passed over leaves no event and is not counted
    obtain ⟨hkept, hafter, hscanning, hyielded⟩ := h.step_token hstep
    rw [← hkept, ← hyielded]
    exact ih hafter hscanning
  | case2 scanner journal token after later hstep hkeep =>
    obtain ⟨hkept, hafter, hscanning, hyielded⟩ := h.step_token hstep
    rw [← hkept, ← hyielded]
    unfold yield
    split
    · refine ⟨Journal.kept_record_of_pos (hafter.of_not_isMiss _ rfl) later, ?_, rfl⟩
      exact fun _ _ => ⟨⟨hafter.of_not_isMiss, hafter.misses⟩, hscanning⟩
    · exact ⟨(List.append_nil _).symm, by simp, rfl⟩
  | case3 scanner journal ending after later hstep =>
    obtain ⟨hkept, hyielded⟩ := h.step_stop hphase hstep
    exact ⟨hkept, by simp, hyielded⟩

/-- A scan records its tokens in order and how it ends, and counts the tokens. -/
theorem Keeps.drain (h : scanner.Keeps keep) (hphase : scanner.phase = .scanning)
    (journal : Journal) :
    let done := scanner.drain journal
    done.journal.kept keep =
        journal.kept keep ++ done.result.tokens.map Token.event ++
          done.result.ending.events done.scanner ∧
      done.scanner.yielded = scanner.yielded + done.result.tokens.length := by
  fun_induction Scanner.drain scanner journal with
  | case1 scanner journal ending after later hnext =>
    obtain ⟨hkept, -, hyielded⟩ := h.next hphase journal
    rw [hnext] at hkept hyielded
    refine ⟨?_, hyielded⟩
    rw [List.map_nil, List.append_nil]
    exact hkept
  | case2 scanner journal token after later hnext drained ih =>
    obtain ⟨hkept, hafter, hyielded⟩ := h.next hphase journal
    rw [hnext] at hkept hafter hyielded
    have hrecorded : later.kept keep = journal.kept keep ++ [token.event] := hkept
    have hnumber : after.yielded = scanner.yielded + 1 := hyielded
    obtain ⟨hkeeps, hscanning⟩ := hafter token rfl
    obtain ⟨hothers, hcount⟩ := ih hkeeps hscanning
    refine ⟨hothers.trans ?_, hcount.trans ?_⟩
    · rw [hrecorded, List.append_assoc (journal.kept keep)]
      rfl
    · rw [hnumber, Nat.add_assoc, Nat.add_comm 1]
      rfl

end Scanner

/-! ## Sources -/

namespace Source

variable {source : Source} {settings : Settings}

/-- How the scanner of a source says that it ended is how the result says it. -/
lemma events_eq_closing (hlength : source.length < maxIndex) (journal : Journal) :
    let begun := Scanner.start source settings journal
    let done := begun.1.drain begun.2
    done.scanner.yielded = done.result.tokens.length →
      done.result.ending.events done.scanner = [done.result.closing source] := by
  intro begun done hyielded
  have hstart : begun.1.HasRead source settings [] := Scanner.hasRead_start source settings journal
  obtain ⟨before, hread⟩ := hstart.drained begun.2
  change done.scanner.HasRead source settings before at hread
  have hfound := hstart.drain_ending_isFoundAt rfl begun.2
  change done.result.ending.IsFoundAt source settings done.scanner.cursor.rest at hfound
  unfold Tokenization.closing Tokenization.failure?
  cases hending : done.result.ending with
  | complete =>
    rw [hending] at hfound
    have hrest : done.scanner.cursor.rest = [] := hfound
    have htext : source.text.toList = before := by
      rw [hread.text_eq, hrest, List.append_nil]
    have hfile : done.scanner.cursor.file = source.file := congrArg Source.file hread.source_eq
    rw [Ending.events, hyielded, hfile, hread.standsBehind.line_eq, htext]
  | failed failure => rfl
  | broken fault =>
    rw [hending] at hfound
    exact absurd (show maxIndex ≤ source.length from hfound) (not_le.2 hlength)

/-- What a choice of events leaves of the trace of a scan, unless it drops other events than missed
expectations or keeps some of these, is what the result says. -/
theorem tokenize_kept (hlength : source.length < maxIndex)
    (hall : ∀ event : Event, event.isMiss = false → keep event = true)
    (hmisses : settings.strategy = .pattern ∨
      ∀ event : Event, event.isMiss = true → keep event = false) (journal : Journal) :
    let done := source.tokenize settings journal
    done.2.kept keep = journal.kept keep ++ done.1.account source settings.strategy := by
  intro done
  set entered := journal.record (.sourceEntered source.file source.length) with hentered
  have hkeeps : (Scanner.start source settings entered).1.Keeps keep := by
    refine ⟨hall, hmisses.imp_left fun hpattern => ?_⟩
    simp [Scanner.start, hpattern]
  obtain ⟨hkept, hyielded⟩ := hkeeps.drain rfl (Scanner.start source settings entered).2
  have hstarted : (Scanner.start source settings entered).2.kept keep = journal.kept keep ++
      [.sourceEntered source.file source.length] ++
        [.scanStarted source.file settings.strategy source.length] := by
    rw [← Journal.kept_record_of_pos (hall _ rfl), ← Journal.kept_record_of_pos (hall _ rfl)]
    rfl
  rw [events_eq_closing hlength entered (hyielded.trans (Nat.zero_add _)), hstarted] at hkept
  refine Eq.trans hkept ?_
  simp only [List.append_assoc, List.cons_append, List.nil_append]
  rfl

/-- The strategies have the same result. -/
lemma tokenize_withStrategy (source : Source) (settings : Settings) (journal : Journal) :
    (source.tokenize (settings.withStrategy .predictive) journal).1 =
      (source.tokenize (settings.withStrategy .pattern) journal).1 := by
  obtain ⟨hstart, hreport⟩ := Scanner.start_agrees source settings
    (journal.record (.sourceEntered source.file source.length))
  exact (Scanner.drain_agrees hstart hreport).result_eq

lemma file_of_failure? (hlength : source.length < maxIndex) {journal : Journal} {failure : Failure}
    (h : (source.tokenize settings journal).1.failure? = some failure) :
    failure.file = source.file := by
  obtain ⟨lexemes, rest, hreads⟩ := exists_readsInFull source.text.toList
  rw [hreads.failure?_eq hlength] at h
  cases rest with
  | nil => simp [Failure.before?] at h
  | cons symbol left =>
    obtain rfl := Option.some.inj h
    rfl

end Source

end Kept

/-- The trace of a scan stands behind what was recorded before.  Without the missed expectations it is
the entering of the source, the start of the scan, an event for each token of the result in order, and an
event that says how the result ends: with the number of tokens and of lines, or with a warning that has
the message, the file and the line of the failure.  `Tokenization.accountView` has the titles and the
fields that are shown of these.  With the pattern strategy no expectation is missed, and in all else the
traces of the two strategies differ in the name of the strategy only.  The trace of a batch is that of its
sources in order, between the number of sources and the number of results with a failure. -/
theorem tokenize_trace (source : Source) (hlength : source.length < maxIndex) (settings : Settings)
    (journal : Journal) :
    let traceOf := fun (source : Source) (settings : Settings) =>
      (source.tokenize settings Journal.empty).2.trace.toList
    let done := source.tokenize settings journal
    let pattern := traceOf source (settings.withStrategy .pattern)
    let predictive := traceOf source (settings.withStrategy .predictive)
    done.2.trace.toList = journal.trace.toList ++ traceOf source settings ∧
      (traceOf source settings).filter (!·.isMiss) = done.1.account source settings.strategy ∧
      ((traceOf source settings).filter (!·.isMiss)).map Event.view =
        done.1.accountView source settings.strategy ∧
      (∀ failure, done.1.failure? = some failure →
        (done.1.closing source).level = .warn ∧ (done.1.closing source).title = failure.message ∧
          (done.1.closing source).fields =
            [("file", .text source.file.path), ("line", .number failure.line)]) ∧
      pattern.filter Event.isMiss = [] ∧
      predictive.filter (!·.isMiss) = pattern.map (Event.withStrategy .predictive) ∧
      ∀ sources : List Source,
        let batch := Source.tokenizeAll sources settings journal
        let failed := batch.1.countP (·.failure?.isSome)
        batch.2.trace.toList = journal.trace.toList ++ .batchEntered sources.length ::
            (sources.flatMap fun source => traceOf source settings) ++ [.batchFinished failed] ∧
          batch.2.trace.toList.map Event.view = journal.trace.toList.map Event.view ++
            ⟨true, .debug, "tokenize_batch", [("sources", .number sources.length)]⟩ ::
              (sources.flatMap fun source => (traceOf source settings).map Event.view) ++
                [⟨false, .debug, "batch finished", [("failed", .number failed)]⟩] := by
  intro traceOf done pattern predictive
  have halone : done = (source.tokenize settings .empty).map id (journal ++ ·) :=
    source.tokenize_eq_alone settings journal
  have hdrop : ∀ event : Event, event.isMiss = true → (!event.isMiss) = false := by
    intro event hmiss
    rw [hmiss]
    rfl
  have hother : ∀ event : Event, event.isMiss = false → (!event.isMiss) = true := by
    intro event hmiss
    rw [hmiss]
    rfl
  have hpattern : pattern =
      (source.tokenize (settings.withStrategy .pattern) .empty).1.account source .pattern := by
    rw [← List.filter_true pattern]
    exact Source.tokenize_kept hlength (fun _ _ => rfl) (.inl rfl) .empty
  have hpredictive : predictive.filter (!·.isMiss) =
      (source.tokenize (settings.withStrategy .predictive) .empty).1.account source .predictive :=
    Source.tokenize_kept hlength hother (.inr hdrop) .empty
  have haccount : (traceOf source settings).filter (!·.isMiss) =
      done.1.account source settings.strategy := by
    rw [halone]
    exact Source.tokenize_kept hlength hother (.inr hdrop) .empty
  have hfile : ∀ failure, done.1.failure? = some failure → failure.file = source.file :=
    fun _ => Source.file_of_failure? hlength
  refine ⟨?_, haccount, ?_, ?_, ?_, ?_, ?_⟩
  · rw [halone]
    exact Array.toList_append
  · rw [haccount]
    exact Tokenization.map_view_account hfile _
  · intro failure hfailure
    have hview := Tokenization.view_closing hfile
    rw [Tokenization.closingView, hfailure] at hview
    obtain ⟨-, hlevel, htitle, hfields⟩ := Event.View.mk.inj hview
    exact ⟨hlevel, htitle, hfields⟩
  · rw [hpattern, List.filter_eq_nil_iff]
    intro event hevent
    rw [Tokenization.isMiss_of_mem_account hevent]
    decide
  · rw [hpredictive, hpattern, Source.tokenize_withStrategy,
      Tokenization.map_withStrategy_account]
  · intro sources batch failed
    have hbatch := Source.tokenizeAll_trace sources settings journal
    refine ⟨hbatch, ?_⟩
    rw [hbatch, List.map_append, List.map_append, List.map_cons, List.map_flatMap]
    rfl

/-- A scan that misses an expectation, at an end right behind the start of a definition, and that stops at
a character with which nothing starts. -/
theorem tokenize_trace_unknown_symbol :
    let source : Source := ⟨⟨"rules.ebnf"⟩, "<a>\n::=;$"⟩
    let failure : Failure := ⟨source.file, 2, .unknownSymbol '$', "$"⟩
    let done := source.tokenize Settings.predictive Journal.empty
    source.length < maxIndex ∧ done.1.failure? = some failure ∧
      done.2.trace.toList.filter (!·.isMiss) =
        [.sourceEntered source.file 9, .scanStarted source.file .predictive 9,
          .tokenYielded .nonTerminal 1 1, .tokenYielded (.symbol .definitionStart) 2 1,
          .tokenYielded (.symbol .definitionEnd) 2 4, .scanFailed failure] := by
  intro source failure done
  have hlength : source.length < maxIndex := by decide
  let lexemes : List Lexeme := [.nonTerminal ['a'], .whitespace ['\n'], .symbol .definitionStart,
    .symbol .definitionEnd]
  have hspellings : ReadsInFull (Lexeme.spellings lexemes) lexemes [] :=
    readsInFull_spellings (by decide) (by decide)
  have hstuck : (Failure.Cause.unknownSymbol '$').IsFoundAt ['$'] := ⟨rfl, by decide⟩
  have hreads : ReadsInFull (Lexeme.spellings lexemes ++ ['$']) lexemes ['$'] := by
    refine ⟨hspellings.reads.append ?_, (Failure.isFoundAt_cons_iff.1 hstuck).2⟩
    rintro last ⟨⟩
    trivial
  have htext : Lexeme.spellings lexemes ++ ['$'] = source.text.toList := by decide
  rw [htext] at hreads
  have hresult : done.1 = _ := hreads.tokenization_eq hlength Settings.predictive Journal.empty
  obtain ⟨-, htold, -⟩ := tokenize_trace source hlength Settings.predictive Journal.empty
  refine ⟨hlength, ?_, htold.trans ?_⟩
  · rw [hresult]
    decide
  · show done.1.account source .predictive = _
    rw [hresult]
    decide

end GrammarScan
