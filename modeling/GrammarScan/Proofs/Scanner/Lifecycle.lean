import GrammarScan.Proofs.Scanner.Readings
import GrammarScan.Proofs.Scanner.Strategies

/-!
# The life of a scanner

A scanner can be asked for its next token, for its next item as an iterator, and for everything that is
left.  However the three are mixed, what is asked comes down to a number of plain requests
(`exists_requests_eq_respondAll`), and what these show is the tokens of the scan, then its end, and from
then on nothing but that the input is complete (`Tokenization.answers`).

A request takes steps until it can be answered, and each step leaves less to read.  So a request can
be carried out within a number of steps that is known beforehand, which is what `respondWithin` does: it
recurses on this number only, and where it gives a result, the result is that of the request.

`respondAll_lifecycle` is the main statement.  As for coverage, the text is taken to have fewer than
`maxIndex` bytes.
-/

namespace GrammarScan

/-! ## Requests of three kinds -/

/-- What can be asked of a scanner. -/
inductive Request where
  /-- The next token. -/
  | next
  /-- The next item of the scanner as an iterator. -/
  | item
  /-- Everything that is left. -/
  | drain

/-- An answer as an item of an iterator.  Where the input is complete, there is none. -/
def Answer.item? : Answer → Option (Except Ending Token)
  | .token read => some (.ok read)
  | .stop .complete => none
  | .stop ending => some (.error ending)

/-- The answer that an item of an iterator stands for. -/
def Answer.ofItem? : Option (Except Ending Token) → Answer
  | none => .stop .complete
  | some (.ok read) => .token read
  | some (.error ending) => .stop ending

lemma Answer.ofItem?_item? (answer : Answer) : ofItem? answer.item? = answer := by
  cases answer with
  | token read => rfl
  | stop ending => cases ending <;> rfl

/-- What a scanner responds to a request. -/
inductive Response where
  | next (answer : Answer)
  | item (item? : Option (Except Ending Token))
  | drain (tokenization : Tokenization)

/-- The answers that a response shows. -/
def Response.answers : Response → List Answer
  | .next answer => [answer]
  | .item item? => [.ofItem? item?]
  | .drain tokenization => tokenization.tokens.map .token ++ [.stop tokenization.ending]

/-- The first `count` answers that show a scan: its tokens, its end, and then that the input is complete,
over and over. -/
def Tokenization.answers : Tokenization → Nat → List Answer
  | _, 0 => []
  | ⟨[], ending⟩, count + 1 => .stop ending :: List.replicate count (.stop .complete)
  | ⟨token :: tokens, ending⟩, count + 1 => .token token :: answers ⟨tokens, ending⟩ count

namespace Tokenization

lemma answers_zero (tokenization : Tokenization) : tokenization.answers 0 = [] := by
  rw [answers]

lemma length_answers (tokenization : Tokenization) (count : Nat) :
    (tokenization.answers count).length = count := by
  fun_induction answers tokenization count with
  | case1 => rfl
  | case2 last count => rw [List.length_cons, List.length_replicate]
  | case3 token tokens last count ih => rw [List.length_cons, ih]

/-- A scan is over either with its own end or because the input is complete. -/
lemma eq_of_stop_mem_answers {tokenization : Tokenization} {count : Nat} {ending : Ending}
    (h : .stop ending ∈ tokenization.answers count) :
    ending = tokenization.ending ∨ ending = .complete := by
  fun_induction answers tokenization count with
  | case1 => simp at h
  | case2 last count =>
    rcases List.mem_cons.1 h with hfirst | hlater
    · exact .inl (Answer.stop.inj hfirst)
    · exact .inr (Answer.stop.inj (List.eq_of_mem_replicate hlater))
  | case3 token tokens last count ih =>
    rcases List.mem_cons.1 h with hfirst | hlater
    · simp at hfirst
    · exact ih hlater

end Tokenization

/-- The phase that a scanner is in when it has given an answer, in a text that is not too long. -/
def Answer.phase : Answer → Phase
  | .token _ => .scanning
  | .stop (.failed _) => .failed
  | .stop _ => .finished

lemma Answer.phase_stop_ne (ending : Ending) : (Answer.stop ending).phase ≠ .scanning := by
  cases ending <;> simp [phase]

namespace Scanner

/-- Carries out a request. -/
def respond (scanner : Scanner) (journal : Journal) : Request → Progress Response
  | .next =>
    let done := scanner.next journal
    ⟨.next done.result, done.scanner, done.journal⟩
  | .item =>
    let done := scanner.next journal
    ⟨.item done.result.item?, done.scanner, done.journal⟩
  | .drain =>
    let done := scanner.drain journal
    ⟨.drain done.result, done.scanner, done.journal⟩

/-- Carries out one request after the other. -/
def respondAll (scanner : Scanner) (journal : Journal) : List Request → Progress (List Response)
  | [] => ⟨[], scanner, journal⟩
  | request :: others =>
    let first := scanner.respond journal request
    let later := first.scanner.respondAll first.journal others
    { later with result := first.result :: later.result }

variable {scanner after : Scanner} {journal later : Journal}

/-! ## Plain requests -/

lemma requests_add (scanner : Scanner) (journal : Journal) (count more : Nat) :
    let first := scanner.requests journal count
    let others := first.scanner.requests first.journal more
    scanner.requests journal (count + more) =
      { others with result := first.result ++ others.result } := by
  induction count generalizing scanner journal with
  | zero => rw [Nat.zero_add]; rfl
  | succ count ih =>
    have hothers := ih (scanner.next journal).scanner (scanner.next journal).journal
    intro first others
    rw [Nat.add_right_comm, requests, hothers]
    rfl

lemma exists_requests_eq_respond (scanner : Scanner) (journal : Journal) (request : Request) :
    let done := scanner.respond journal request
    ∃ count, scanner.requests journal count = ⟨done.result.answers, done.scanner, done.journal⟩ := by
  cases request with
  | next => exact ⟨1, rfl⟩
  | item =>
    refine ⟨1, ?_⟩
    show _ = Progress.mk [Answer.ofItem? (scanner.next journal).result.item?] _ _
    rw [Answer.ofItem?_item?]
    rfl
  | drain =>
    obtain ⟨count, hresult, hscanner, hjournal⟩ := scanner.exists_requests_eq_drain journal
    refine ⟨count, ?_⟩
    show _ = Progress.mk (_ ++ _) (scanner.drain journal).scanner (scanner.drain journal).journal
    rw [← hscanner, ← hjournal, ← hresult]

/-- However requests are mixed, they come down to a number of plain requests. -/
theorem exists_requests_eq_respondAll (scanner : Scanner) (journal : Journal)
    (requests : List Request) :
    let run := scanner.respondAll journal requests
    ∃ count, scanner.requests journal count =
      ⟨run.result.flatMap Response.answers, run.scanner, run.journal⟩ := by
  induction requests generalizing scanner journal with
  | nil => exact ⟨0, rfl⟩
  | cons request others ih =>
    obtain ⟨count, hfirst⟩ := scanner.exists_requests_eq_respond journal request
    obtain ⟨more, hothers⟩ := ih (scanner.respond journal request).scanner
      (scanner.respond journal request).journal
    refine ⟨count + more, ?_⟩
    rw [requests_add, hfirst]
    simp only [hothers]
    rfl

/-- A scan that is over stays as it is, whatever is asked. -/
lemma respondAll_of_phase_ne (hphase : scanner.phase ≠ .scanning) (journal : Journal)
    (requests : List Request) :
    (scanner.respondAll journal requests).scanner = scanner ∧
      (scanner.respondAll journal requests).journal = journal := by
  obtain ⟨count, hcount⟩ := scanner.exists_requests_eq_respondAll journal requests
  rw [requests_of_phase_ne hphase] at hcount
  obtain ⟨-, hscanner, hjournal⟩ := Progress.mk.inj hcount
  exact ⟨hscanner.symm, hjournal.symm⟩

/-! ## Requests within a number of steps -/

/-- The next token, if it can be told within so many steps. -/
def nextWithin (scanner : Scanner) (journal : Journal) : Nat → Option (Progress Answer)
  | 0 => none
  | limit + 1 =>
    match scanner.step journal with
    | ⟨.token token, after, journal⟩ =>
      if after.passesOver then after.nextWithin journal limit else some (after.yield token journal)
    | ⟨.stop ending, after, journal⟩ => some ⟨.stop ending, after, journal⟩

/-- Everything that is left, if it is told by so many tokens, each within so many steps. -/
def drainWithin (scanner : Scanner) (journal : Journal) : Nat → Option (Progress Tokenization)
  | 0 => none
  | limit + 1 =>
    match scanner.nextWithin journal (limit + 1) with
    | none => none
    | some ⟨.stop ending, after, journal⟩ => some ⟨⟨[], ending⟩, after, journal⟩
    | some ⟨.token token, after, journal⟩ =>
      (after.drainWithin journal limit).map fun later =>
        { later with result := later.result.cons token }

/-- Carries out a request, if that can be done within so many steps. -/
def respondWithin (scanner : Scanner) (journal : Journal) (limit : Nat) :
    Request → Option (Progress Response)
  | .next =>
    (scanner.nextWithin journal limit).map fun done =>
      ⟨.next done.result, done.scanner, done.journal⟩
  | .item =>
    (scanner.nextWithin journal limit).map fun done =>
      ⟨.item done.result.item?, done.scanner, done.journal⟩
  | .drain =>
    (scanner.drainWithin journal limit).map fun done =>
      ⟨.drain done.result, done.scanner, done.journal⟩

/-- A request takes no more steps than there are characters left, and one to notice the end. -/
lemma nextWithin_eq {limit : Nat} (hlimit : scanner.cursor.rest.length < limit) :
    scanner.nextWithin journal limit = some (scanner.next journal) := by
  induction limit generalizing scanner journal with
  | zero => omega
  | succ limit ih =>
    rcases hstep : scanner.step journal with ⟨answer, after, later⟩
    rw [nextWithin, hstep]
    cases answer with
    | token token =>
      have hless := length_rest_lt_of_step (congrArg Progress.result hstep)
      rw [hstep] at hless
      have hafter : after.cursor.rest.length < limit := hless.trans_le (Nat.le_of_lt_succ hlimit)
      rw [next_of_step_token hstep]
      dsimp only
      rw [ih hafter]
      split_ifs <;> rfl
    | stop ending => rw [next_of_step_stop hstep]

lemma drainWithin_eq {limit : Nat} (hlimit : scanner.cursor.rest.length < limit) :
    scanner.drainWithin journal limit = some (scanner.drain journal) := by
  induction limit generalizing scanner journal with
  | zero => omega
  | succ limit ih =>
    rcases hnext : scanner.next journal with ⟨answer, after, later⟩
    rw [drainWithin, nextWithin_eq hlimit, hnext]
    cases answer with
    | token token =>
      have hless := length_rest_lt_of_next (congrArg Progress.result hnext)
      rw [hnext] at hless
      have hafter : after.cursor.rest.length < limit := hless.trans_le (Nat.le_of_lt_succ hlimit)
      rw [drain_of_next_token hnext]
      dsimp only
      rw [ih hafter]
      rfl
    | stop ending => rw [drain_of_next_stop hnext]

/-- Every request is carried out within so many steps. -/
theorem respondWithin_eq {limit : Nat} (hlimit : scanner.cursor.rest.length < limit)
    (request : Request) :
    scanner.respondWithin journal limit request = some (scanner.respond journal request) := by
  cases request with
  | next => rw [respondWithin, nextWithin_eq hlimit]; rfl
  | item => rw [respondWithin, nextWithin_eq hlimit]; rfl
  | drain => rw [respondWithin, drainWithin_eq hlimit]; rfl

/-! ## What is shown -/

namespace HasRead

variable {source : Source} {settings : Settings} {before : List Char}

lemma next_phase (h : scanner.HasRead source settings before) (hphase : scanner.phase = .scanning)
    (hlength : source.length < maxIndex) (journal : Journal) :
    (scanner.next journal).scanner.phase = (scanner.next journal).result.phase := by
  have hanswers := h.next_answers journal
  generalize scanner.next journal = progress at hanswers ⊢
  cases hanswers with
  | token passed cursor lexeme after later _ hstands hsource hfront hscanning hread => exact hscanning
  | ended later hover => exact absurd hphase hover
  | finished passed after later _ hfinished hread => exact hfinished
  | failed passed failure after later _ hfailed hread hline => exact hfailed
  | broken passed after later hlong hread => exact absurd hlong (not_le.2 hlength)

/-- Draining a scanner leaves it in the phase that the end of the scan tells. -/
lemma drain_phase (h : scanner.HasRead source settings before) (hphase : scanner.phase = .scanning)
    (hlength : source.length < maxIndex) (journal : Journal) :
    (scanner.drain journal).scanner.phase =
      (Answer.stop (scanner.drain journal).result.ending).phase := by
  fun_induction Scanner.drain scanner journal generalizing before with
  | case1 scanner journal ending after later hnext =>
    have hafter := h.next_phase hphase hlength journal
    rwa [hnext] at hafter
  | case2 scanner journal token after later hnext drained =>
    rename_i ih
    have hafter := h.next_phase hphase hlength journal
    obtain ⟨piece, hread⟩ := h.next journal
    rw [hnext] at hafter hread
    exact ih hread hafter

/-- Plain requests show the tokens of the scan, its end, and then that the input is complete.  Once
the end is shown, the scanner is where draining it leads to. -/
theorem requests_answers (h : scanner.HasRead source settings before)
    (hphase : scanner.phase = .scanning) (hlength : source.length < maxIndex) (journal : Journal)
    (count : Nat) :
    let run := scanner.requests journal count
    let done := scanner.drain journal
    run.result = done.result.answers count ∧
      ((run.scanner.phase = .scanning ∧ ∀ ending, .stop ending ∉ run.result) ∨
        (run.scanner = done.scanner ∧ run.journal = done.journal ∧
          .stop done.result.ending ∈ run.result)) := by
  induction count generalizing scanner journal before with
  | zero =>
    intro run done
    exact ⟨(Tokenization.answers_zero done.result).symm, .inl ⟨hphase, fun _ => List.not_mem_nil⟩⟩
  | succ count ih =>
    intro run done
    have hafter := h.next_phase hphase hlength journal
    obtain ⟨piece, hread⟩ := h.next journal
    rcases hnext : scanner.next journal with ⟨answer, after, later⟩
    rw [hnext] at hafter hread
    have hrun : run = { after.requests later count with
        result := answer :: (after.requests later count).result } := by
      show scanner.requests journal (count + 1) = _
      rw [Scanner.requests, hnext]
    cases answer with
    | token token =>
      have hdone : done = { after.drain later with result := (after.drain later).result.cons token } :=
        drain_of_next_token hnext
      obtain ⟨hresult, hstate⟩ := ih hread hafter later
      rw [hrun, hdone]
      refine ⟨congrArg (Answer.token token :: ·) hresult, ?_⟩
      rcases hstate with ⟨hscanning, hnone⟩ | ⟨hscanner, hjournal, hmem⟩
      · refine .inl ⟨hscanning, fun ending hstop => ?_⟩
        rcases List.mem_cons.1 hstop with hfirst | hlater
        · simp at hfirst
        · exact hnone ending hlater
      · exact .inr ⟨hscanner, hjournal, List.mem_cons_of_mem _ hmem⟩
    | stop ending =>
      have hdone : done = ⟨⟨[], ending⟩, after, later⟩ := drain_of_next_stop hnext
      have hover : after.phase ≠ .scanning := by
        rw [hafter]
        exact Answer.phase_stop_ne ending
      rw [requests_of_phase_ne hover] at hrun
      rw [hrun, hdone]
      exact ⟨rfl, .inr ⟨rfl, rfl, List.mem_cons_self⟩⟩

/-- Requests of all kinds show the same, and lead to the same. -/
theorem respondAll_answers (h : scanner.HasRead source settings before)
    (hphase : scanner.phase = .scanning) (hlength : source.length < maxIndex) (journal : Journal)
    (requests : List Request) :
    let run := scanner.respondAll journal requests
    let done := scanner.drain journal
    let shown := run.result.flatMap Response.answers
    shown = done.result.answers shown.length ∧
      ((run.scanner.phase = .scanning ∧ ∀ ending, .stop ending ∉ shown) ∨
        (run.scanner = done.scanner ∧ run.journal = done.journal ∧
          .stop done.result.ending ∈ shown)) ∧
      ∃ piece, run.scanner.HasRead source settings (before ++ piece) := by
  intro run done shown
  obtain ⟨count, hcount⟩ := scanner.exists_requests_eq_respondAll journal requests
  obtain ⟨hresult, hstate⟩ := h.requests_answers hphase hlength journal count
  obtain ⟨piece, hread⟩ := h.requests journal count
  have hshown : (scanner.requests journal count).result = shown := congrArg Progress.result hcount
  have hscanner : (scanner.requests journal count).scanner = run.scanner :=
    congrArg Progress.scanner hcount
  have hjournal : (scanner.requests journal count).journal = run.journal :=
    congrArg Progress.journal hcount
  rw [hscanner, hjournal, hshown] at hstate
  rw [hshown] at hresult
  rw [hscanner] at hread
  have hlengthShown : shown.length = count := by
    rw [hresult, Tokenization.length_answers]
  exact ⟨hlengthShown ▸ hresult, hstate, piece, hread⟩

/-- The scanner has failed exactly if a failure was shown. -/
lemma hasFailed_respondAll_iff (h : scanner.HasRead source settings before)
    (hphase : scanner.phase = .scanning) (hlength : source.length < maxIndex) (journal : Journal)
    (requests : List Request) :
    let run := scanner.respondAll journal requests
    run.scanner.hasFailed = true ↔
      ∃ failure, .stop (.failed failure) ∈ run.result.flatMap Response.answers := by
  intro run
  obtain ⟨hshown, hstate, -⟩ := h.respondAll_answers hphase hlength journal requests
  rcases hstate with ⟨hscanning, hnone⟩ | ⟨hscanner, -, hmem⟩
  · refine iff_of_false ?_ ?_
    · rw [hasFailed, hscanning]
      decide
    · rintro ⟨failure, hfailed⟩
      exact hnone _ hfailed
  · have hdone := h.drain_phase hphase hlength journal
    rw [hasFailed, hscanner, hdone]
    constructor
    · intro hfailed
      generalize (scanner.drain journal).result.ending = ending at hfailed hmem
      cases ending with
      | complete => simp [Answer.phase] at hfailed
      | failed failure => exact ⟨failure, hmem⟩
      | broken fault => simp [Answer.phase] at hfailed
    · rintro ⟨failure, hfailed⟩
      rw [hshown] at hfailed
      have hending := (Tokenization.eq_of_stop_mem_answers hfailed).resolve_right (by simp)
      rw [← hending]
      rfl

end HasRead

end Scanner

/-- Whether the entry into a scan is recorded makes no difference to its result and its report. -/
lemma drain_start (source : Source) (settings : Settings) (journal : Journal) :
    let begun := Scanner.start source settings journal
    (begun.1.drain begun.2).result = (source.tokenize settings journal).1 ∧
      (begun.1.drain begun.2).journal.report = (source.tokenize settings journal).2.report := by
  intro begun
  have hsame : begun.1.Agrees begun.1 := ⟨rfl, rfl, rfl, rfl, rfl⟩
  have hagree := Scanner.drain_agrees hsame (show begun.2.report = (Scanner.start source settings
    (journal.record (.sourceEntered source.file source.length))).2.report from rfl)
  exact ⟨hagree.result_eq, hagree.report_eq⟩

/-- A scan has no more tokens than its text has bytes. -/
lemma length_tokens_le (source : Source) (hlength : source.length < maxIndex) (settings : Settings)
    (journal : Journal) : (source.tokenize settings journal).1.tokens.length ≤ source.length := by
  obtain ⟨lexemes, rest, hreads⟩ := exists_readsInFull source.text.toList
  have hplaced : (Lexeme.placedBehind [] lexemes).length = lexemes.length := by
    rw [← List.length_map PlacedLexeme.lexeme, Lexeme.map_lexeme_placedBehind]
  rw [hreads.tokenization_eq hlength, List.length_map]
  calc ((Lexeme.placedBehind [] lexemes).filter settings.yields).length
      ≤ (Lexeme.placedBehind [] lexemes).length := List.length_filter_le _ _
    _ = lexemes.length := hplaced
    _ ≤ source.text.toList.length := hreads.reads.length_le
    _ ≤ source.length := Text.length_le_byteLength _

/-- However requests are mixed, each of them is carried out within a number of steps that the length of
the text tells.  What they show is the tokens of the scan, then its end, which is the end of the input or
a failure, and then that the input is complete.  The scanner has failed exactly if a failure was shown,
and once an end was shown, no request changes the scanner or what was written. -/
theorem respondAll_lifecycle (source : Source) (hlength : source.length < maxIndex)
    (settings : Settings) (journal : Journal) (requests : List Request) :
    let begun := Scanner.start source settings journal
    let run := begun.1.respondAll begun.2 requests
    let shown := run.result.flatMap Response.answers
    let scanned := source.tokenize settings journal
    (∀ request, run.scanner.respondWithin run.journal (source.length + 1) request =
        some (run.scanner.respond run.journal request)) ∧
      shown = scanned.1.answers shown.length ∧
      scanned.1.ending = .ofFailure? scanned.1.failure? ∧
      scanned.1.tokens.length ≤ source.length ∧
      (run.scanner.hasFailed = true ↔ ∃ failure, .stop (.failed failure) ∈ shown) ∧
      ((∃ ending, .stop ending ∈ shown) →
        run.journal.report = scanned.2.report ∧
          ∀ later, (run.scanner.respondAll run.journal later).scanner = run.scanner ∧
            (run.scanner.respondAll run.journal later).journal = run.journal) := by
  intro begun run shown scanned
  have hstart : begun.1.HasRead source settings [] := Scanner.hasRead_start source settings journal
  obtain ⟨hdone, hreport⟩ := drain_start source settings journal
  obtain ⟨hshown, hstate, piece, hread⟩ := hstart.respondAll_answers rfl hlength begun.2 requests
  refine ⟨?_, ?_, ?_, length_tokens_le source hlength settings journal, ?_, ?_⟩
  · intro request
    exact Scanner.respondWithin_eq (Nat.lt_succ_of_le hread.length_rest_le) request
  · rw [← hdone]
    exact hshown
  · obtain ⟨lexemes, rest, hreads⟩ := exists_readsInFull source.text.toList
    rw [hreads.failure?_eq hlength, hreads.tokenization_eq hlength]
  · exact hstart.hasFailed_respondAll_iff rfl hlength begun.2 requests
  · rintro ⟨ending, hstop⟩
    rcases hstate with ⟨-, hnone⟩ | ⟨hscanner, hjournal, -⟩
    · exact absurd hstop (hnone ending)
    · have hover : run.scanner.phase ≠ .scanning := by
        rw [hscanner, hstart.drain_phase rfl hlength begun.2]
        exact Answer.phase_stop_ne _
      refine ⟨?_, Scanner.respondAll_of_phase_ne hover run.journal⟩
      rw [hjournal]
      exact hreport

/-- A name with a defect and a comment, in front of a quoted text that is never closed: the third
request and the fourth find nothing left to do. -/
theorem respondAll_lifecycle_open_terminal :
    let source : Source := ⟨⟨"open.ebnf"⟩, "<a b> /* c */ ::= \"d"⟩
    let begun := Scanner.start source Settings.predictive Journal.empty
    let run := begun.1.respondAll begun.2 [.item, .drain, .next, .item]
    let shown := run.result.flatMap Response.answers
    let scanned := source.tokenize Settings.predictive Journal.empty
    source.length < maxIndex ∧ shown = scanned.1.answers shown.length ∧
      (run.scanner.hasFailed = true ↔ ∃ failure, .stop (.failed failure) ∈ shown) ∧
      (∃ ending, .stop ending ∈ shown) ∧ run.journal.report = scanned.2.report := by
  intro source begun run shown scanned
  have hlength : source.length < maxIndex := by decide
  obtain ⟨-, hshown, -, -, hfailed, hover⟩ := respondAll_lifecycle source hlength
    Settings.predictive Journal.empty [.item, .drain, .next, .item]
  have hstop : ∃ ending, .stop ending ∈ shown := by
    refine ⟨(begun.1.next begun.2).scanner.drain (begun.1.next begun.2).journal |>.result.ending, ?_⟩
    simp [shown, run, Scanner.respondAll, Scanner.respond, Response.answers]
  exact ⟨hlength, hshown, hfailed, hstop, (hover hstop).1⟩

end GrammarScan
