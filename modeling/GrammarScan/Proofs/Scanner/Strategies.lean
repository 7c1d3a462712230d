import GrammarScan.Proofs.Scanner.Requests

/-!
# The strategies read alike

A scanner with the predictive strategy expects some constructs before others, and what it expects
depends on everything it has read so far, trivia included.  Two scanners that agree but for their
strategy and their expectations nevertheless stay in lockstep: `step_agrees` shows it for one
lexeme, and requests, sequences of requests and whole scans follow.  The journals agree in their
reports; the trace of the predictive scan also has the missed expectations.

`predictive_agrees_pattern` is the main statement.
-/

namespace GrammarScan

/-- Two scanners agree but for the strategy and for what they expect next. -/
structure Scanner.Agrees (a b : Scanner) : Prop where
  cursor_eq : a.cursor = b.cursor
  phase_eq : a.phase = b.phase
  yielded_eq : a.yielded = b.yielded
  previewLength_eq : a.settings.previewLength = b.settings.previewLength
  keepTrivia_eq : a.settings.keepTrivia = b.settings.keepTrivia

/-- Two requests have the same result, leave scanners that agree, and have reported the same. -/
structure Progress.Agrees {α : Type} (p q : Progress α) : Prop where
  result_eq : p.result = q.result
  scanner_agrees : p.scanner.Agrees q.scanner
  report_eq : p.journal.report = q.journal.report

namespace Scanner

variable {a b : Scanner} {j k : Journal}

lemma Agrees.preview_eq (h : a.Agrees b) : a.preview = b.preview := by
  unfold preview
  rw [h.cursor_eq, h.previewLength_eq]

lemma Agrees.passesOver_eq (h : a.Agrees b) : a.passesOver = b.passesOver := by
  unfold passesOver
  rw [h.cursor_eq, h.keepTrivia_eq]

lemma finish_agrees (h : a.Agrees b) (hreport : j.report = k.report) :
    (a.finish j).Agrees (b.finish k) where
  result_eq := rfl
  scanner_agrees := { h with phase_eq := rfl }
  report_eq := hreport

lemma fail_agrees (h : a.Agrees b) (hreport : j.report = k.report) (cause : Failure.Cause) :
    (a.fail cause j).Agrees (b.fail cause k) where
  result_eq := by
    simp only [fail, h.cursor_eq, h.preview_eq]
  scanner_agrees := { h with phase_eq := rfl }
  report_eq := by
    simp only [fail, Journal.withReport, Journal.record, h.cursor_eq, h.preview_eq, hreport]

lemma accept_agrees (h : a.Agrees b) (hreport : j.report = k.report) (acceptance : Acceptance) :
    (a.accept acceptance j).Agrees (b.accept acceptance k) where
  result_eq := rfl
  scanner_agrees := { h with cursor_eq := rfl }
  report_eq := hreport

lemma yield_agrees (h : a.Agrees b) (hreport : j.report = k.report) (token : Token) :
    (a.yield token j).Agrees (b.yield token k) := by
  unfold yield
  rw [h.yielded_eq]
  split
  · exact ⟨rfl, { h with yielded_eq := rfl }, hreport⟩
  · exact ⟨rfl, h, hreport⟩

/-- Whatever two scanners expect at a cursor, they find the same. -/
lemma find_agrees {cursor : Cursor} {symbol : Char} {left : List Char}
    (hrest : cursor.rest = symbol :: left) (hreport : j.report = k.report)
    (expected other : Option (List Construct)) :
    (Dispatch.find expected cursor.unmarked symbol j).1 =
        (Dispatch.find other cursor.unmarked symbol k).1 ∧
      (Dispatch.find expected cursor.unmarked symbol j).2.report =
        (Dispatch.find other cursor.unmarked symbol k).2.report := by
  have hmark : cursor.unmarked.mark = none := rfl
  obtain ⟨hfinda, hreporta⟩ := Dispatch.find_eq_byStarter hmark hrest expected j
  obtain ⟨hfindb, hreportb⟩ := Dispatch.find_eq_byStarter hmark hrest other k
  obtain ⟨hstarter, hsame⟩ := Dispatch.byStarter_congr hreport cursor.unmarked symbol
  exact ⟨by rw [hfinda, hfindb, hstarter], by rw [hreporta, hreportb, hsame]⟩

/-- Scanners that agree read the same lexeme and agree behind it. -/
theorem step_agrees (h : a.Agrees b) (hreport : j.report = k.report) :
    (a.step j).Agrees (b.step k) := by
  unfold step
  rw [h.phase_eq, h.cursor_eq]
  split
  · exact finish_agrees h hreport
  · rename_i symbol left hphase hrest
    obtain ⟨hfound, hsame⟩ := find_agrees hrest hreport a.expected b.expected
    generalize Dispatch.find a.expected b.cursor.unmarked symbol j = p at hfound hsame ⊢
    generalize Dispatch.find b.expected b.cursor.unmarked symbol k = q at hfound hsame ⊢
    obtain ⟨found, latera⟩ := p
    obtain ⟨foundb, laterb⟩ := q
    obtain rfl : found = foundb := hfound
    cases found with
    | accepted acceptance => exact accept_agrees h hsame acceptance
    | failed cause => exact fail_agrees h hsame cause
    | broken fault => exact ⟨rfl, h, hsame⟩
  · exact ⟨rfl, h, hreport⟩

/-- Scanners that agree pass over the same lexemes and yield the same token. -/
theorem next_agrees (h : a.Agrees b) (hreport : j.report = k.report) :
    (a.next j).Agrees (b.next k) := by
  fun_induction next a j generalizing b k with
  | case1 a j token after later hstep hskip ih =>
    obtain ⟨hresult, hafter, hlater⟩ := step_agrees h hreport
    rcases hb : b.step k with ⟨result, afterb, laterb⟩
    rw [hstep, hb] at hresult hafter hlater
    obtain rfl : Answer.token token = result := hresult
    have hskipb : afterb.passesOver = true := by
      rw [← hafter.passesOver_eq]
      exact hskip
    rw [next_of_step_token hb, if_pos hskipb]
    exact ih hafter hlater
  | case2 a j token after later hstep hkeep =>
    obtain ⟨hresult, hafter, hlater⟩ := step_agrees h hreport
    rcases hb : b.step k with ⟨result, afterb, laterb⟩
    rw [hstep, hb] at hresult hafter hlater
    obtain rfl : Answer.token token = result := hresult
    have hkeepb : ¬ afterb.passesOver = true := by
      rw [← hafter.passesOver_eq]
      exact hkeep
    rw [next_of_step_token hb, if_neg hkeepb]
    exact yield_agrees hafter hlater token
  | case3 a j ending after later hstep =>
    obtain ⟨hresult, hafter, hlater⟩ := step_agrees h hreport
    rcases hb : b.step k with ⟨result, afterb, laterb⟩
    rw [hstep, hb] at hresult hafter hlater
    obtain rfl : Answer.stop ending = result := hresult
    rw [next_of_step_stop hb]
    exact ⟨rfl, hafter, hlater⟩

theorem requests_agrees (h : a.Agrees b) (hreport : j.report = k.report) (count : Nat) :
    (a.requests j count).Agrees (b.requests k count) := by
  induction count generalizing a b j k with
  | zero => exact ⟨rfl, h, hreport⟩
  | succ count ih =>
    have hnext := next_agrees h hreport
    have hlater := ih hnext.scanner_agrees hnext.report_eq
    refine ⟨?_, hlater.scanner_agrees, hlater.report_eq⟩
    rw [requests_succ_result, requests_succ_result, hnext.result_eq, hlater.result_eq]

theorem drain_agrees (h : a.Agrees b) (hreport : j.report = k.report) :
    (a.drain j).Agrees (b.drain k) := by
  fun_induction drain a j generalizing b k with
  | case1 a j ending after later hnext =>
    obtain ⟨hresult, hafter, hlater⟩ := next_agrees h hreport
    rcases hb : b.next k with ⟨result, afterb, laterb⟩
    rw [hnext, hb] at hresult hafter hlater
    obtain rfl : Answer.stop ending = result := hresult
    rw [drain_of_next_stop hb]
    exact ⟨rfl, hafter, hlater⟩
  | case2 a j token after later hnext =>
    rename_i drained ih
    obtain ⟨hresult, hafter, hlater⟩ := next_agrees h hreport
    rcases hb : b.next k with ⟨result, afterb, laterb⟩
    rw [hnext, hb] at hresult hafter hlater
    obtain rfl : Answer.token token = result := hresult
    rw [drain_of_next_token hb]
    have hdrained := ih hafter hlater
    exact ⟨congrArg (Tokenization.cons token) hdrained.result_eq, hdrained.scanner_agrees,
      hdrained.report_eq⟩

/-- The two strategies start out in agreement. -/
lemma start_agrees (source : Source) (settings : Settings) (journal : Journal) :
    (start source (settings.withStrategy .predictive) journal).1.Agrees
        (start source (settings.withStrategy .pattern) journal).1 ∧
      (start source (settings.withStrategy .predictive) journal).2.report =
        (start source (settings.withStrategy .pattern) journal).2.report :=
  ⟨⟨rfl, rfl, rfl, rfl, rfl⟩, rfl⟩

end Scanner

open Scanner

/-- Under both strategies, every sequence of requests gets the same answers, leads to the same line,
column, offset and phase, and adds the same to a report, and so does a whole scan. -/
theorem predictive_agrees_pattern (source : Source) (settings : Settings) (journal : Journal) :
    let predictive := start source (settings.withStrategy .predictive) journal
    let pattern := start source (settings.withStrategy .pattern) journal
    (∀ count,
      let p := predictive.1.requests predictive.2 count
      let q := pattern.1.requests pattern.2 count
      p.result = q.result ∧
        p.scanner.cursor.line = q.scanner.cursor.line ∧
        p.scanner.cursor.column = q.scanner.cursor.column ∧
        p.scanner.cursor.offset = q.scanner.cursor.offset ∧
        p.scanner.hasFailed = q.scanner.hasFailed ∧
        ∃ added, p.journal.report.toList = journal.report.toList ++ added ∧
          q.journal.report.toList = journal.report.toList ++ added) ∧
      (source.tokenize (settings.withStrategy .predictive) journal).1 =
        (source.tokenize (settings.withStrategy .pattern) journal).1 ∧
      (source.tokenize (settings.withStrategy .predictive) journal).2.report =
        (source.tokenize (settings.withStrategy .pattern) journal).2.report := by
  intro predictive pattern
  constructor
  · intro count
    obtain ⟨hstart, hreport⟩ := start_agrees source settings journal
    have hagree := requests_agrees hstart hreport count
    obtain ⟨added, hadded⟩ := requests_report_extends predictive.1 predictive.2 count
    have hcursor := hagree.scanner_agrees.cursor_eq
    refine ⟨hagree.result_eq, ?_, ?_, ?_, ?_, added, hadded.symm, ?_⟩
    · rw [hcursor]
    · rw [hcursor]
    · rw [hcursor]
    · rw [hasFailed, hagree.scanner_agrees.phase_eq]
      rfl
    · rw [← hagree.report_eq]
      exact hadded.symm
  · obtain ⟨hstart, hreport⟩ := start_agrees source settings
      (journal.record (.sourceEntered source.file source.length))
    have hagree := drain_agrees hstart hreport
    exact ⟨hagree.result_eq, hagree.report_eq⟩

end GrammarScan
