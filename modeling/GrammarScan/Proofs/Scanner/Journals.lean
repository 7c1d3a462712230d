import GrammarScan.Proofs.Scanner.Requests

/-!
# Scans only add to their journal

Scans write to a journal and never look into it.  So what a journal holds already has no influence on
what a scan does, and stays in front of what the scan adds.  Each statement here says this of one
operation, in the same form: done behind an `earlier` journal, it comes to the same, with all it has
written behind that journal.

What several scans leave in a journal that they share is therefore a question about what each of them
leaves in a journal of its own.
-/

namespace GrammarScan

/-- One report behind another. -/
instance : Append Report where
  append earlier report := earlier.extend report.toList

/-- One journal behind another. -/
instance : Append Journal where
  append earlier journal := ⟨earlier.report ++ journal.report, earlier.trace ++ journal.trace⟩

/-- The same progress, with all that was written behind an earlier journal. -/
def Progress.behind {α : Type} (progress : Progress α) (earlier : Journal) : Progress α :=
  { progress with journal := earlier ++ progress.journal }

namespace Report

@[simp] lemma toList_append (earlier report : Report) :
    (earlier ++ report).toList = earlier.toList ++ report.toList :=
  toList_extend earlier report.toList

@[simp] lemma append_empty (report : Report) : report ++ empty = report := by
  apply ext
  simp

lemma append_extend (earlier report : Report) (diagnostics : List Diagnostic) :
    (earlier ++ report).extend diagnostics = earlier ++ report.extend diagnostics := by
  apply ext
  simp

lemma append_push (earlier report : Report) (diagnostic : Diagnostic) :
    (earlier ++ report).push diagnostic = earlier ++ report.push diagnostic := by
  apply ext
  simp

end Report

namespace Journal

@[simp] lemma append_report (earlier journal : Journal) :
    (earlier ++ journal).report = earlier.report ++ journal.report := rfl

@[simp] lemma append_trace (earlier journal : Journal) :
    (earlier ++ journal).trace = earlier.trace ++ journal.trace := rfl

@[simp] lemma append_empty (journal : Journal) : journal ++ empty = journal := by
  show Journal.mk (journal.report ++ Report.empty) (journal.trace ++ #[]) = journal
  rw [Report.append_empty, Array.append_empty]

lemma append_record (earlier journal : Journal) (event : Event) :
    (earlier ++ journal).record event = earlier ++ journal.record event := by
  show Journal.mk (earlier.report ++ journal.report) ((earlier.trace ++ journal.trace).push event) =
    ⟨earlier.report ++ journal.report, earlier.trace ++ journal.trace.push event⟩
  rw [Array.append_push]

lemma append_withReport (earlier journal : Journal) (report : Report) :
    (earlier ++ journal).withReport (earlier.report ++ report) =
      earlier ++ journal.withReport report := rfl

end Journal

/-! ## One lexeme -/

namespace Construct

lemma attempt_append_report (construct : Construct) (cursor : Cursor) (earlier report : Report) :
    construct.attempt cursor (earlier ++ report) =
      (construct.attempt cursor report).map id (earlier ++ ·) := by
  unfold attempt
  split
  · rfl
  · dsimp only
    split
    · rw [Report.append_extend]
      rfl
    · rw [Report.append_extend]
      rfl

lemma firstAccepting_append_report (cursor : Cursor) (earlier report : Report)
    (constructs : List Construct) :
    firstAccepting cursor (earlier ++ report) constructs =
      (firstAccepting cursor report constructs).map id (earlier ++ ·) := by
  induction constructs generalizing report with
  | nil => rfl
  | cons construct constructs ih =>
    unfold firstAccepting
    rw [attempt_append_report]
    rcases construct.attempt cursor report with ⟨fault | outcome, later⟩
    · rfl
    · cases outcome with
      | refused => exact ih later
      | accepted disposition token next => rfl

end Construct

namespace Dispatch

lemma byStarter_append_journal (cursor : Cursor) (symbol : Char) (earlier journal : Journal) :
    byStarter cursor symbol (earlier ++ journal) =
      (byStarter cursor symbol journal).map id (earlier ++ ·) := by
  unfold byStarter
  split
  · rfl
  · rename_i constructs hconstructs
    rw [Journal.append_report, Construct.firstAccepting_append_report]
    rcases Construct.firstAccepting cursor journal.report constructs with
      ⟨fault | _ | acceptance, report⟩ <;> rfl

lemma find_append_journal (expected : Option (List Construct)) (cursor : Cursor) (symbol : Char)
    (earlier journal : Journal) :
    find expected cursor symbol (earlier ++ journal) =
      (find expected cursor symbol journal).map id (earlier ++ ·) := by
  cases expected with
  | none => exact byStarter_append_journal cursor symbol earlier journal
  | some constructs =>
    unfold find
    dsimp only
    rw [Journal.append_report, Construct.firstAccepting_append_report]
    rcases Construct.firstAccepting cursor journal.report (constructs.filter (·.startsWith symbol))
      with ⟨fault | _ | acceptance, report⟩
    · rfl
    · -- the missed expectation is recorded behind what was there
      show byStarter cursor symbol (((earlier ++ journal).withReport (earlier.report ++ report)).record
        (.expectationMissed symbol cursor.line)) = _
      rw [Journal.append_withReport, Journal.append_record, byStarter_append_journal]
    · rfl

end Dispatch

/-! ## Scanners -/

namespace Scanner

lemma start_append_journal (source : Source) (settings : Settings) (earlier journal : Journal) :
    start source settings (earlier ++ journal) =
      (start source settings journal).map id (earlier ++ ·) := by
  unfold start
  dsimp only
  rw [Journal.append_record]
  rfl

lemma fail_append_journal (scanner : Scanner) (cause : Failure.Cause) (earlier journal : Journal) :
    scanner.fail cause (earlier ++ journal) = (scanner.fail cause journal).behind earlier := by
  unfold fail
  dsimp only
  rw [Journal.append_record, Journal.append_report, Report.append_push, Journal.append_withReport]
  rfl

lemma step_append_journal (scanner : Scanner) (earlier journal : Journal) :
    scanner.step (earlier ++ journal) = (scanner.step journal).behind earlier := by
  unfold step
  split
  · unfold finish
    rw [Journal.append_record]
    rfl
  · rename_i symbol left hphase hrest
    rw [Dispatch.find_append_journal]
    rcases Dispatch.find scanner.expected scanner.cursor.unmarked symbol journal with
      ⟨acceptance | cause | fault, later⟩
    · rfl
    · exact scanner.fail_append_journal cause earlier later
    · rfl
  · rfl

lemma yield_append_journal (scanner : Scanner) (token : Token) (earlier journal : Journal) :
    scanner.yield token (earlier ++ journal) = (scanner.yield token journal).behind earlier := by
  unfold yield
  split
  · rw [Journal.append_record]
    rfl
  · rfl

theorem next_append_journal (scanner : Scanner) (earlier journal : Journal) :
    scanner.next (earlier ++ journal) = (scanner.next journal).behind earlier := by
  fun_induction next scanner journal with
  | case1 scanner journal token after later hstep hskip ih =>
    have hbehind := scanner.step_append_journal earlier journal
    rw [hstep] at hbehind
    rw [next_of_step_token hbehind, if_pos hskip]
    exact ih
  | case2 scanner journal token after later hstep hkeep =>
    have hbehind := scanner.step_append_journal earlier journal
    rw [hstep] at hbehind
    rw [next_of_step_token hbehind, if_neg hkeep]
    exact after.yield_append_journal token earlier later
  | case3 scanner journal ending after later hstep =>
    have hbehind := scanner.step_append_journal earlier journal
    rw [hstep] at hbehind
    exact next_of_step_stop hbehind

theorem drain_append_journal (scanner : Scanner) (earlier journal : Journal) :
    scanner.drain (earlier ++ journal) = (scanner.drain journal).behind earlier := by
  fun_induction drain scanner journal with
  | case1 scanner journal ending after later hnext =>
    have hbehind := scanner.next_append_journal earlier journal
    rw [hnext] at hbehind
    exact drain_of_next_stop hbehind
  | case2 scanner journal token after later hnext drained =>
    rename_i ih
    have hbehind := scanner.next_append_journal earlier journal
    rw [hnext] at hbehind
    rw [drain_of_next_token hbehind]
    dsimp only
    rw [ih]
    rfl

end Scanner

/-! ## Whole scans -/

/-- A scan behind an earlier journal is a scan with a journal of its own. -/
theorem Source.tokenize_append_journal (source : Source) (settings : Settings)
    (earlier journal : Journal) :
    source.tokenize settings (earlier ++ journal) =
      (source.tokenize settings journal).map id (earlier ++ ·) := by
  unfold tokenize
  rw [Journal.append_record, Scanner.start_append_journal]
  dsimp only [Prod.map]
  rw [Scanner.drain_append_journal]
  rfl

end GrammarScan
