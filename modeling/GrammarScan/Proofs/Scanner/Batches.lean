import GrammarScan.Proofs.Scanner.Journals
import GrammarScan.Proofs.Scanner.Readings
import Mathlib.Logic.Equiv.Defs

/-!
# Batches

The sources of a batch share nothing but a journal, and a scan only adds to its journal.  A batch is
therefore its scans, each with an empty journal of its own, and the journals one behind the other in the
order of the sources (`tokenizeEach_alone`).

The failures of a batch are counted in two ways: by the results that have one, which is what the batch
itself records, and by the fatal findings in the report.  The two counts agree because a scan reports as
fatal the failure that stops it, and nothing else (`tokenize_fatal`).

`tokenizeAll_alone` is the main statement.
-/

namespace GrammarScan

/-! ## Fatal findings -/

/-- The fatal findings of a report. -/
def Report.fatal (report : Report) : List Diagnostic :=
  report.toList.filter Diagnostic.isFatal

/-- The failure in an answer. -/
def Answer.failure? : Answer → Option Failure
  | .stop (.failed failure) => some failure
  | _ => none

namespace Report

lemma fatal_push_failure (report : Report) (failure : Failure) :
    (report.push failure.diagnostic).fatal = report.fatal ++ [failure.diagnostic] := by
  unfold fatal
  rw [toList_push, List.filter_append]
  rfl

lemma fatal_extend {diagnostics : List Diagnostic}
    (h : ∀ diagnostic ∈ diagnostics, diagnostic.severity = .recoverable) (report : Report) :
    (report.extend diagnostics).fatal = report.fatal := by
  have hnone : diagnostics.filter Diagnostic.isFatal = [] := by
    refine List.filter_eq_nil_iff.2 fun diagnostic hdiagnostic => ?_
    rw [Diagnostic.isFatal, h diagnostic hdiagnostic]
    decide
  unfold fatal
  rw [toList_extend, List.filter_append, hnone, List.append_nil]

end Report

lemma Construct.attempt_fatal (construct : Construct) (cursor : Cursor) (report : Report) :
    (construct.attempt cursor report).2.fatal = report.fatal := by
  unfold attempt
  split
  · rfl
  · rename_i lexeme hread
    -- where a number gets too large, some of the diagnostics are reported all the same
    have hcitable : ∀ diagnostic ∈ (lexeme.diagnostics cursor.file cursor.line).takeWhile
        (·.line ≤ maxIndex), diagnostic.severity = .recoverable := by
      intro diagnostic hdiagnostic
      exact Lexeme.severity_of_mem_diagnostics ((List.takeWhile_sublist _).subset hdiagnostic)
    dsimp only
    split <;> exact Report.fatal_extend hcitable report

lemma Construct.firstAccepting_fatal (cursor : Cursor) (report : Report)
    (constructs : List Construct) :
    (firstAccepting cursor report constructs).2.fatal = report.fatal := by
  induction constructs generalizing report with
  | nil => rfl
  | cons construct constructs ih =>
    have hattempt := construct.attempt_fatal cursor report
    unfold firstAccepting
    generalize construct.attempt cursor report = attempted at hattempt ⊢
    rcases attempted with ⟨fault | _ | _, later⟩
    · exact hattempt
    · exact (ih later).trans hattempt
    · exact hattempt

namespace Dispatch

lemma byStarter_fatal (cursor : Cursor) (symbol : Char) (journal : Journal) :
    (byStarter cursor symbol journal).2.report.fatal = journal.report.fatal := by
  unfold byStarter
  split
  · rfl
  · rename_i constructs _
    have hfirst := Construct.firstAccepting_fatal cursor journal.report constructs
    split
    all_goals
      rename_i heq
      rw [heq] at hfirst
      exact hfirst

lemma find_fatal (expected : Option (List Construct)) (cursor : Cursor) (symbol : Char)
    (journal : Journal) :
    (find expected cursor symbol journal).2.report.fatal = journal.report.fatal := by
  cases expected with
  | none => exact byStarter_fatal cursor symbol journal
  | some constructs =>
    have hfirst := Construct.firstAccepting_fatal cursor journal.report
      (constructs.filter (·.startsWith symbol))
    unfold find
    dsimp only
    split
    · rename_i heq
      rw [heq] at hfirst
      exact hfirst
    · rename_i heq
      rw [heq] at hfirst
      exact (byStarter_fatal cursor symbol _).trans hfirst
    · rename_i heq
      rw [heq] at hfirst
      exact hfirst

end Dispatch

namespace Scanner

/-- A step reports a failure as fatal, and nothing else. -/
lemma step_fatal (scanner : Scanner) (journal : Journal) :
    (scanner.step journal).journal.report.fatal =
      journal.report.fatal ++
        ((scanner.step journal).result.failure?.map Failure.diagnostic).toList := by
  unfold step
  split
  · exact (List.append_nil _).symm
  · rename_i symbol left hphase hrest
    have hfind := Dispatch.find_fatal scanner.expected scanner.cursor.unmarked symbol journal
    generalize Dispatch.find scanner.expected scanner.cursor.unmarked symbol journal = found
      at hfind ⊢
    rcases found with ⟨acceptance | cause | fault, later⟩
    · exact hfind.trans (List.append_nil _).symm
    · show (later.report.push _).fatal = _
      rw [Report.fatal_push_failure, ← hfind]
      rfl
    · exact hfind.trans (List.append_nil _).symm
  · exact (List.append_nil _).symm

lemma yield_failure? (scanner : Scanner) (token : Token) (journal : Journal) :
    (scanner.yield token journal).result.failure? = none := by
  unfold yield
  split <;> rfl

theorem next_fatal (scanner : Scanner) (journal : Journal) :
    (scanner.next journal).journal.report.fatal =
      journal.report.fatal ++
        ((scanner.next journal).result.failure?.map Failure.diagnostic).toList := by
  fun_induction next scanner journal with
  | case1 scanner journal token after later hstep hskip ih =>
    have hread := scanner.step_fatal journal
    rw [hstep] at hread
    rw [ih, hread]
    exact congrArg (· ++ _) (List.append_nil _)
  | case2 scanner journal token after later hstep hkeep =>
    have hread := scanner.step_fatal journal
    rw [hstep] at hread
    rw [yield_report, yield_failure?, hread]
    rfl
  | case3 scanner journal ending after later hstep =>
    have hread := scanner.step_fatal journal
    rwa [hstep] at hread

theorem drain_fatal (scanner : Scanner) (journal : Journal) :
    (scanner.drain journal).journal.report.fatal =
      journal.report.fatal ++
        ((scanner.drain journal).result.failure?.map Failure.diagnostic).toList := by
  fun_induction drain scanner journal with
  | case1 scanner journal ending after later hnext =>
    have hread := scanner.next_fatal journal
    rw [hnext] at hread
    cases ending <;> exact hread
  | case2 scanner journal token after later hnext drained ih =>
    have hread := scanner.next_fatal journal
    rw [hnext] at hread
    have hsame : later.report.fatal = journal.report.fatal := hread.trans (List.append_nil _)
    rw [← hsame]
    exact ih

end Scanner

namespace Source

/-- A scan reports as fatal the failure that stops it, and nothing else. -/
theorem tokenize_fatal (source : Source) (settings : Settings) (journal : Journal) :
    (source.tokenize settings journal).2.report.fatal =
      journal.report.fatal ++
        ((source.tokenize settings journal).1.failure?.map Failure.diagnostic).toList :=
  Scanner.drain_fatal _ _

/-! ## Sources one after the other -/

lemma tokenize_eq_alone (source : Source) (settings : Settings) (journal : Journal) :
    source.tokenize settings journal =
      (source.tokenize settings .empty).map id (journal ++ ·) := by
  have happend := source.tokenize_append_journal settings journal .empty
  rwa [Journal.append_empty] at happend

/-- Sources that are scanned one after the other are scanned alone, and their journals stand one behind
the other. -/
theorem tokenizeEach_alone (settings : Settings) (sources : List Source) (journal : Journal) :
    let alone := fun source : Source => source.tokenize settings .empty
    tokenizeEach settings sources journal =
      (sources.map fun source => (alone source).1,
        sources.foldl (fun journal source => journal ++ (alone source).2) journal) := by
  intro alone
  induction sources generalizing journal with
  | nil => rfl
  | cons source sources ih =>
    unfold tokenizeEach
    rw [tokenize_eq_alone]
    dsimp only [Prod.map]
    rw [ih]
    rfl

end Source

namespace Journal

lemma report_foldl_append {α : Type} (written : α → Journal) (works : List α) (journal : Journal) :
    (works.foldl (fun journal work => journal ++ written work) journal).report.toList =
      journal.report.toList ++ works.flatMap fun work => (written work).report.toList := by
  induction works generalizing journal with
  | nil => exact (List.append_nil _).symm
  | cons work works ih =>
    rw [List.foldl_cons, ih, append_report, Report.toList_append, List.flatMap_cons,
      List.append_assoc]

lemma trace_foldl_append {α : Type} (written : α → Journal) (works : List α) (journal : Journal) :
    (works.foldl (fun journal work => journal ++ written work) journal).trace.toList =
      journal.trace.toList ++ works.flatMap fun work => (written work).trace.toList := by
  induction works generalizing journal with
  | nil => exact (List.append_nil _).symm
  | cons work works ih =>
    rw [List.foldl_cons, ih, append_trace, Array.toList_append, List.flatMap_cons,
      List.append_assoc]

end Journal

/-! ## Batches -/

namespace Source

section Batch

variable (sources : List Source) (settings : Settings) (journal : Journal)

lemma tokenizeAll_results :
    (tokenizeAll sources settings journal).1 =
      sources.map fun source => (source.tokenize settings .empty).1 := by
  unfold tokenizeAll
  rw [tokenizeEach_alone]

lemma tokenizeAll_report :
    (tokenizeAll sources settings journal).2.report.toList =
      journal.report.toList ++
        sources.flatMap fun source => (source.tokenize settings .empty).2.report.toList := by
  unfold tokenizeAll
  rw [tokenizeEach_alone]
  exact Journal.report_foldl_append _ sources (journal.record (.batchEntered sources.length))

/-- The trace of a batch is that of its sources in order, between its own two events. -/
theorem tokenizeAll_trace :
    (tokenizeAll sources settings journal).2.trace.toList =
      journal.trace.toList ++ .batchEntered sources.length ::
        (sources.flatMap fun source => (source.tokenize settings .empty).2.trace.toList) ++
          [.batchFinished ((tokenizeAll sources settings journal).1.countP (·.failure?.isSome))] := by
  unfold tokenizeAll
  rw [tokenizeEach_alone]
  dsimp only [Journal.record]
  rw [Array.toList_push]
  refine congrArg (· ++ _) ?_
  rw [Journal.trace_foldl_append]
  simp

lemma countP_isFatal_alone (source : Source) :
    (source.tokenize settings .empty).2.report.toList.countP Diagnostic.isFatal =
      if (source.tokenize settings .empty).1.failure?.isSome then 1 else 0 := by
  have hfatal := source.tokenize_fatal settings .empty
  rw [List.countP_eq_length_filter]
  show (source.tokenize settings .empty).2.report.fatal.length = _
  rw [hfatal]
  cases (source.tokenize settings .empty).1.failure? <;> rfl

/-- As many fatal findings are added as there are results with a failure. -/
theorem countP_isFatal_flatMap :
    (sources.flatMap fun source =>
        (source.tokenize settings .empty).2.report.toList).countP Diagnostic.isFatal =
      (sources.map fun source => (source.tokenize settings .empty).1).countP
        (·.failure?.isSome) := by
  induction sources with
  | nil => rfl
  | cons source sources ih =>
    rw [List.flatMap_cons, List.countP_append, ih, countP_isFatal_alone, List.map_cons,
      List.countP_cons, Nat.add_comm]

end Batch

end Source

/-- A batch gives what its sources give when each of them is scanned alone with an empty journal, and adds
to the report what these scans report, in the order of the sources.  As many of the findings it adds are
fatal as results have a failure, and this is the number that it records at its end.  Another order of the
sources puts the results, and what is added for each source, in that order. -/
theorem tokenizeAll_alone (sources : List Source) (settings : Settings) (journal : Journal) :
    let alone := fun source : Source => source.tokenize settings Journal.empty
    let batch := Source.tokenizeAll sources settings journal
    let added := sources.flatMap fun source => (alone source).2.report.toList
    batch.1 = sources.map (fun source => (alone source).1) ∧
      batch.2.report.toList = journal.report.toList ++ added ∧
      added.countP Diagnostic.isFatal = batch.1.countP (·.failure?.isSome) ∧
      batch.2.trace.back? = some (.batchFinished (added.countP Diagnostic.isFatal)) ∧
      ∀ order : Equiv.Perm (Fin sources.length),
        let reordered := List.ofFn fun i => sources.get (order i)
        let other := Source.tokenizeAll reordered settings journal
        other.1.length = batch.1.length ∧
          (∀ i : Fin sources.length, other.1[(i : Nat)]? = batch.1[(order i : Nat)]?) ∧
          other.2.report.toList = journal.report.toList ++
            (List.ofFn fun i => (alone (sources.get (order i))).2.report.toList).flatten := by
  intro alone batch added
  have hresults : batch.1 = sources.map fun source => (alone source).1 :=
    Source.tokenizeAll_results sources settings journal
  have hfatal : added.countP Diagnostic.isFatal = batch.1.countP (·.failure?.isSome) := by
    rw [hresults]
    exact Source.countP_isFatal_flatMap sources settings
  refine ⟨hresults, Source.tokenizeAll_report sources settings journal, hfatal, ?_, ?_⟩
  · rw [hfatal]
    exact Array.back?_push
  · intro order reordered other
    have hother : other.1 = reordered.map fun source => (alone source).1 :=
      Source.tokenizeAll_results reordered settings journal
    refine ⟨?_, ?_, ?_⟩
    · rw [hother, hresults, List.length_map, List.length_map, List.length_ofFn]
    · intro i
      rw [hother, hresults, List.getElem?_map, List.getElem?_map, List.getElem?_ofFn]
      simp
    · rw [Source.tokenizeAll_report, List.flatMap_def, List.map_ofFn]
      rfl

end GrammarScan
