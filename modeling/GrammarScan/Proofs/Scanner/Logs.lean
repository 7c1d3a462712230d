import GrammarScan.Log
import GrammarScan.Proofs.Scanner.Batches

/-!
# A report is a log with several views

Whatever is done to a report adds entries at its end, and what is added does not depend on what is there
already (`Journal.perform_eq_alone`). So the entries of a report are those that its operations add to an
empty one, in order, and a report at one point is the front of the report at any later point. The views of
a report, that is its size, its counts, and what a visitor sees, are views of that one list of entries.

`Journal.performAll_log` is the main statement. It says besides how many entries are fatal: those that were
added as such, and one for each scan that failed.
-/

namespace GrammarScan

namespace Report

variable (report : Report)

lemma push_eq_extend (diagnostic : Diagnostic) :
    report.push diagnostic = report.extend [diagnostic] := by
  apply ext
  rw [toList_push, toList_extend]

/-! ## The views of a report -/

lemma size_eq_length : report.size = report.toList.length :=
  Array.length_toList.symm

lemma count_eq_countP (severity : Severity) :
    report.count severity = report.toList.countP (·.severity == severity) :=
  Array.countP_toList.symm

/-- Every entry is recoverable or fatal, and none is both. -/
theorem size_eq_count_add_count : report.size = report.count .recoverable + report.count .fatal := by
  have hother : (fun d : Diagnostic => d.severity == .fatal) =
      fun d => decide ¬ (d.severity == .recoverable) = true := by
    funext d
    cases d.severity <;> rfl
  rw [size_eq_length, count_eq_countP, count_eq_countP, hother]
  exact List.length_eq_countP_add_countP _

theorem isEmpty_iff : report.isEmpty = true ↔ report.size = 0 := by
  rw [isEmpty, size, Array.isEmpty_iff_size_eq_zero]

theorem hasFatal_iff : report.hasFatal = true ↔ 0 < report.count .fatal := by
  rw [count_eq_countP, List.countP_pos_iff, ← List.any_eq_true]
  exact Bool.eq_iff_iff.1 Array.any_toList.symm

theorem visit_eq_foldl {α : Type} (visitor : α → Diagnostic → α) (kept : α) :
    report.visit visitor kept = report.toList.foldl visitor kept :=
  (Array.foldl_toList visitor).symm

end Report

namespace Journal

/-- The entries that an operation is given to add. -/
def Operation.entries : Operation → List Diagnostic
  | .add file line message => [⟨file, line, message, .recoverable⟩]
  | .addAs severity file line message => [⟨file, line, message, severity⟩]
  | .push diagnostic => [diagnostic]
  | .extend diagnostics => diagnostics
  | .tokenize _ _ => []

/-- The entries that the scan of an operation makes in a report of its own. -/
def Operation.findings : Operation → List Diagnostic
  | .tokenize source settings => (source.tokenize settings empty).2.report.toList
  | _ => []

/-! ## One operation -/

/-- An operation adds the entries that it is given and nothing else, or it is a scan. -/
lemma perform_cases (operation : Operation) :
    (operation.findings = [] ∧ ∀ journal : Journal, journal.perform operation =
      (none, journal.withReport (journal.report.extend operation.entries))) ∨
      ∃ source settings, operation = .tokenize source settings := by
  have hpush : ∀ (journal : Journal) (diagnostic : Diagnostic),
      (none, journal.withReport (journal.report.push diagnostic)) =
        ((none : Option Tokenization), journal.withReport (journal.report.extend [diagnostic])) :=
    fun journal diagnostic => by rw [Report.push_eq_extend]
  cases operation with
  | add file line message => exact .inl ⟨rfl, fun journal => hpush journal _⟩
  | addAs severity file line message => exact .inl ⟨rfl, fun journal => hpush journal _⟩
  | push diagnostic => exact .inl ⟨rfl, fun journal => hpush journal _⟩
  | extend diagnostics => exact .inl ⟨rfl, fun journal => rfl⟩
  | tokenize source settings => exact .inr ⟨source, settings, rfl⟩

lemma withReport_extend (journal : Journal) (diagnostics : List Diagnostic) :
    journal.withReport (journal.report.extend diagnostics) =
      journal ++ empty.withReport (Report.empty.extend diagnostics) := by
  have happend := journal.append_withReport empty (Report.empty.extend diagnostics)
  rwa [append_empty, ← Report.append_extend, Report.append_empty] at happend

/-- An operation comes to the same on every journal, with what it writes behind that journal. -/
theorem perform_eq_alone (journal : Journal) (operation : Operation) :
    journal.perform operation = (empty.perform operation).map id (journal ++ ·) := by
  rcases perform_cases operation with ⟨-, hdirect⟩ | ⟨source, settings, rfl⟩
  · rw [hdirect, hdirect, withReport_extend]
    rfl
  · unfold perform
    dsimp only
    rw [source.tokenize_eq_alone]
    rfl

/-- An operation adds what it is given to add and what its scan finds. -/
theorem toList_perform (operation : Operation) :
    (empty.perform operation).2.report.toList = operation.entries ++ operation.findings := by
  rcases perform_cases operation with ⟨hfindings, hdirect⟩ | ⟨source, settings, rfl⟩
  · rw [hdirect, hfindings, List.append_nil]
    exact Report.toList_extend _ _
  · rfl

/-- What an operation reports as fatal are the fatal entries that it is given, and its failure if it is a
scan that fails. -/
lemma countP_isFatal_perform (operation : Operation) :
    (empty.perform operation).2.report.toList.countP Diagnostic.isFatal =
      operation.entries.countP Diagnostic.isFatal +
        if (empty.perform operation).1.any (·.failure?.isSome) then 1 else 0 := by
  rcases perform_cases operation with ⟨-, hdirect⟩ | ⟨source, settings, rfl⟩
  · rw [hdirect]
    exact congrArg (List.countP _) (Report.toList_extend _ _)
  · exact (Source.countP_isFatal_alone settings source).trans (Nat.zero_add _).symm

/-! ## Operations one after the other -/

/-- Operations are performed alone, and what they write stands one behind the other. -/
theorem performAll_alone (journal : Journal) (operations : List Operation) :
    journal.performAll operations =
      (operations.map fun operation => (empty.perform operation).1,
        operations.foldl (fun journal operation => journal ++ (empty.perform operation).2) journal) := by
  induction operations generalizing journal with
  | nil => rfl
  | cons operation operations ih =>
    unfold performAll
    rw [perform_eq_alone]
    dsimp only [Prod.map]
    rw [ih]
    rfl

lemma performAll_report (operations : List Operation) :
    (empty.performAll operations).2.report.toList =
      operations.flatMap fun operation => (empty.perform operation).2.report.toList := by
  rw [performAll_alone]
  exact report_foldl_append _ operations empty

/-- As many fatal entries are added as are given, and one for each scan that fails. -/
theorem countP_isFatal_flatMap_perform (operations : List Operation) :
    (operations.flatMap fun operation =>
        (empty.perform operation).2.report.toList).countP Diagnostic.isFatal =
      (operations.flatMap Operation.entries).countP Diagnostic.isFatal +
        (operations.map fun operation => (empty.perform operation).1).countP
          (·.any (·.failure?.isSome)) := by
  induction operations with
  | nil => rfl
  | cons operation operations ih =>
    rw [List.flatMap_cons, List.flatMap_cons, List.map_cons, List.countP_append, List.countP_append,
      List.countP_cons, ih, countP_isFatal_perform]
    omega

/-- A report that operations write to is a log. Its entries at one point are the front of those at any
later point. What an operation adds, and what a scan results in, is what it adds to an empty report and
what it results in there: the entries that it is given, if it is given any, and the findings of its scan,
if it is a scan. At every point the views of the report agree, and a visitor sees the entries in order. As
many entries are fatal as were added as such, and one for each scan that failed. -/
theorem performAll_log (operations : List Operation) :
    let after := fun count => empty.performAll (operations.take count)
    let entries := fun count => (after count).2.report.toList
    (∀ count more, entries count <+: entries (count + more)) ∧
      (∀ (journal : Journal) (operation : Operation),
        (journal.perform operation).1 = (empty.perform operation).1 ∧
          (journal.perform operation).2.report.toList =
            journal.report.toList ++ (empty.perform operation).2.report.toList ∧
          (empty.perform operation).2.report.toList = operation.entries ++ operation.findings) ∧
      ∀ count,
        let results := (after count).1
        let report := (after count).2.report
        results = (operations.take count).map (fun operation => (empty.perform operation).1) ∧
          report.toList = (operations.take count).flatMap
            (fun operation => (empty.perform operation).2.report.toList) ∧
          report.size = report.count .recoverable + report.count .fatal ∧
          (report.isEmpty = true ↔ report.size = 0) ∧
          (report.hasFatal = true ↔ 0 < report.count .fatal) ∧
          (∀ {α : Type} (visitor : α → Diagnostic → α) (kept : α),
            report.visit visitor kept = report.toList.foldl visitor kept) ∧
          report.count .fatal =
            ((operations.take count).flatMap Operation.entries).countP Diagnostic.isFatal +
              results.countP (·.any (·.failure?.isSome)) := by
  intro after entries
  have hentries : ∀ count, entries count = (operations.take count).flatMap
      fun operation => (empty.perform operation).2.report.toList :=
    fun count => performAll_report (operations.take count)
  refine ⟨?_, ?_, ?_⟩
  · intro count more
    rw [hentries, hentries, List.take_add, List.flatMap_append]
    exact List.prefix_append _ _
  · intro journal operation
    rw [perform_eq_alone]
    exact ⟨rfl, Report.toList_append _ _, toList_perform operation⟩
  · intro count results report
    have hresults : results = (operations.take count).map fun operation =>
        (empty.perform operation).1 :=
      congrArg Prod.fst (performAll_alone empty (operations.take count))
    refine ⟨hresults, hentries count, report.size_eq_count_add_count, report.isEmpty_iff,
      report.hasFatal_iff, report.visit_eq_foldl, ?_⟩
    rw [hresults, ← countP_isFatal_flatMap_perform, ← hentries]
    exact report.count_eq_countP .fatal

end Journal

end GrammarScan
