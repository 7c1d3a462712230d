import GrammarScan.Proofs.Scanner.Journals
import GrammarScan.Proofs.Scanner.Passing
import Mathlib.Logic.Function.Basic

/-!
# Scanners that share a journal

A `Pool` has any number of scanners and one journal, to which all of them write.  A schedule says which
of the scanners is served next.  Work is served at one of two grains: a whole request (`Scanner.next`),
or one lexeme on the way to the answer of a request (`Scanner.proceed`), and then the requests of
different scanners overlap.

Work that ignores what its journal holds is not disturbed by the work of the others: a caller of one
scanner sees what is seen of the scanner alone (`observationsOn_eq`), and the report is what was there
and then what each piece of work adds when it is done alone, in the order of the schedule
(`serveAll_report`).  A request that goes on behind a lexeme has added nothing yet
(`proceed_cases`), so what it adds stands together even where requests overlap.

`serveAll_undisturbed` is the main statement.
-/

namespace GrammarScan

/-- What can be done with a scanner. -/
abbrev Work (α : Type) : Type :=
  Scanner → Journal → Progress α

/-- Whether work does the same, and adds the same, whatever its journal holds. -/
def Work.IgnoresJournal {α : Type} (work : Work α) : Prop :=
  ∀ scanner earlier journal, work scanner (earlier ++ journal) = (work scanner journal).behind earlier

/-- What a caller sees of a piece of work. -/
structure Observation (α : Type) where
  result : α
  line : Nat
  column : Nat
  offset : Nat
  failed : Bool
  /-- What the work has added to the report. -/
  added : List Diagnostic

namespace Scanner

variable {α : Type}

/-- What a caller sees of some work on a scanner. -/
def observe (work : Work α) (scanner : Scanner) (journal : Journal) : Observation α :=
  let done := work scanner journal
  { result := done.result
    line := done.scanner.cursor.line
    column := done.scanner.cursor.column
    offset := done.scanner.cursor.offset
    failed := done.scanner.hasFailed
    added := done.journal.report.toList.drop journal.report.toList.length }

/-- What a caller sees of the same work done a number of times. -/
def observeAll (work : Work α) (scanner : Scanner) (journal : Journal) : Nat → List (Observation α)
  | 0 => []
  | count + 1 =>
    let done := work scanner journal
    observe work scanner journal :: observeAll work done.scanner done.journal count

lemma observeAll_succ (work : Work α) (scanner : Scanner) (journal : Journal) (count : Nat) :
    observeAll work scanner journal (count + 1) =
      observe work scanner journal ::
        observeAll work (work scanner journal).scanner (work scanner journal).journal count := rfl

/-- Reads one lexeme on the way to an answer; there is none yet if the lexeme is passed over. -/
def proceed (scanner : Scanner) (journal : Journal) : Progress (Option Answer) :=
  match scanner.step journal with
  | ⟨.token token, after, journal⟩ =>
    if after.passesOver then ⟨none, after, journal⟩
    else
      let done := after.yield token journal
      ⟨some done.result, done.scanner, done.journal⟩
  | ⟨.stop ending, after, journal⟩ => ⟨some (.stop ending), after, journal⟩

end Scanner

/-- Scanners that write to one journal. -/
structure Pool (n : Nat) where
  scanners : Fin n → Scanner
  journal : Journal

namespace Pool

variable {α : Type} {n : Nat}

/-- Starts a scanner on each source, with its settings. -/
def start (jobs : Fin n → Source × Settings) (journal : Journal) : Pool n where
  scanners i := (Scanner.start (jobs i).1 (jobs i).2 journal).1
  journal :=
    (List.finRange n).foldl (fun journal i => (Scanner.start (jobs i).1 (jobs i).2 journal).2) journal

/-- Does some work on one of the scanners. -/
def serve (work : Work α) (pool : Pool n) (i : Fin n) : Pool n :=
  let done := work (pool.scanners i) pool.journal
  ⟨Function.update pool.scanners i done.scanner, done.journal⟩

/-- Does the same work on the scanners of a schedule. -/
def serveAll (work : Work α) (pool : Pool n) (schedule : List (Fin n)) : Pool n :=
  schedule.foldl (serve work) pool

/-- What is seen of the work on the scanners of a schedule. -/
def observations (work : Work α) (pool : Pool n) : List (Fin n) → List (Fin n × Observation α)
  | [] => []
  | i :: schedule =>
    (i, Scanner.observe work (pool.scanners i) pool.journal) ::
      observations work (pool.serve work i) schedule

end Pool

/-- What the caller of one of several scanners sees. -/
def observationsOn {α : Type} {n : Nat} (i : Fin n) (seen : List (Fin n × Observation α)) :
    List (Observation α) :=
  (seen.filter (·.1 = i)).map Prod.snd

section ObservationsOn

variable {α : Type} {n : Nat} {i k : Fin n}

lemma observationsOn_cons_self (seen : Observation α) (others : List (Fin n × Observation α)) :
    observationsOn i ((i, seen) :: others) = seen :: observationsOn i others := by
  unfold observationsOn
  rw [List.filter_cons_of_pos (by simp), List.map_cons]

lemma observationsOn_cons_of_ne (h : k ≠ i) (seen : Observation α)
    (others : List (Fin n × Observation α)) :
    observationsOn i ((k, seen) :: others) = observationsOn i others := by
  unfold observationsOn
  rw [List.filter_cons_of_neg (by simpa using h)]

end ObservationsOn

/-- The request that is answered by reading a lexeme, if it is. -/
def Observation.answered? (seen : Observation (Option Answer)) : Option (Observation Answer) :=
  seen.result.map fun answer => { seen with result := answer }

/-- The requests that are answered, in the order of their answers. -/
def answered {n : Nat} (seen : List (Fin n × Observation (Option Answer))) :
    List (Fin n × Observation Answer) :=
  seen.filterMap fun lexeme => lexeme.2.answered?.map fun request => (lexeme.1, request)

/-! ## Work that ignores its journal -/

namespace Work.IgnoresJournal

variable {α : Type} {work : Work α}

lemma eq_behind (h : work.IgnoresJournal) (scanner : Scanner) (journal : Journal) :
    work scanner journal = (work scanner .empty).behind journal := by
  have hbehind := h scanner journal .empty
  rwa [Journal.append_empty] at hbehind

lemma scanner_eq (h : work.IgnoresJournal) (scanner : Scanner) (journal other : Journal) :
    (work scanner journal).scanner = (work scanner other).scanner := by
  rw [h.eq_behind scanner journal, h.eq_behind scanner other]
  rfl

/-- What work adds stands behind what was there. -/
lemma report_eq (h : work.IgnoresJournal) (scanner : Scanner) (journal : Journal) :
    (work scanner journal).journal.report.toList =
      journal.report.toList ++ (Scanner.observe work scanner journal).added := by
  unfold Scanner.observe
  rw [h.eq_behind scanner journal]
  show (journal.report ++ _).toList = _ ++ (journal.report ++ _).toList.drop _
  rw [Report.toList_append, List.drop_left]

lemma observe_eq (h : work.IgnoresJournal) (scanner : Scanner) (journal other : Journal) :
    Scanner.observe work scanner journal = Scanner.observe work scanner other := by
  unfold Scanner.observe
  rw [h.eq_behind scanner journal, h.eq_behind scanner other]
  simp [Progress.behind]

end Work.IgnoresJournal

/-! ## Pools -/

namespace Pool

variable {α : Type} {work : Work α} {n : Nat}

lemma map_fst_observations (work : Work α) (pool : Pool n) (schedule : List (Fin n)) :
    (pool.observations work schedule).map Prod.fst = schedule := by
  induction schedule generalizing pool with
  | nil => rfl
  | cons i schedule ih =>
    unfold observations
    rw [List.map_cons, ih]

/-- What the caller of one scanner sees is what is seen of the scanner alone. -/
theorem observationsOn_eq (h : work.IgnoresJournal) (pool : Pool n) (schedule : List (Fin n))
    (i : Fin n) (journal : Journal) :
    observationsOn i (pool.observations work schedule) =
      Scanner.observeAll work (pool.scanners i) journal (schedule.count i) := by
  induction schedule generalizing pool journal with
  | nil => rfl
  | cons k schedule ih =>
    unfold observations
    by_cases hk : k = i
    · subst hk
      have hserved : (pool.serve work k).scanners k = (work (pool.scanners k) journal).scanner := by
        rw [h.scanner_eq (pool.scanners k) journal pool.journal]
        exact Function.update_self k _ _
      rw [observationsOn_cons_self, List.count_cons_self, Scanner.observeAll_succ,
        h.observe_eq _ pool.journal journal, ← hserved]
      exact congrArg (_ :: ·) (ih (pool.serve work k) _)
    · -- serving another scanner leaves this one as it is
      have hother : (pool.serve work k).scanners i = pool.scanners i :=
        Function.update_of_ne (Ne.symm hk) _ _
      rw [observationsOn_cons_of_ne hk, List.count_cons_of_ne hk, ← hother]
      exact ih (pool.serve work k) journal

/-- The report holds what each piece of work adds, in the order of the schedule. -/
theorem serveAll_report (h : work.IgnoresJournal) (pool : Pool n) (schedule : List (Fin n)) :
    (pool.serveAll work schedule).journal.report.toList =
      pool.journal.report.toList ++
        (pool.observations work schedule).flatMap fun seen => seen.2.added := by
  induction schedule generalizing pool with
  | nil => exact (List.append_nil _).symm
  | cons i schedule ih =>
    have hserved : (pool.serve work i).journal.report.toList = pool.journal.report.toList ++
        (Scanner.observe work (pool.scanners i) pool.journal).added :=
      h.report_eq (pool.scanners i) pool.journal
    unfold observations
    rw [List.flatMap_cons, ← List.append_assoc, ← hserved]
    exact ih (pool.serve work i)

lemma start_report (jobs : Fin n → Source × Settings) (journal : Journal) :
    (start jobs journal).journal.report = journal.report := by
  show ((List.finRange n).foldl _ journal).report = _
  induction List.finRange n generalizing journal with
  | nil => rfl
  | cons i others ih => exact ih _

end Pool

/-! ## Requests that overlap -/

namespace Scanner

variable {scanner : Scanner} {journal : Journal}

lemma next_ignoresJournal : Work.IgnoresJournal next :=
  next_append_journal

lemma proceed_ignoresJournal : Work.IgnoresJournal proceed := by
  intro scanner earlier journal
  unfold proceed
  rw [step_append_journal]
  rcases scanner.step journal with ⟨token | ending, after, later⟩
  · show (if after.passesOver = true then _ else _) = _
    dsimp only
    split
    · rfl
    · dsimp only [Progress.behind]
      rw [yield_append_journal]
      rfl
  · rfl

/-- A request goes on behind a lexeme that is passed over, with nothing reported, or it is answered. -/
theorem proceed_cases (scanner : Scanner) (journal : Journal) :
    (∃ after later, scanner.proceed journal = ⟨none, after, later⟩ ∧
        scanner.next journal = after.next later ∧ later.report = journal.report) ∨
      ∃ answer after later, scanner.proceed journal = ⟨some answer, after, later⟩ ∧
        scanner.next journal = ⟨answer, after, later⟩ := by
  have hsteps := scanner.step_steps journal
  unfold proceed
  rcases hstep : scanner.step journal with ⟨token | ending, after, later⟩
  · dsimp only
    rw [next_of_step_token hstep]
    by_cases hskip : after.passesOver = true
    · rw [if_pos hskip, if_pos hskip]
      refine .inl ⟨after, later, rfl, rfl, ?_⟩
      rw [hstep] at hsteps
      cases hsteps with
      | read lexeme _ hphase hfront hreport =>
        have htrivia := (behind_passesOver_iff.1 hskip).1
        rw [hreport, Lexeme.diagnostics_of_isTrivia htrivia, Report.extend_nil]
    · rw [if_neg hskip, if_neg hskip]
      exact .inr ⟨_, _, _, rfl, rfl⟩
  · exact .inr ⟨_, _, _, rfl, next_of_step_stop hstep⟩

/-- What a request has left to do when it goes on is what it comes to. -/
lemma observeAll_of_proceed_eq_none {after : Scanner} {later : Journal}
    (hproceed : scanner.proceed journal = ⟨none, after, later⟩) (count : Nat) :
    observeAll next scanner journal count = observeAll next after later count := by
  rcases scanner.proceed_cases journal with ⟨_, _, hnone, hnext, hreport⟩ | ⟨_, _, _, hsome, -⟩
  · obtain ⟨-, rfl, rfl⟩ := Progress.mk.inj (hproceed.symm.trans hnone)
    cases count with
    | zero => rfl
    | succ count =>
      have hseen : observe next scanner journal = observe next after later := by
        unfold observe
        rw [hnext, hreport]
      rw [observeAll_succ, observeAll_succ, hseen, hnext]
  · simp [hproceed] at hsome

/-- The requests of one scanner that are answered lexeme by lexeme are requests. -/
theorem exists_observeAll_next (scanner : Scanner) (journal : Journal) (turns : Nat) :
    ∃ count, (observeAll proceed scanner journal turns).filterMap Observation.answered? =
      observeAll next scanner journal count := by
  induction turns generalizing scanner journal with
  | zero => exact ⟨0, rfl⟩
  | succ turns ih =>
    obtain ⟨count, hcount⟩ := ih (scanner.proceed journal).scanner (scanner.proceed journal).journal
    rw [observeAll_succ]
    rcases scanner.proceed_cases journal with ⟨after, later, hnone, -, -⟩ |
      ⟨answer, after, later, hsome, hnext⟩
    · -- the request is still open, and the turns that are left answer it
      have hopen : (observe proceed scanner journal).answered? = none := by
        unfold observe
        rw [hnone]
        rfl
      rw [List.filterMap_cons_none hopen, hcount, hnone]
      exact ⟨count, (observeAll_of_proceed_eq_none hnone count).symm⟩
    · have hanswered : (observe proceed scanner journal).answered? =
          some (observe next scanner journal) := by
        unfold observe
        rw [hsome, hnext]
        rfl
      rw [List.filterMap_cons_some hanswered, hcount, hsome]
      refine ⟨count + 1, ?_⟩
      rw [observeAll_succ, hnext]

lemma added_of_answered?_eq_none (h : (observe proceed scanner journal).answered? = none) :
    (observe proceed scanner journal).added = [] := by
  unfold observe at h ⊢
  rcases scanner.proceed_cases journal with ⟨after, later, hnone, -, hreport⟩ |
    ⟨answer, after, later, hsome, -⟩
  · rw [hnone]
    dsimp only
    rw [hreport, List.drop_length]
  · rw [hsome] at h
    simp [Observation.answered?] at h

end Scanner

section Answered

variable {n : Nat} {k : Fin n} {lexeme : Observation (Option Answer)}

lemma answered_cons_of_none (h : lexeme.answered? = none)
    (seen : List (Fin n × Observation (Option Answer))) :
    answered ((k, lexeme) :: seen) = answered seen :=
  List.filterMap_cons_none (congrArg (Option.map (Prod.mk k)) h)

lemma answered_cons_of_some {request : Observation Answer} (h : lexeme.answered? = some request)
    (seen : List (Fin n × Observation (Option Answer))) :
    answered ((k, lexeme) :: seen) = (k, request) :: answered seen :=
  List.filterMap_cons_some (congrArg (Option.map (Prod.mk k)) h)

lemma observationsOn_answered (i : Fin n) (seen : List (Fin n × Observation (Option Answer))) :
    observationsOn i (answered seen) = (observationsOn i seen).filterMap Observation.answered? := by
  induction seen with
  | nil => rfl
  | cons first seen ih =>
    obtain ⟨k, lexeme⟩ := first
    by_cases hk : k = i
    · subst hk
      rw [observationsOn_cons_self]
      cases hlexeme : lexeme.answered? with
      | none => rw [answered_cons_of_none hlexeme, List.filterMap_cons_none hlexeme, ih]
      | some request =>
        rw [answered_cons_of_some hlexeme, List.filterMap_cons_some hlexeme,
          observationsOn_cons_self, ih]
    · rw [observationsOn_cons_of_ne hk]
      cases hlexeme : lexeme.answered? with
      | none => rw [answered_cons_of_none hlexeme, ih]
      | some request => rw [answered_cons_of_some hlexeme, observationsOn_cons_of_ne hk, ih]

end Answered

/-- Nothing is added but by the lexeme that answers a request. -/
lemma Pool.flatMap_added_answered {n : Nat} (pool : Pool n) (schedule : List (Fin n)) :
    (answered (pool.observations Scanner.proceed schedule)).flatMap (fun request => request.2.added) =
      (pool.observations Scanner.proceed schedule).flatMap fun seen => seen.2.added := by
  induction schedule generalizing pool with
  | nil => rfl
  | cons i schedule ih =>
    unfold observations
    rw [List.flatMap_cons, ← ih]
    cases hlexeme : (Scanner.observe Scanner.proceed (pool.scanners i) pool.journal).answered? with
    | none =>
      rw [answered_cons_of_none hlexeme, Scanner.added_of_answered?_eq_none hlexeme,
        List.nil_append]
    | some request =>
      obtain ⟨answer, -, rfl⟩ := Option.map_eq_some_iff.1 hlexeme
      rw [answered_cons_of_some hlexeme, List.flatMap_cons]

/-- Whatever the schedule, each request on a scanner of a pool is answered as the same request on the
scanner alone with an empty journal, leaves the same line, column, offset and phase, and adds the same
to the report; and the report is what it was and then what the requests have added, in the order of the
schedule.  The same holds where requests overlap, in the order in which they are answered. -/
theorem serveAll_undisturbed {n : Nat} (jobs : Fin n → Source × Settings) (journal : Journal)
    (schedule : List (Fin n)) :
    let pool := Pool.start jobs journal
    let alone := fun i => Scanner.start (jobs i).1 (jobs i).2 Journal.empty
    let seen := pool.observations Scanner.next schedule
    let overlapping := answered (pool.observations Scanner.proceed schedule)
    (seen.map Prod.fst = schedule ∧
        (∀ i, observationsOn i seen =
          Scanner.observeAll Scanner.next (alone i).1 (alone i).2 (schedule.count i)) ∧
        (pool.serveAll Scanner.next schedule).journal.report.toList =
          journal.report.toList ++ seen.flatMap fun request => request.2.added) ∧
      (∀ i, ∃ count, observationsOn i overlapping =
        Scanner.observeAll Scanner.next (alone i).1 (alone i).2 count) ∧
      (pool.serveAll Scanner.proceed schedule).journal.report.toList =
        journal.report.toList ++ overlapping.flatMap fun request => request.2.added := by
  intro pool alone seen overlapping
  have hreport : pool.journal.report = journal.report := Pool.start_report jobs journal
  refine ⟨⟨pool.map_fst_observations Scanner.next schedule, ?_, ?_⟩, ?_, ?_⟩
  · intro i
    exact pool.observationsOn_eq Scanner.next_ignoresJournal schedule i (alone i).2
  · rw [← hreport]
    exact pool.serveAll_report Scanner.next_ignoresJournal schedule
  · intro i
    obtain ⟨count, hcount⟩ := (alone i).1.exists_observeAll_next (alone i).2 (schedule.count i)
    refine ⟨count, ?_⟩
    rw [← hcount, observationsOn_answered]
    exact congrArg (List.filterMap Observation.answered?)
      (pool.observationsOn_eq Scanner.proceed_ignoresJournal schedule i (alone i).2)
  · rw [← hreport, Pool.flatMap_added_answered]
    exact pool.serveAll_report Scanner.proceed_ignoresJournal schedule

end GrammarScan
