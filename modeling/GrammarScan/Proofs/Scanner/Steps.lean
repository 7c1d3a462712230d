import GrammarScan.Proofs.Scanner.Dispatch
import GrammarScan.Scanner.Basic

/-!
# What a step of a scan does

`Scanner.Steps` lists the five things that reading one lexeme can come to, and `step_steps` says
that there are no others.  Every invariant of a scan is proved from this list, so that what a
dispatch does is looked at once only.

A request takes steps until one of them is not passed over; `next_of_step_token` and
`next_of_step_stop` are its two equations.
-/

namespace GrammarScan

namespace Scanner

/-- The scanner behind a lexeme that comes next. -/
def behind (scanner : Scanner) (lexeme : Lexeme) : Scanner :=
  { scanner with
    cursor := scanner.cursor.behind lexeme
    expected := scanner.expected.map fun _ => lexeme.construct.followers }

/-- What reading one lexeme can come to. -/
inductive Steps (scanner : Scanner) (journal : Journal) : Progress Answer → Prop
  /-- The scan is over already. -/
  | ended (hphase : scanner.phase ≠ .scanning) :
      Steps scanner journal ⟨.stop .complete, scanner, journal⟩
  /-- The scan ends with its input. -/
  | finish (hphase : scanner.phase = .scanning) (hrest : scanner.cursor.rest = []) :
      Steps scanner journal (scanner.finish journal)
  /-- The lexeme at the front is read. -/
  | read (lexeme : Lexeme) (later : Journal) (hphase : scanner.phase = .scanning)
      (hfront : lexeme.IsAtFrontOf scanner.cursor.rest)
      (hreport : later.report =
        journal.report.extend (lexeme.diagnostics scanner.cursor.file scanner.cursor.line)) :
      Steps scanner journal
        ⟨.token (scanner.cursor.tokenOf lexeme), scanner.behind lexeme, later⟩
  /-- The input goes on, and not with a lexeme. -/
  | fail (symbol : Char) (left : List Char) (later : Journal) (hphase : scanner.phase = .scanning)
      (hrest : scanner.cursor.rest = symbol :: left)
      (hnone : ∀ lexeme : Lexeme, ¬ lexeme.IsAtFrontOf scanner.cursor.rest)
      (hreport : later.report = journal.report) :
      Steps scanner journal (scanner.fail (Failure.causeAt symbol) later)
  /-- The lexeme at the front leads to a number that is too large. -/
  | overflow (lexeme : Lexeme) (later : Journal) (hphase : scanner.phase = .scanning)
      (hfront : lexeme.IsAtFrontOf scanner.cursor.rest)
      (hreport : journal.report.toList <+: later.report.toList)
      (hroom : ¬ (scanner.cursor.line ≤ maxIndex ∧ scanner.cursor.HasRoomFor lexeme.spelling)) :
      Steps scanner journal ⟨.stop (.broken .overflow), scanner, later⟩

theorem step_steps (scanner : Scanner) (journal : Journal) :
    scanner.Steps journal (scanner.step journal) := by
  unfold step
  split
  · rename_i hphase hrest
    exact .finish hphase hrest
  · rename_i symbol left hphase hrest
    have hcases := Dispatch.find_cases (rfl : scanner.cursor.unmarked.mark = none) hrest
      scanner.expected journal
    -- the mark makes no difference to the lexeme, its token or the cursor behind it
    split
    · rename_i acceptance later hfind
      rw [hfind] at hcases
      rcases hcases with ⟨lexeme, hfront, haccepted, hreport⟩ | ⟨-, hfailed, -⟩ | ⟨_, -, hbroken, -⟩
      · obtain rfl := Dispatch.accepted.inj haccepted
        exact .read lexeme later hphase hfront hreport
      · simp at hfailed
      · simp at hbroken
    · rename_i cause later hfind
      rw [hfind] at hcases
      rcases hcases with ⟨_, -, haccepted, -⟩ | ⟨hnone, hfailed, hreport⟩ | ⟨_, -, hbroken, -⟩
      · simp at haccepted
      · obtain rfl := Dispatch.failed.inj hfailed
        exact .fail symbol left later hphase hrest hnone hreport
      · simp at hbroken
    · rename_i fault later hfind
      rw [hfind] at hcases
      rcases hcases with ⟨_, -, haccepted, -⟩ | ⟨-, hfailed, -⟩ |
        ⟨lexeme, hfront, hbroken, hreport, hroom⟩
      · simp at haccepted
      · simp at hfailed
      · obtain rfl := Dispatch.broken.inj hbroken
        exact .overflow lexeme later hphase hfront hreport hroom
  · rename_i hfinish hgo
    refine .ended fun hphase => ?_
    cases hrest : scanner.cursor.rest with
    | nil => exact hfinish hphase hrest
    | cons symbol left => exact hgo symbol left hphase hrest

/-- A step only adds to the report. -/
lemma Steps.report_extends {scanner : Scanner} {journal : Journal} {progress : Progress Answer}
    (h : scanner.Steps journal progress) :
    journal.report.toList <+: progress.journal.report.toList := by
  cases h with
  | ended => exact List.prefix_rfl
  | finish => exact List.prefix_rfl
  | read lexeme later hphase hfront hreport => simp [hreport]
  | fail symbol left later hphase hrest hnone hreport =>
    simp [Scanner.fail, Journal.record, Journal.withReport, hreport]
  | overflow lexeme later hphase hfront hreport hroom => exact hreport

/-! ## Requests step by step -/

variable {scanner after : Scanner} {journal later : Journal}

lemma next_of_step_token {token : Token} (h : scanner.step journal = ⟨.token token, after, later⟩) :
    scanner.next journal =
      if after.passesOver then after.next later else after.yield token later := by
  rw [next]
  split
  · rename_i hstep
    obtain ⟨htoken, rfl, rfl⟩ := Progress.mk.inj (h.symm.trans hstep)
    obtain rfl := Answer.token.inj htoken
    rfl
  · rename_i hstep
    simp [h] at hstep

lemma next_of_step_stop {ending : Ending} (h : scanner.step journal = ⟨.stop ending, after, later⟩) :
    scanner.next journal = ⟨.stop ending, after, later⟩ := by
  rw [next]
  split
  · rename_i hstep
    simp [h] at hstep
  · rename_i hstep
    rw [← hstep, h]

@[simp] lemma yield_report (scanner : Scanner) (token : Token) (journal : Journal) :
    (scanner.yield token journal).journal.report = journal.report := by
  unfold yield
  split <;> rfl

/-- A request only adds to the report. -/
lemma next_report_extends (scanner : Scanner) (journal : Journal) :
    journal.report.toList <+: (scanner.next journal).journal.report.toList := by
  fun_induction next scanner journal with
  | case1 scanner journal token after later hstep hskip ih =>
    have hextends := (scanner.step_steps journal).report_extends
    rw [hstep] at hextends
    exact hextends.trans ih
  | case2 scanner journal token after later hstep hkeep =>
    have hextends := (scanner.step_steps journal).report_extends
    rw [hstep] at hextends
    rw [yield_report]
    exact hextends
  | case3 scanner journal ending after later hstep =>
    have hextends := (scanner.step_steps journal).report_extends
    rw [hstep] at hextends
    exact hextends

end Scanner

end GrammarScan
