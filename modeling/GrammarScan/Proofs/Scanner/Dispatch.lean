import GrammarScan.Proofs.Construct.Order
import GrammarScan.Scanner.Dispatch

/-!
# What dispatch finds

Dispatch finds the lexeme at the front of what is left, whatever is expected there: the constructs
that are tried first decide only whether a missed expectation is recorded.  This is
`find_eq_byStarter`.  `find_cases` lists the three things that dispatch can come to: the lexeme at
the front is read, there is none, or a number gets too large.
-/

namespace GrammarScan

/-- Why no lexeme stands at a character: no construct starts with it, or those that do refuse. -/
def Failure.causeAt (symbol : Char) : Failure.Cause :=
  if Construct.all.any (·.startsWith symbol) then .unreadable else .unknownSymbol symbol

/-- What dispatch makes of the lexeme that comes next. -/
def Cursor.acceptanceOf (cursor : Cursor) (lexeme : Lexeme) : Acceptance :=
  ⟨lexeme.construct, cursor.tokenOf lexeme, cursor.behind lexeme⟩

namespace Construct

variable {cursor : Cursor} {lexeme : Lexeme}

lemma firstAccepting_singleton_of_hasRoomFor (h : lexeme.IsAtFrontOf cursor.rest)
    (hline : cursor.line ≤ maxIndex) (hroom : cursor.HasRoomFor lexeme.spelling)
    (report : Report) :
    firstAccepting cursor report [lexeme.construct] =
      (.ok (some (cursor.acceptanceOf lexeme)),
        report.extend (lexeme.diagnostics cursor.file cursor.line)) := by
  rw [firstAccepting, attempt_of_hasRoomFor h hline hroom]
  rfl

/-- The one construct that reads is accepted, or a number gets too large. -/
lemma firstAccepting_singleton_cases (h : lexeme.IsAtFrontOf cursor.rest) (report : Report) :
    firstAccepting cursor report [lexeme.construct] =
        (.ok (some (cursor.acceptanceOf lexeme)),
          report.extend (lexeme.diagnostics cursor.file cursor.line)) ∨
      (firstAccepting cursor report [lexeme.construct]).1 = .error .overflow ∧
        report.toList <+: (firstAccepting cursor report [lexeme.construct]).2.toList ∧
        ¬ (cursor.line ≤ maxIndex ∧ cursor.HasRoomFor lexeme.spelling) := by
  by_cases hroom : cursor.line ≤ maxIndex ∧ cursor.HasRoomFor lexeme.spelling
  · exact .inl (firstAccepting_singleton_of_hasRoomFor h hroom.1 hroom.2 report)
  · rw [firstAccepting, attempt_of_isAtFrontOf h]
    dsimp only
    split_ifs
    · exact .inl rfl
    · exact .inr ⟨rfl, by simp, hroom⟩
    · exact .inr ⟨rfl, by simp, hroom⟩

end Construct

namespace Dispatch

open Construct

variable {cursor : Cursor} {lexeme : Lexeme} {symbol : Char} {left : List Char}

/-! ## Expectations make no difference -/

/-- Dispatch by starter reads the report of the journal only. -/
lemma byStarter_congr {a b : Journal} (h : a.report = b.report) (cursor : Cursor) (symbol : Char) :
    (byStarter cursor symbol a).1 = (byStarter cursor symbol b).1 ∧
      (byStarter cursor symbol a).2.report = (byStarter cursor symbol b).2.report := by
  unfold byStarter
  rw [h]
  split
  · exact ⟨rfl, h⟩
  · split <;> exact ⟨rfl, rfl⟩

/-- What dispatch finds does not depend on what is expected. -/
theorem find_eq_byStarter (hmark : cursor.mark = none) (hrest : cursor.rest = symbol :: left)
    (expected : Option (List Construct)) (journal : Journal) :
    (find expected cursor symbol journal).1 = (byStarter cursor symbol journal).1 ∧
      (find expected cursor symbol journal).2.report =
        (byStarter cursor symbol journal).2.report := by
  cases expected with
  | none => exact ⟨rfl, rfl⟩
  | some expected =>
    set likely := expected.filter (·.startsWith symbol) with hlikely
    by_cases hread : ∃ lexeme : Lexeme,
        lexeme.IsAtFrontOf cursor.rest ∧ lexeme.construct ∈ likely
    · -- the expected construct is the one that the table leads to
      obtain ⟨lexeme, hfront, hmem⟩ := hread
      have hstarts : lexeme.construct.startsWith symbol = true := (hrest ▸ hfront).startsWith
      obtain ⟨table, htable, hintable⟩ := StarterTable.exists_candidates?_standard hstarts
      simp only [find, byStarter, htable, ← hlikely, firstAccepting_of_mem hfront hmem,
        firstAccepting_of_mem hfront hintable]
      split
      · exact ⟨rfl, rfl⟩
      · rename_i hnone
        rcases firstAccepting_singleton_cases hfront journal.report with hfirst | ⟨hfirst, -⟩ <;>
          simp [hnone] at hfirst
      · exact ⟨rfl, rfl⟩
    · -- nothing expected can be read, and trying it leaves no trace
      have hnone : ∀ construct ∈ likely, construct.read? cursor.rest = none := by
        intro construct hconstruct
        rw [read?_eq_none_iff]
        rintro lexeme rfl hfront
        exact hread ⟨lexeme, hfront, hconstruct⟩
      simp only [find, ← hlikely, firstAccepting_of_forall_none hnone hmark]
      apply byStarter_congr
      rfl

/-! ## What is found -/

lemma byStarter_of_isAtFrontOf (h : lexeme.IsAtFrontOf cursor.rest)
    (hrest : cursor.rest = symbol :: left) (journal : Journal) :
    (byStarter cursor symbol journal).1 = .accepted (cursor.acceptanceOf lexeme) ∧
        (byStarter cursor symbol journal).2.report =
          journal.report.extend (lexeme.diagnostics cursor.file cursor.line) ∨
      (byStarter cursor symbol journal).1 = .broken .overflow ∧
        journal.report.toList <+: (byStarter cursor symbol journal).2.report.toList ∧
        ¬ (cursor.line ≤ maxIndex ∧ cursor.HasRoomFor lexeme.spelling) := by
  have hstarts : lexeme.construct.startsWith symbol = true := (hrest ▸ h).startsWith
  obtain ⟨table, htable, hmem⟩ := StarterTable.exists_candidates?_standard hstarts
  simp only [byStarter, htable, firstAccepting_of_mem h hmem]
  rcases firstAccepting_singleton_cases h journal.report with hfirst | ⟨hfirst, hextends, hroom⟩
  · rw [hfirst]
    exact .inl ⟨rfl, rfl⟩
  · right
    split
    · rename_i heq
      simp [heq] at hfirst
    · rename_i heq
      simp [heq] at hfirst
    · rename_i heq
      rw [heq] at hfirst hextends
      obtain rfl : _ = Fault.overflow := by simpa using hfirst
      exact ⟨rfl, hextends, hroom⟩

lemma byStarter_of_forall_not (h : ∀ lexeme : Lexeme, ¬ lexeme.IsAtFrontOf cursor.rest)
    (hmark : cursor.mark = none) (symbol : Char) (journal : Journal) :
    (byStarter cursor symbol journal).1 = .failed (Failure.causeAt symbol) ∧
      (byStarter cursor symbol journal).2.report = journal.report := by
  have hnone : ∀ construct ∈ Construct.all.filter (·.startsWith symbol),
      construct.read? cursor.rest = none := fun construct _ => read?_of_forall_not h construct
  simp only [byStarter, StarterTable.standard, StarterTable.candidates?_ofList, Failure.causeAt]
  by_cases hstarts : Construct.all.filter (·.startsWith symbol) = []
  · have hany : Construct.all.any (·.startsWith symbol) = false := by
      simpa [List.filter_eq_nil_iff] using hstarts
    simp [hstarts, hany]
  · have hany : Construct.all.any (·.startsWith symbol) = true := by
      simpa [List.filter_eq_nil_iff] using hstarts
    simp [hstarts, hany, firstAccepting_of_forall_none hnone hmark, Journal.withReport]

/-- Dispatch reads the lexeme at the front, or there is none, or a number gets too large. -/
theorem find_cases (hmark : cursor.mark = none) (hrest : cursor.rest = symbol :: left)
    (expected : Option (List Construct)) (journal : Journal) :
    (∃ lexeme : Lexeme, lexeme.IsAtFrontOf cursor.rest ∧
        (find expected cursor symbol journal).1 = .accepted (cursor.acceptanceOf lexeme) ∧
        (find expected cursor symbol journal).2.report =
          journal.report.extend (lexeme.diagnostics cursor.file cursor.line)) ∨
      ((∀ lexeme : Lexeme, ¬ lexeme.IsAtFrontOf cursor.rest) ∧
        (find expected cursor symbol journal).1 = .failed (Failure.causeAt symbol) ∧
        (find expected cursor symbol journal).2.report = journal.report) ∨
      (∃ lexeme : Lexeme, lexeme.IsAtFrontOf cursor.rest ∧
        (find expected cursor symbol journal).1 = .broken .overflow ∧
        journal.report.toList <+: (find expected cursor symbol journal).2.report.toList ∧
        ¬ (cursor.line ≤ maxIndex ∧ cursor.HasRoomFor lexeme.spelling)) := by
  obtain ⟨hresult, hreport⟩ := find_eq_byStarter hmark hrest expected journal
  rw [hresult, hreport]
  by_cases hread : ∃ lexeme : Lexeme, lexeme.IsAtFrontOf cursor.rest
  · obtain ⟨lexeme, hfront⟩ := hread
    rcases byStarter_of_isAtFrontOf hfront hrest journal with ⟨hfound, hadded⟩ | hbroken
    · exact .inl ⟨lexeme, hfront, hfound, hadded⟩
    · exact .inr (.inr ⟨lexeme, hfront, hbroken⟩)
  · have hnone : ∀ lexeme : Lexeme, ¬ lexeme.IsAtFrontOf cursor.rest := not_exists.1 hread
    obtain ⟨hfailed, hsame⟩ := byStarter_of_forall_not hnone hmark symbol journal
    exact .inr (.inl ⟨hnone, hfailed, hsame⟩)

end Dispatch

end GrammarScan
