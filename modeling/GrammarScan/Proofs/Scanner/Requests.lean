import GrammarScan.Proofs.Scanner.Steps
import GrammarScan.Tokenize

/-!
# Sequences of requests

`Scanner.requests` asks a scanner for a number of tokens and keeps the answers.  Draining a scanner
is such a sequence, long enough to reach the end (`exists_requests_eq_drain`), so what holds after
every number of requests holds of whole scans as well.
-/

namespace GrammarScan

/-- The token in an answer. -/
def Answer.token? : Answer → Option Token
  | .token read => some read
  | .stop _ => none

lemma Answer.filterMap_token? (tokens : List Token) (ending : Ending) :
    (tokens.map Answer.token ++ [Answer.stop ending]).filterMap Answer.token? = tokens := by
  induction tokens with
  | nil => rfl
  | cons first tokens ih =>
    have hfirst : (Answer.token first).token? = some first := rfl
    rw [List.map_cons, List.cons_append, List.filterMap_cons_some hfirst, ih]

namespace Scanner

/-- The answers to a number of requests, with the scanner and the journal behind the last one. -/
def requests (scanner : Scanner) (journal : Journal) : Nat → Progress (List Answer)
  | 0 => ⟨[], scanner, journal⟩
  | count + 1 =>
    let first := scanner.next journal
    let later := first.scanner.requests first.journal count
    { later with result := first.result :: later.result }

variable {scanner after : Scanner} {journal later : Journal}

@[simp] lemma requests_zero (scanner : Scanner) (journal : Journal) :
    scanner.requests journal 0 = ⟨[], scanner, journal⟩ := rfl

lemma requests_succ_result (scanner : Scanner) (journal : Journal) (count : Nat) :
    (scanner.requests journal (count + 1)).result =
      (scanner.next journal).result ::
        ((scanner.next journal).scanner.requests (scanner.next journal).journal count).result := rfl

lemma requests_succ_scanner (scanner : Scanner) (journal : Journal) (count : Nat) :
    (scanner.requests journal (count + 1)).scanner =
      ((scanner.next journal).scanner.requests (scanner.next journal).journal count).scanner := rfl

lemma requests_succ_journal (scanner : Scanner) (journal : Journal) (count : Nat) :
    (scanner.requests journal (count + 1)).journal =
      ((scanner.next journal).scanner.requests (scanner.next journal).journal count).journal := rfl

/-- Requests only add to the report. -/
lemma requests_report_extends (scanner : Scanner) (journal : Journal) (count : Nat) :
    journal.report.toList <+: (scanner.requests journal count).journal.report.toList := by
  induction count generalizing scanner journal with
  | zero => exact List.prefix_rfl
  | succ count ih =>
    rw [requests_succ_journal]
    exact (next_report_extends scanner journal).trans (ih _ _)

/-! ## Draining -/

lemma drain_of_next_token {token : Token} (h : scanner.next journal = ⟨.token token, after, later⟩) :
    scanner.drain journal =
      { after.drain later with result := (after.drain later).result.cons token } := by
  rw [drain]
  split
  · rename_i hnext
    simp [h] at hnext
  · rename_i hnext
    obtain ⟨htoken, rfl, rfl⟩ := Progress.mk.inj (h.symm.trans hnext)
    obtain rfl := Answer.token.inj htoken
    rfl

lemma drain_of_next_stop {ending : Ending} (h : scanner.next journal = ⟨.stop ending, after, later⟩) :
    scanner.drain journal = ⟨⟨[], ending⟩, after, later⟩ := by
  rw [drain]
  split
  · rename_i hnext
    obtain ⟨hending, rfl, rfl⟩ := Progress.mk.inj (h.symm.trans hnext)
    obtain rfl := Answer.stop.inj hending
    rfl
  · rename_i hnext
    simp [h] at hnext

/-- Draining a scanner is asking for tokens until the scan has ended. -/
theorem exists_requests_eq_drain (scanner : Scanner) (journal : Journal) :
    ∃ count,
      (scanner.requests journal count).result =
          (scanner.drain journal).result.tokens.map .token ++
            [.stop (scanner.drain journal).result.ending] ∧
        (scanner.requests journal count).scanner = (scanner.drain journal).scanner ∧
        (scanner.requests journal count).journal = (scanner.drain journal).journal := by
  fun_induction drain scanner journal with
  | case1 scanner journal ending after later hnext =>
    refine ⟨1, ?_, ?_, ?_⟩
    · rw [requests_succ_result, hnext]
      rfl
    · rw [requests_succ_scanner, hnext]
      rfl
    · rw [requests_succ_journal, hnext]
      rfl
  | case2 scanner journal token after later hnext drained ih =>
    obtain ⟨count, hresult, hscanner, hjournal⟩ := ih
    refine ⟨count + 1, ?_, ?_, ?_⟩
    · rw [requests_succ_result, hnext, hresult]
      rfl
    · rw [requests_succ_scanner, hnext, hscanner]
    · rw [requests_succ_journal, hnext, hjournal]

end Scanner

end GrammarScan
