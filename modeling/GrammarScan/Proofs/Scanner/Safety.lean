import GrammarScan.Proofs.Scanner.InPlace
import GrammarScan.Proofs.Scanner.Invariant
import Mathlib.Algebra.Group.Nat.Defs

/-!
# Scans break no promise

A fault is a promise that a caller did not keep.  `Scanner.Reaches` collects the states that a scan
gets into between two requests and in the middle of one, and `Scanner.KeepsPromises` says of such a
state that nothing a scanner can do there finds a fault: no look into the buffer beyond its end or
into the middle of a character, no move over a line feed that was not declared, no number too large
to keep.

The invariant of a scan implies this in a text that is not too long (`HasRead.keepsPromises`), and
every state of a scan has the invariant (`Reaches.hasRead`).  The main statement,
`scan_keepsPromises`, puts the two together and adds that no request, and so no scan, ends with a
fault.
-/

namespace GrammarScan

namespace Scanner

/-- A scan gets from one state to another, by single steps or by whole requests. -/
inductive Reaches (scanner : Scanner) : Scanner → Prop
  | refl : Reaches scanner scanner
  | step {reached : Scanner} (journal : Journal) (h : Reaches scanner reached) :
      Reaches scanner (reached.step journal).scanner
  | next {reached : Scanner} (journal : Journal) (h : Reaches scanner reached) :
      Reaches scanner (reached.next journal).scanner

/-- Nothing that a scanner can do in this state finds a fault. -/
structure KeepsPromises (scanner : Scanner) : Prop where
  step_ne (journal : Journal) (fault : Fault) :
    (scanner.step journal).result ≠ .stop (.broken fault)
  next_ne (journal : Journal) (fault : Fault) :
    (scanner.next journal).result ≠ .stop (.broken fault)
  /-- Every construct is read or refused, and it makes no difference if that is done in place. -/
  attempt_eq_ok (construct : Construct) (report : Report) :
    construct.attemptInPlace scanner.cursor.unmarked report =
        construct.attempt scanner.cursor.unmarked report ∧
      ∃ outcome, (construct.attemptInPlace scanner.cursor.unmarked report).1 = .ok outcome
  preview_eq_ok (limit : Nat) :
    scanner.cursor.previewInPlace limit = .ok (scanner.cursor.preview limit)
  line_le : scanner.cursor.line ≤ maxIndex
  column_le : scanner.cursor.column ≤ maxIndex
  offset_le : scanner.cursor.offset ≤ maxIndex
  yielded_le : scanner.yielded ≤ maxIndex

namespace HasRead

variable {scanner : Scanner} {source : Source} {settings : Settings} {before : List Char}

/-- A step keeps the invariant. -/
lemma step (h : scanner.HasRead source settings before) (journal : Journal) :
    ∃ piece, (scanner.step journal).scanner.HasRead source settings (before ++ piece) := by
  have hsteps := scanner.step_steps journal
  have hnil : before ++ [] = before := List.append_nil before
  generalize scanner.step journal = progress at hsteps ⊢
  cases hsteps with
  | ended hphase => exact ⟨[], by rwa [hnil]⟩
  | finish hphase hrest => exact ⟨[], by rw [hnil]; exact h.finish hrest journal⟩
  | read lexeme later hphase hfront hreport => exact ⟨lexeme.spelling, h.behind hphase hfront⟩
  | fail symbol left later hphase hrest hnone hreport =>
    exact ⟨[], by rw [hnil]; exact h.fail (by simp [hrest]) hnone _ later⟩
  | overflow lexeme later hphase hfront hreport hroom => exact ⟨[], by rwa [hnil]⟩

/-- The text read so far bounds the numbers of a scanner. -/
lemma numbers_le (h : scanner.HasRead source settings before) (hlength : source.length < maxIndex) :
    scanner.cursor.line ≤ maxIndex ∧ scanner.cursor.column ≤ maxIndex ∧
      scanner.cursor.offset ≤ maxIndex ∧ scanner.yielded ≤ maxIndex := by
  have hbefore := h.length_le
  have hfeeds := Text.lineFeeds_le_length before
  have hcolumn := Text.columnAfter_one_le before
  have hyielded := h.yielded_le
  have htotal := h.standsBehind.offset_add_byteLength_rest
  rw [h.source_eq] at htotal
  rw [h.standsBehind.line_eq, h.standsBehind.column_eq]
  omega

/-- In a text that is not too long, every construct is read or refused. -/
lemma exists_attempt_eq_ok (h : scanner.HasRead source settings before)
    (hlength : source.length < maxIndex) (construct : Construct) (report : Report) :
    ∃ outcome, (construct.attempt scanner.cursor.unmarked report).1 = .ok outcome := by
  cases hread : construct.read? scanner.cursor.unmarked.rest with
  | none =>
    rw [Construct.attempt_of_read?_eq_none hread]
    exact ⟨_, rfl⟩
  | some lexeme =>
    obtain ⟨rfl, hfront⟩ := Construct.read?_eq_some_iff.1 hread
    obtain ⟨-, left, hrest, -⟩ := id hfront
    have hshort : scanner.cursor.unmarked.source.length < maxIndex := by
      show scanner.cursor.source.length < maxIndex
      rwa [h.source_eq]
    have hroom := h.standsBehind.unmarked.hasRoomFor hshort hrest
    rw [Construct.attempt_of_hasRoomFor hfront (h.numbers_le hlength).1 hroom]
    exact ⟨_, rfl⟩

/-- In a text that is not too long, a scan keeps its promises. -/
theorem keepsPromises (h : scanner.HasRead source settings before)
    (hlength : source.length < maxIndex) : scanner.KeepsPromises where
  step_ne journal fault := by
    have hsteps := scanner.step_steps journal
    intro hbroken
    generalize scanner.step journal = progress at hsteps hbroken
    cases hsteps with
    | overflow lexeme later hphase hfront hreport hroom =>
      exact absurd (h.not_overflow hfront hroom) (not_le.2 hlength)
    | _ => simp [Scanner.finish, Scanner.fail] at hbroken
  next_ne journal fault := by
    have hanswers := h.next_answers journal
    intro hbroken
    generalize scanner.next journal = progress at hanswers hbroken
    cases hanswers with
    | broken passed after later hlong hread => exact absurd hlong (not_le.2 hlength)
    | _ => simp at hbroken
  attempt_eq_ok construct report := by
    rw [Construct.attemptInPlace_eq]
    exact ⟨rfl, h.exists_attempt_eq_ok hlength construct report⟩
  preview_eq_ok := scanner.cursor.previewInPlace_eq
  line_le := (h.numbers_le hlength).1
  column_le := (h.numbers_le hlength).2.1
  offset_le := (h.numbers_le hlength).2.2.1
  yielded_le := (h.numbers_le hlength).2.2.2

/-- In a text that is not too long, no request is answered with a fault. -/
theorem requests_ne_broken (h : scanner.HasRead source settings before)
    (hlength : source.length < maxIndex) (journal : Journal) (count : Nat) :
    ∀ answer ∈ (scanner.requests journal count).result, ∀ fault,
      answer ≠ .stop (.broken fault) := by
  induction count generalizing scanner before journal with
  | zero => exact fun answer hanswer => absurd hanswer List.not_mem_nil
  | succ count ih =>
    obtain ⟨piece, hread⟩ := h.next journal
    rw [requests_succ_result]
    exact List.forall_mem_cons.2 ⟨(h.keepsPromises hlength).next_ne journal, ih hread _⟩

/-- In a text that is not too long, no scan ends with a fault. -/
lemma drain_ne_broken (h : scanner.HasRead source settings before)
    (hlength : source.length < maxIndex) (journal : Journal) (fault : Fault) :
    (scanner.drain journal).result.ending ≠ .broken fault := by
  obtain ⟨count, hanswers, -⟩ := exists_requests_eq_drain scanner journal
  intro hending
  have hlast : Answer.stop (scanner.drain journal).result.ending ∈
      (scanner.requests journal count).result := by
    rw [hanswers]
    exact List.mem_append_right _ (List.mem_singleton_self _)
  exact h.requests_ne_broken hlength journal count _ hlast fault (congrArg Answer.stop hending)

end HasRead

/-- Every state of a scan has the invariant. -/
theorem Reaches.hasRead {scanner reached : Scanner} (hreaches : scanner.Reaches reached)
    {source : Source} {settings : Settings} {before : List Char}
    (h : scanner.HasRead source settings before) :
    ∃ piece, reached.HasRead source settings (before ++ piece) := by
  induction hreaches with
  | refl => exact ⟨[], by rwa [List.append_nil]⟩
  | step journal _ ih =>
    obtain ⟨piece, hread⟩ := ih
    obtain ⟨more, hmore⟩ := hread.step journal
    exact ⟨piece ++ more, by rwa [← List.append_assoc]⟩
  | next journal _ ih =>
    obtain ⟨piece, hread⟩ := ih
    obtain ⟨more, hmore⟩ := hread.next journal
    exact ⟨piece ++ more, by rwa [← List.append_assoc]⟩

end Scanner

/-- In every state of a scan, between requests and inside them, nothing that the scanner can do finds
a fault.  So no request is answered with a fault and no scan ends with one. -/
theorem scan_keepsPromises (source : Source) (hlength : source.length < 2 ^ 63)
    (settings : Settings) (journal : Journal) :
    let started := (Scanner.start source settings journal).1
    (∀ reached, started.Reaches reached → reached.KeepsPromises) ∧
      (∀ sink count, ∀ answer ∈ (started.requests sink count).result, ∀ fault,
        answer ≠ .stop (.broken fault)) ∧
      ∀ fault, (source.tokenize settings journal).1.ending ≠ .broken fault := by
  intro started
  have hshort : source.length < maxIndex := hlength.trans (by decide)
  have hstart := Scanner.hasRead_start source settings journal
  refine ⟨?_, hstart.requests_ne_broken hshort, ?_⟩
  · intro reached hreaches
    obtain ⟨piece, hread⟩ := hreaches.hasRead hstart
    exact hread.keepsPromises hshort
  · have hentered := Scanner.hasRead_start source settings
      (journal.record (.sourceEntered source.file source.length))
    exact hentered.drain_ne_broken hshort _

/-- Characters of two, three and four bytes in a comment that a backslash keeps open, in a name with
a line feed and in a quoted text with an escaped one, and behind them a group that cannot be read. -/
theorem scan_keepsPromises_wide_characters :
    let source : Source := ⟨⟨"wide.ebnf"⟩, "/*é\\*/\n€*/<a\né>\"€\\\n\\𐍈\" (*"⟩
    let started := (Scanner.start source Settings.predictive Journal.empty).1
    source.length < 2 ^ 63 ∧
      (∀ reached, started.Reaches reached → reached.KeepsPromises) ∧
        (∀ sink count, ∀ answer ∈ (started.requests sink count).result, ∀ fault,
          answer ≠ .stop (.broken fault)) ∧
        ∀ fault, (source.tokenize Settings.predictive Journal.empty).1.ending ≠ .broken fault := by
  intro source started
  have hlength : source.length < 2 ^ 63 := by decide
  exact ⟨hlength, scan_keepsPromises source hlength Settings.predictive Journal.empty⟩

end GrammarScan
