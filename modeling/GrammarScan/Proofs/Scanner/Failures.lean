import GrammarScan.Proofs.Grammar.Obstacles
import GrammarScan.Proofs.Scanner.Passing

/-!
# Why a scan stops

A scan that stops tells why.  `Failure.Cause.IsFoundAt` says what a cause claims about the text that
could not be read, and `quotation` which part of that text is quoted; neither refers to how the scan
came to its verdict.

`drain_ending_isFoundAt` is the main statement, in two directions: the ending of a scan is borne out
by the text in front of which it stopped, and a scanner that is asked for a lexeme where a cause is
found fails with this cause, whatever it has read before.
-/

namespace GrammarScan

/-- Whether a text bears out a cause for which no lexeme can be read at its front. -/
def Failure.Cause.IsFoundAt (cause : Failure.Cause) (text : List Char) : Prop :=
  match cause with
  | .unknownSymbol symbol => text.head? = some symbol ∧ symbol ∉ lexemeStarters
  | .unreadable => ∃! obstacle : Obstacle, obstacle.Blocks text

/-- The first `limit` characters of a text, with three dots if there are more. -/
def quotation (limit : Nat) (text : List Char) : String :=
  String.ofList (text.take limit) ++ if limit < text.length then "..." else ""

/-- Whether the text in front of which a scan stopped bears out its ending. -/
def Ending.IsFoundAt (ending : Ending) (source : Source) (settings : Settings)
    (text : List Char) : Prop :=
  match ending with
  | .complete => text = []
  | .failed failure =>
    failure.cause.IsFoundAt text ∧ failure.preview = quotation settings.previewLength text
  | .broken _ => maxIndex ≤ source.length

namespace Failure

lemma causeAt_eq_ite (symbol : Char) :
    causeAt symbol = if symbol ∈ lexemeStarters then .unreadable else .unknownSymbol symbol := by
  simp only [causeAt, any_startsWith_iff]

/-- A cause is found where no lexeme can be read, and it is the one that the next character tells. -/
theorem isFoundAt_cons_iff {cause : Cause} {symbol : Char} {left : List Char} :
    cause.IsFoundAt (symbol :: left) ↔
      cause = causeAt symbol ∧ ∀ lexeme : Lexeme, ¬ lexeme.IsAtFrontOf (symbol :: left) := by
  rw [causeAt_eq_ite]
  cases cause with
  | unknownSymbol other =>
    constructor
    · rintro ⟨hhead, hstarter⟩
      obtain rfl : symbol = other := Option.some.inj hhead
      refine ⟨(if_neg hstarter).symm, ?_⟩
      intro lexeme hfront
      have hany : Construct.all.any (·.startsWith symbol) = true :=
        List.any_eq_true.2 ⟨lexeme.construct, Construct.mem_all _, hfront.startsWith⟩
      exact hstarter (any_startsWith_iff.1 hany)
    · rintro ⟨hcause, -⟩
      split_ifs at hcause with hstarter
      obtain rfl := Cause.unknownSymbol.inj hcause
      exact ⟨rfl, hstarter⟩
  | unreadable =>
    constructor
    · rintro ⟨obstacle, hblocks, -⟩
      obtain ⟨hstarter, hnone⟩ := exists_blocks_iff.1 ⟨obstacle, hblocks⟩
      exact ⟨(if_pos hstarter).symm, hnone⟩
    · rintro ⟨hcause, hnone⟩
      split_ifs at hcause with hstarter
      obtain ⟨obstacle, hblocks⟩ := exists_blocks_iff.2 ⟨hstarter, hnone⟩
      exact ⟨obstacle, hblocks, fun other hother => hother.unique hblocks⟩

lemma Cause.IsFoundAt.exists_cons {cause : Cause} {text : List Char} (h : cause.IsFoundAt text) :
    ∃ symbol left, text = symbol :: left := by
  cases text with
  | nil =>
    cases cause with
    | unknownSymbol symbol => simp [IsFoundAt] at h
    | unreadable =>
      obtain ⟨obstacle, hblocks, -⟩ := h
      obtain ⟨⟨c, hc, -⟩, -⟩ := hblocks.not_isAtFrontOf
      simp at hc
  | cons symbol left => exact ⟨symbol, left, rfl⟩

end Failure

namespace Scanner

variable {scanner : Scanner} {journal : Journal}

lemma preview_eq_quotation (scanner : Scanner) :
    scanner.preview = quotation scanner.settings.previewLength scanner.cursor.rest := by
  unfold preview Cursor.preview quotation
  by_cases hlong : scanner.settings.previewLength < scanner.cursor.rest.length
  · have hdrop : (scanner.cursor.rest.drop scanner.settings.previewLength).isEmpty = false := by
      simpa using hlong
    simp [hdrop, hlong]
  · have hdrop : (scanner.cursor.rest.drop scanner.settings.previewLength).isEmpty = true := by
      simpa using hlong
    simp [hdrop, hlong]

/-- Where a cause is found, a scanner fails with it. -/
lemma step_of_isFoundAt (hphase : scanner.phase = .scanning) {cause : Failure.Cause}
    (hcause : cause.IsFoundAt scanner.cursor.rest) (journal : Journal) :
    ∃ later, scanner.step journal = scanner.fail cause later := by
  obtain ⟨symbol, left, hrest⟩ := hcause.exists_cons
  rw [hrest] at hcause
  obtain ⟨rfl, hnone⟩ := Failure.isFoundAt_cons_iff.1 hcause
  have hsteps := scanner.step_steps journal
  generalize scanner.step journal = progress at hsteps ⊢
  cases hsteps with
  | ended hover => exact absurd hphase hover
  | finish _ hend => simp [hrest] at hend
  | read lexeme later _ hfront hreport => exact absurd (hrest ▸ hfront) (hnone lexeme)
  | fail other left' later _ hrest' _ hreport =>
    obtain ⟨rfl, -⟩ := List.cons.inj (hrest.symm.trans hrest')
    exact ⟨later, rfl⟩
  | overflow lexeme later _ hfront hreport hroom => exact absurd (hrest ▸ hfront) (hnone lexeme)

namespace HasRead

variable {source : Source} {settings : Settings} {before : List Char}

/-- The text in front of which a request stops bears out its ending. -/
lemma next_ending_isFoundAt (h : scanner.HasRead source settings before)
    (hphase : scanner.phase = .scanning) {ending : Ending}
    (hstop : (scanner.next journal).result = .stop ending) :
    ending.IsFoundAt source settings (scanner.next journal).scanner.cursor.rest := by
  cases h.next_stops hphase hstop with
  | complete passed last reached hrest hreport hread hnext =>
    rw [hnext]
    exact hrest
  | failed passed last reached symbol left hrest hnone hreport hread hnext =>
    rw [hnext]
    refine ⟨?_, ?_⟩
    · rw [show (last.fail (Failure.causeAt symbol) reached).scanner.cursor.rest = symbol :: left
        from hrest]
      exact Failure.isFoundAt_cons_iff.2 ⟨rfl, hrest ▸ hnone⟩
    · rw [← hread.settings_eq]
      exact last.preview_eq_quotation
  | broken hlength => exact hlength

/-- The text in front of which a scan stops bears out its ending. -/
lemma drain_ending_isFoundAt (h : scanner.HasRead source settings before)
    (hphase : scanner.phase = .scanning) (journal : Journal) :
    (scanner.drain journal).result.ending.IsFoundAt source settings
      (scanner.drain journal).scanner.cursor.rest := by
  fun_induction Scanner.drain scanner journal generalizing before with
  | case1 scanner journal ending after later hnext =>
    have hfound := h.next_ending_isFoundAt hphase (congrArg Progress.result hnext)
    rw [hnext] at hfound
    exact hfound
  | case2 scanner journal token after later hnext drained =>
    rename_i ih
    obtain ⟨passed, cursor, lexeme, hyields⟩ := h.exists_yields (congrArg Progress.result hnext)
    have hscanning := hyields.phase_eq
    have hread := hyields.hasRead
    rw [hnext] at hscanning hread
    exact ih hread hscanning

end HasRead

end Scanner

/-- A scan ends as the text in front of which it stopped tells: it is complete where nothing is left,
and it fails where no lexeme can be read, with the cause that is found there and a quotation of what
is left.  And wherever such a cause is found, a scanner that is asked for a lexeme fails with it. -/
theorem tokenize_ending_isFoundAt (source : Source) (settings : Settings) (journal : Journal) :
    let begun := Scanner.start source settings
      (journal.record (.sourceEntered source.file source.length))
    let done := begun.1.drain begun.2
    let cursor := done.scanner.cursor
    source.tokenize settings journal = (done.result, done.journal) ∧
      (∃ before, source.text.toList = before ++ cursor.rest ∧
        Text.byteLength before = cursor.offset) ∧
      done.result.ending.IsFoundAt source settings cursor.rest ∧
      ∀ (scanner : Scanner) (written : Journal) (cause : Failure.Cause),
        scanner.phase = .scanning → cause.IsFoundAt scanner.cursor.rest →
          let failure : Failure := ⟨scanner.cursor.file, scanner.cursor.line, cause,
            quotation scanner.settings.previewLength scanner.cursor.rest⟩
          (scanner.step written).result = .stop (.failed failure) ∧
            (scanner.next written).result = .stop (.failed failure) := by
  intro begun done cursor
  have hstart : begun.1.HasRead source settings [] := Scanner.hasRead_start source settings _
  refine ⟨rfl, ?_, ?_, ?_⟩
  · obtain ⟨count, -, hscanner, -⟩ := begun.1.exists_requests_eq_drain begun.2
    obtain ⟨piece, hread⟩ := hstart.requests begun.2 count
    rw [hscanner] at hread
    exact ⟨piece, hread.text_eq, hread.standsBehind.offset_eq.symm⟩
  · exact hstart.drain_ending_isFoundAt rfl begun.2
  · intro scanner written cause hphase hcause failure
    obtain ⟨later, hstep⟩ := Scanner.step_of_isFoundAt hphase hcause written
    have hstopped : scanner.step written =
        ⟨.stop (.failed failure), (scanner.fail cause later).scanner,
          (scanner.fail cause later).journal⟩ := by
      rw [hstep, Scanner.fail, Scanner.preview_eq_quotation]
    rw [Scanner.next_of_step_stop hstopped, hstopped]
    exact ⟨rfl, rfl⟩

end GrammarScan
