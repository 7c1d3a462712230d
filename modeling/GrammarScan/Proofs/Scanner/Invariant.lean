import GrammarScan.Proofs.Scanner.Requests

/-!
# The invariant of a scan

`Scanner.HasRead` describes the states that a scanner started on a source gets into, by the text that
it has read so far.  It holds at the start, every step keeps it, and it leaves no room for a number
that is too large in a text that is not too long.

`Scanner.Answers` lists what a request can come to in such a state, and `HasRead.next_answers` says
that there is nothing else.  What whole runs keep follows by induction on the number of requests.
With trivia kept and a text that is not too long, the list is shorter, as nothing is passed over and
no number gets too large: this is `Scanner.AnswersInFull`.
-/

namespace GrammarScan

/-- The scanner works on `source` with `settings`, and has read the text `before`. -/
structure Scanner.HasRead (scanner : Scanner) (source : Source) (settings : Settings)
    (before : List Char) : Prop where
  source_eq : scanner.cursor.source = source
  settings_eq : scanner.settings = settings
  standsBehind : scanner.cursor.StandsBehind before
  yielded_le : scanner.yielded ≤ before.length
  rest_of_finished : scanner.phase = .finished → scanner.cursor.rest = []
  rest_of_failed : scanner.phase = .failed →
    scanner.cursor.rest ≠ [] ∧ ∀ lexeme : Lexeme, ¬ lexeme.IsAtFrontOf scanner.cursor.rest

/-- What a request can come to for a scanner that has read the text `before`.  The text `passed` is
that of the lexemes passed over. -/
inductive Scanner.Answers (scanner : Scanner) (source : Source) (settings : Settings)
    (before : List Char) : Progress Answer → Prop
  /-- The token of a lexeme is yielded. -/
  | token (passed : List Char) (cursor : Cursor) (lexeme : Lexeme) (after : Scanner)
      (later : Journal) (hpassed : settings.keepTrivia = true → passed = [])
      (hstands : cursor.StandsBehind (before ++ passed)) (hsource : cursor.source = source)
      (hfront : lexeme.IsAtFrontOf cursor.rest) (hphase : after.phase = .scanning)
      (hread : after.HasRead source settings (before ++ passed ++ lexeme.spelling)) :
      Answers scanner source settings before ⟨.token (cursor.tokenOf lexeme), after, later⟩
  /-- The scan was over already. -/
  | ended (later : Journal) (hphase : scanner.phase ≠ .scanning) :
      Answers scanner source settings before ⟨.stop .complete, scanner, later⟩
  /-- The input is read to its end. -/
  | finished (passed : List Char) (after : Scanner) (later : Journal)
      (hpassed : settings.keepTrivia = true → passed = []) (hphase : after.phase = .finished)
      (hread : after.HasRead source settings (before ++ passed)) :
      Answers scanner source settings before ⟨.stop .complete, after, later⟩
  /-- The input goes on, and not with a lexeme. -/
  | failed (passed : List Char) (failure : Failure) (after : Scanner) (later : Journal)
      (hpassed : settings.keepTrivia = true → passed = []) (hphase : after.phase = .failed)
      (hread : after.HasRead source settings (before ++ passed))
      (hline : failure.line = after.cursor.line) :
      Answers scanner source settings before ⟨.stop (.failed failure), after, later⟩
  /-- The text is so long that a number got too large. -/
  | broken (passed : List Char) (after : Scanner) (later : Journal)
      (hlength : maxIndex ≤ source.length)
      (hread : after.HasRead source settings (before ++ passed)) :
      Answers scanner source settings before ⟨.stop (.broken .overflow), after, later⟩

/-- What a request can come to for a scanner that passes nothing over, in a text that is not too
long. -/
inductive Scanner.AnswersInFull (scanner : Scanner) (source : Source) (settings : Settings)
    (before : List Char) : Progress Answer → Prop
  /-- The token of the lexeme at the front is yielded. -/
  | token (lexeme : Lexeme) (after : Scanner) (later : Journal)
      (hfront : lexeme.IsAtFrontOf scanner.cursor.rest) (hphase : after.phase = .scanning)
      (hread : after.HasRead source settings (before ++ lexeme.spelling)) :
      AnswersInFull scanner source settings before
        ⟨.token (scanner.cursor.tokenOf lexeme), after, later⟩
  /-- The scan was over already. -/
  | ended (later : Journal) (hphase : scanner.phase ≠ .scanning) :
      AnswersInFull scanner source settings before ⟨.stop .complete, scanner, later⟩
  /-- The input is read to its end. -/
  | finished (after : Scanner) (later : Journal) (hrest : scanner.cursor.rest = [])
      (hphase : after.phase = .finished) (hread : after.HasRead source settings before) :
      AnswersInFull scanner source settings before ⟨.stop .complete, after, later⟩
  /-- The input goes on, and not with a lexeme. -/
  | failed (failure : Failure) (after : Scanner) (later : Journal)
      (hnone : ∀ lexeme : Lexeme, ¬ lexeme.IsAtFrontOf scanner.cursor.rest)
      (hphase : after.phase = .failed) (hread : after.HasRead source settings before) :
      AnswersInFull scanner source settings before ⟨.stop (.failed failure), after, later⟩

/-- The token of a lexeme depends on the text in front of it only. -/
lemma Cursor.StandsBehind.tokenOf_eq {a b : Cursor} {before : List Char} (ha : a.StandsBehind before)
    (hb : b.StandsBehind before) (lexeme : Lexeme) : a.tokenOf lexeme = b.tokenOf lexeme := by
  have hoffset : a.offset = b.offset := ha.offset_eq.trans hb.offset_eq.symm
  have hline : a.line = b.line := ha.line_eq.trans hb.line_eq.symm
  have hcolumn : a.column = b.column := ha.column_eq.trans hb.column_eq.symm
  simp only [Cursor.tokenOf, Lexeme.token, Cursor.past_offset, hoffset, hline, hcolumn]

namespace Scanner

/-- The scanner that has yielded one token more. -/
def counted (scanner : Scanner) : Scanner :=
  { scanner with yielded := scanner.yielded + 1 }

lemma hasRead_start (source : Source) (settings : Settings) (journal : Journal) :
    (start source settings journal).1.HasRead source settings [] where
  source_eq := rfl
  settings_eq := rfl
  standsBehind := Cursor.standsBehind_start source
  yielded_le := Nat.le_refl 0
  rest_of_finished h := by simp [start] at h
  rest_of_failed h := by simp [start] at h

namespace HasRead

variable {scanner : Scanner} {source : Source} {settings : Settings} {before : List Char}
  {lexeme : Lexeme}

/-- What is read and what is left make up the whole text. -/
lemma text_eq (h : scanner.HasRead source settings before) :
    source.text.toList = before ++ scanner.cursor.rest := by
  rw [← h.source_eq]
  exact h.standsBehind.text_eq

/-- What is left is determined by what has been read. -/
lemma rest_eq {text : List Char} (h : scanner.HasRead source settings before)
    (htext : source.text.toList = before ++ text) : scanner.cursor.rest = text := by
  have hsource := h.text_eq
  rw [htext] at hsource
  exact (List.append_cancel_left hsource).symm

lemma length_le (h : scanner.HasRead source settings before) : before.length ≤ source.length := by
  have hle := Text.length_le_byteLength before
  rw [Source.length, h.text_eq, Text.byteLength_append]
  omega

lemma length_rest_le (h : scanner.HasRead source settings before) :
    scanner.cursor.rest.length ≤ source.length := by
  have hbytes := Text.length_le_byteLength source.text.toList
  rw [h.text_eq, List.length_append, ← h.text_eq] at hbytes
  exact (Nat.le_add_left _ _).trans hbytes

lemma behind (h : scanner.HasRead source settings before) (hphase : scanner.phase = .scanning)
    (hfront : lexeme.IsAtFrontOf scanner.cursor.rest) :
    (scanner.behind lexeme).HasRead source settings (before ++ lexeme.spelling) where
  source_eq := h.source_eq
  settings_eq := h.settings_eq
  standsBehind := by
    obtain ⟨-, left, hrest, -⟩ := hfront
    exact (h.standsBehind.past hrest).marked _
  yielded_le := by
    have hle := h.yielded_le
    rw [List.length_append]
    exact Nat.le_add_right_of_le hle
  rest_of_finished hfinished := by simp [Scanner.behind, hphase] at hfinished
  rest_of_failed hfailed := by simp [Scanner.behind, hphase] at hfailed

/-- A token that is yielded is counted, and there is text for it. -/
lemma behind_yielded (h : scanner.HasRead source settings before)
    (hphase : scanner.phase = .scanning) (hfront : lexeme.IsAtFrontOf scanner.cursor.rest) :
    (scanner.behind lexeme).counted.HasRead source settings (before ++ lexeme.spelling) := by
  have hread := h.behind hphase hfront
  have hpos : 0 < lexeme.spelling.length := List.length_pos_iff.2 hfront.spelling_ne_nil
  have hyielded := h.yielded_le
  refine { hread with yielded_le := ?_ }
  show scanner.yielded + 1 ≤ _
  rw [List.length_append]
  omega

/-- In a text that is not too long, the lexeme at the front can be read. -/
lemma not_overflow (h : scanner.HasRead source settings before)
    (hfront : lexeme.IsAtFrontOf scanner.cursor.rest)
    (hroom : ¬ (scanner.cursor.line ≤ maxIndex ∧ scanner.cursor.HasRoomFor lexeme.spelling)) :
    maxIndex ≤ source.length := by
  by_contra hlength
  obtain ⟨-, left, hrest, -⟩ := hfront
  have hshort : scanner.cursor.source.length < maxIndex := by
    rw [h.source_eq]
    omega
  refine hroom ⟨?_, h.standsBehind.hasRoomFor hshort hrest⟩
  have hfeeds := Text.lineFeeds_le_length before
  have hbefore := h.length_le
  rw [h.standsBehind.line_eq]
  omega

/-- A token is yielded unless there are too many. -/
lemma yield_answers (h : scanner.HasRead source settings before) (hphase : scanner.phase = .scanning)
    (hfront : lexeme.IsAtFrontOf scanner.cursor.rest) (later : Journal) :
    scanner.Answers source settings before
      ((scanner.behind lexeme).yield (scanner.cursor.tokenOf lexeme) later) := by
  have hyielded := h.behind_yielded hphase hfront
  unfold Scanner.yield
  split_ifs with hcount
  · refine .token [] _ lexeme _ _ (fun _ => rfl) ?_ h.source_eq hfront hphase ?_
    · rw [List.append_nil]
      exact h.standsBehind
    · rw [List.append_nil]
      exact hyielded
  · refine .broken lexeme.spelling _ _ ?_ (h.behind hphase hfront)
    have hmax : maxIndex ≤ scanner.yielded := not_lt.1 hcount
    exact hmax.trans (h.yielded_le.trans h.length_le)

/-- What comes after a lexeme that is passed over is what the request comes to. -/
lemma answers_of_passed {after : Scanner} {piece : List Char} {progress : Progress Answer}
    (hphase : after.phase = .scanning) (hkeep : settings.keepTrivia = false)
    (hanswers : after.Answers source settings (before ++ piece) progress) :
    scanner.Answers source settings before progress := by
  have hpassed : ∀ passed : List Char, settings.keepTrivia = true → passed = [] := by
    intro passed hkept
    rw [hkeep] at hkept
    exact absurd hkept Bool.false_ne_true
  cases hanswers with
  | token passed cursor lexeme after later _ hstands hsource hfront hphase hread =>
    rw [List.append_assoc before] at hstands hread
    exact .token (piece ++ passed) cursor lexeme after later (hpassed _) hstands hsource hfront
      hphase hread
  | ended later hover => exact absurd hphase hover
  | finished passed after later _ hphase hread =>
    rw [List.append_assoc] at hread
    exact .finished (piece ++ passed) after later (hpassed _) hphase hread
  | failed passed failure after later _ hphase hread hline =>
    rw [List.append_assoc] at hread
    exact .failed (piece ++ passed) failure after later (hpassed _) hphase hread hline
  | broken passed after later hlength hread =>
    rw [List.append_assoc] at hread
    exact .broken (piece ++ passed) after later hlength hread

lemma finish (h : scanner.HasRead source settings before) (hrest : scanner.cursor.rest = [])
    (journal : Journal) : (scanner.finish journal).scanner.HasRead source settings before :=
  { h with
    rest_of_finished := fun _ => hrest
    rest_of_failed := fun hfailed => by simp [Scanner.finish] at hfailed }

lemma fail (h : scanner.HasRead source settings before) (hrest : scanner.cursor.rest ≠ [])
    (hnone : ∀ lexeme : Lexeme, ¬ lexeme.IsAtFrontOf scanner.cursor.rest)
    (cause : Failure.Cause) (journal : Journal) :
    (scanner.fail cause journal).scanner.HasRead source settings before :=
  { h with
    rest_of_finished := fun hfinished => by simp [Scanner.fail] at hfinished
    rest_of_failed := fun _ => ⟨hrest, hnone⟩ }

/-- A request passes over lexemes and then yields one, or the scan ends. -/
theorem next_answers (h : scanner.HasRead source settings before) (journal : Journal) :
    scanner.Answers source settings before (scanner.next journal) := by
  fun_induction Scanner.next scanner journal generalizing before with
  | case1 scanner journal token after later hstep hskip ih =>
    have hsteps := scanner.step_steps journal
    rw [hstep] at hsteps
    cases hsteps with
    | read lexeme _ hphase hfront hreport =>
      have hread := h.behind hphase hfront
      have hafter : (scanner.behind lexeme).phase = .scanning := hphase
      have hkeep : settings.keepTrivia = false := by
        rw [← hread.settings_eq]
        have hdrops := (Bool.and_eq_true _ _ ▸ hskip).2
        simpa using hdrops
      exact answers_of_passed hafter hkeep (ih hread)
  | case2 scanner journal token after later hstep hkeep =>
    have hsteps := scanner.step_steps journal
    rw [hstep] at hsteps
    cases hsteps with
    | read lexeme _ hphase hfront hreport => exact h.yield_answers hphase hfront later
  | case3 scanner journal ending after later hstep =>
    have hsteps := scanner.step_steps journal
    rw [hstep] at hsteps
    have hnil : before ++ [] = before := List.append_nil before
    cases hsteps with
    | ended hphase => exact .ended _ hphase
    | finish hphase hrest =>
      refine .finished [] _ _ (fun _ => rfl) rfl ?_
      rw [hnil]
      exact h.finish hrest journal
    | fail symbol left earlier hphase hrest hnone hreport =>
      refine .failed [] _ _ _ (fun _ => rfl) rfl ?_ rfl
      rw [hnil]
      exact h.fail (by simp [hrest]) hnone (Failure.causeAt symbol) earlier
    | overflow lexeme later hphase hfront hreport hroom =>
      refine .broken [] _ _ (h.not_overflow hfront hroom) ?_
      rw [hnil]
      exact h

/-- With trivia kept and a text that is not too long, a request reads the lexeme at the front, or
the scan ends where it is. -/
theorem next_answersInFull (h : scanner.HasRead source settings before)
    (hkeep : settings.keepTrivia = true) (hlength : source.length < maxIndex) (journal : Journal) :
    scanner.AnswersInFull source settings before (scanner.next journal) := by
  have hanswers := h.next_answers journal
  generalize scanner.next journal = progress at hanswers ⊢
  cases hanswers with
  | token passed cursor lexeme after later hpassed hstands hsource hfront hphase hread =>
    rw [hpassed hkeep, List.append_nil] at hstands hread
    have hrest : scanner.cursor.rest = cursor.rest := by
      have htext := hstands.text_eq
      rw [hsource] at htext
      exact h.rest_eq htext
    rw [hstands.tokenOf_eq h.standsBehind]
    exact .token lexeme after later (hrest ▸ hfront) hphase hread
  | ended later hphase => exact .ended later hphase
  | finished passed after later hpassed hphase hread =>
    rw [hpassed hkeep, List.append_nil] at hread
    have hrest := h.rest_eq hread.text_eq
    exact .finished after later (hrest.trans (hread.rest_of_finished hphase)) hphase hread
  | failed passed failure after later hpassed hphase hread hline =>
    rw [hpassed hkeep, List.append_nil] at hread
    have hrest := h.rest_eq hread.text_eq
    obtain ⟨-, hnone⟩ := hread.rest_of_failed hphase
    exact .failed failure after later (hrest ▸ hnone) hphase hread
  | broken passed after later hlong hread => exact absurd hlong (not_le.2 hlength)

/-- A request keeps the invariant. -/
lemma next (h : scanner.HasRead source settings before) (journal : Journal) :
    ∃ piece, (scanner.next journal).scanner.HasRead source settings (before ++ piece) := by
  have hanswers := h.next_answers journal
  generalize scanner.next journal = progress at hanswers ⊢
  cases hanswers with
  | token passed cursor lexeme after later hpassed hstands hsource hfront hphase hread =>
    exact ⟨passed ++ lexeme.spelling, by rwa [← List.append_assoc]⟩
  | ended later hphase => exact ⟨[], by rwa [List.append_nil]⟩
  | finished passed after later hpassed hphase hread => exact ⟨passed, hread⟩
  | failed passed failure after later hpassed hphase hread hline => exact ⟨passed, hread⟩
  | broken passed after later hlength hread => exact ⟨passed, hread⟩

/-- Sequences of requests keep the invariant. -/
theorem requests (h : scanner.HasRead source settings before) (journal : Journal) (count : Nat) :
    ∃ piece, (scanner.requests journal count).scanner.HasRead source settings (before ++ piece) := by
  induction count generalizing scanner before journal with
  | zero => exact ⟨[], by rwa [List.append_nil]⟩
  | succ count ih =>
    obtain ⟨piece, hread⟩ := h.next journal
    obtain ⟨more, hmore⟩ := ih hread (scanner.next journal).journal
    exact ⟨piece ++ more, by rwa [requests_succ_scanner, ← List.append_assoc]⟩

/-- Draining keeps the invariant. -/
lemma drained (h : scanner.HasRead source settings before) (journal : Journal) :
    ∃ piece, (scanner.drain journal).scanner.HasRead source settings (before ++ piece) := by
  obtain ⟨count, -, hscanner, -⟩ := scanner.exists_requests_eq_drain journal
  rw [← hscanner]
  exact h.requests journal count

end HasRead

/-! ## After the end -/

lemma next_of_phase_ne {scanner : Scanner} (hphase : scanner.phase ≠ .scanning)
    (journal : Journal) : scanner.next journal = ⟨.stop .complete, scanner, journal⟩ := by
  refine next_of_step_stop ?_
  unfold step
  split
  · exact absurd ‹_› hphase
  · exact absurd ‹_› hphase
  · rfl

/-- A scan that is over stays as it is. -/
theorem requests_of_phase_ne {scanner : Scanner} (hphase : scanner.phase ≠ .scanning)
    (journal : Journal) (count : Nat) :
    scanner.requests journal count =
      ⟨List.replicate count (.stop .complete), scanner, journal⟩ := by
  induction count with
  | zero => rfl
  | succ count ih =>
    unfold requests
    rw [next_of_phase_ne hphase]
    dsimp only
    rw [ih]
    rfl

end Scanner

end GrammarScan
