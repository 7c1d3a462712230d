import GrammarScan.Proofs.Scanner.Invariant
import GrammarScan.Proofs.Text.Tiling

/-!
# A scan leaves nothing out

With trivia kept, every character that a scanner reads belongs to a token: after any number of
requests, the spans of the tokens tile the text up to the offset of the scanner
(`requests_tile_source`).  A scan that is not stopped by a failure reads its text to the end, and
one that is stops for good in front of what cannot be read.

The one condition is that the text has fewer than `maxIndex` bytes, as every text in memory has: a
longer one could hold more tokens than can be counted.
-/

namespace GrammarScan

/-- A text goes on at an offset, and not with anything that a construct reads. -/
def Text.IsUnreadableAt (text : List Char) (offset : Nat) : Prop :=
  ∃ before rest, text = before ++ rest ∧ byteLength before = offset ∧ rest ≠ [] ∧
    ∀ construct : Construct, construct.read? rest = none

namespace Scanner

lemma requests_tokens_succ_of_token {scanner : Scanner} {journal : Journal} {token : Token}
    (h : (scanner.next journal).result = .token token) (count : Nat) :
    (scanner.requests journal (count + 1)).result.filterMap Answer.token? =
      token :: ((scanner.next journal).scanner.requests (scanner.next journal).journal
        count).result.filterMap Answer.token? := by
  rw [requests_succ_result, h, List.filterMap_cons_some]
  rfl

lemma requests_tokens_succ_of_stop {scanner : Scanner} {journal : Journal} {ending : Ending}
    (h : (scanner.next journal).result = .stop ending) (count : Nat) :
    (scanner.requests journal (count + 1)).result.filterMap Answer.token? =
      ((scanner.next journal).scanner.requests (scanner.next journal).journal
        count).result.filterMap Answer.token? := by
  rw [requests_succ_result, h, List.filterMap_cons_none]
  rfl

namespace HasRead

variable {scanner : Scanner} {source : Source} {settings : Settings} {before : List Char}

/-- A request that passes nothing over yields the piece of text in front of the scanner, or leaves
the scanner where it is. -/
lemma next_piece (h : scanner.HasRead source settings before) (hkeep : settings.keepTrivia = true)
    (hlength : source.length < maxIndex) (journal : Journal) :
    (∃ token piece, (scanner.next journal).result = .token token ∧ piece ≠ [] ∧
      token.span = ⟨Text.byteLength before, Text.byteLength before + Text.byteLength piece⟩ ∧
      (scanner.next journal).scanner.HasRead source settings (before ++ piece)) ∨
    ∃ ending, (scanner.next journal).result = .stop ending ∧
      (scanner.next journal).scanner.HasRead source settings before := by
  have hanswers := h.next_answersInFull hkeep hlength journal
  generalize scanner.next journal = progress at hanswers ⊢
  cases hanswers with
  | token lexeme after later hfront hphase hread =>
    refine .inl ⟨_, lexeme.spelling, rfl, hfront.spelling_ne_nil, ?_, hread⟩
    rw [← h.standsBehind.offset_eq]
    rfl
  | ended later hphase => exact .inr ⟨_, rfl, h⟩
  | finished after later hrest hphase hread => exact .inr ⟨_, rfl, hread⟩
  | failed failure after later hnone hphase hread => exact .inr ⟨_, rfl, hread⟩

/-- The tokens of a sequence of requests are those of consecutive pieces of the text. -/
lemma requests_pieces (h : scanner.HasRead source settings before)
    (hkeep : settings.keepTrivia = true) (hlength : source.length < maxIndex) (journal : Journal)
    (count : Nat) :
    ∃ pieces, (∀ piece ∈ pieces, piece ≠ []) ∧
      ((scanner.requests journal count).result.filterMap Answer.token?).map Token.span =
        Text.spansFrom (Text.byteLength before) pieces ∧
      (scanner.requests journal count).scanner.HasRead source settings
        (before ++ pieces.flatten) := by
  induction count generalizing scanner before journal with
  | zero =>
    refine ⟨[], by simp, rfl, ?_⟩
    rw [List.flatten_nil, List.append_nil]
    exact h
  | succ count ih =>
    rcases h.next_piece hkeep hlength journal with
      ⟨token, piece, htoken, hne, hspan, hread⟩ | ⟨ending, hstop, hread⟩
    · obtain ⟨pieces, hpieces, hspans, hlast⟩ := ih hread (scanner.next journal).journal
      refine ⟨piece :: pieces, List.forall_mem_cons.2 ⟨hne, hpieces⟩, ?_, ?_⟩
      · rw [requests_tokens_succ_of_token htoken, List.map_cons, hspans, hspan,
          Text.byteLength_append]
        rfl
      · rw [requests_succ_scanner, List.flatten_cons, ← List.append_assoc]
        exact hlast
    · obtain ⟨pieces, hpieces, hspans, hlast⟩ := ih hread (scanner.next journal).journal
      refine ⟨pieces, hpieces, ?_, ?_⟩
      · rw [requests_tokens_succ_of_stop hstop, hspans]
      · rw [requests_succ_scanner]
        exact hlast

/-- A scan that is not over yet ends at the end of its text or with a failure. -/
lemma drain_ends (h : scanner.HasRead source settings before) (hphase : scanner.phase = .scanning)
    (hlength : source.length < maxIndex) (journal : Journal) :
    ((scanner.drain journal).result.ending = .complete ∧
      (scanner.drain journal).scanner.phase = .finished) ∨
    ∃ failure, (scanner.drain journal).result.ending = .failed failure ∧
      (scanner.drain journal).scanner.phase = .failed := by
  fun_induction drain scanner journal generalizing before with
  | case1 scanner journal ending after later hnext =>
    have hanswers := h.next_answers journal
    rw [hnext] at hanswers
    cases hanswers with
    | ended _ hover => exact absurd hphase hover
    | finished passed _ _ hpassed hfinished hread => exact .inl ⟨rfl, hfinished⟩
    | failed passed failure _ _ hpassed hfailed hread hline => exact .inr ⟨failure, rfl, hfailed⟩
    | broken passed _ _ hlong hread => exact absurd hlong (not_le.2 hlength)
  | case2 scanner journal token after later hnext drained =>
    rename_i ih
    have hanswers := h.next_answers journal
    rw [hnext] at hanswers
    cases hanswers with
    | token passed cursor lexeme _ _ hpassed hstands hsource hfront hscanning hread =>
      exact ih hread hscanning

lemma offset_of_finished (h : scanner.HasRead source settings before)
    (hphase : scanner.phase = .finished) : scanner.cursor.offset = source.length := by
  have hrest : scanner.cursor.rest = [] := h.rest_of_finished hphase
  have hsum := h.standsBehind.offset_add_byteLength_rest
  rw [hrest, h.source_eq] at hsum
  exact hsum

lemma offset_of_failed (h : scanner.HasRead source settings before)
    (hphase : scanner.phase = .failed) :
    scanner.cursor.offset < source.length ∧
      Text.IsUnreadableAt source.text.toList scanner.cursor.offset := by
  obtain ⟨hrest, hnone⟩ := h.rest_of_failed hphase
  have hpos : 0 < scanner.cursor.rest.length := List.length_pos_iff.2 hrest
  have hbytes := Text.length_le_byteLength scanner.cursor.rest
  have hsum := h.standsBehind.offset_add_byteLength_rest
  rw [h.source_eq] at hsum
  constructor
  · omega
  · exact ⟨before, scanner.cursor.rest, h.text_eq, h.standsBehind.offset_eq.symm, hrest,
      Construct.read?_of_forall_not hnone⟩

end HasRead

end Scanner

/-- With trivia kept, the spans of the tokens tile the text up to the offset of the scanner, after
every number of requests and so at the end of the scan.  The end is that of the text, unless a
failure stops the scan: then it is short of that of the text, no construct reads what is there, and
the scanner stays there whatever is asked of it. -/
theorem requests_tile_source (source : Source) (hlength : source.length < maxIndex)
    (settings : Settings) (journal : Journal) :
    let begun := Scanner.start source (settings.withTrivia true) journal
    let text := source.text.toList
    let done := begun.1.drain begun.2
    let offset := done.scanner.cursor.offset
    (∀ count,
      let run := begun.1.requests begun.2 count
      Text.Tiles text ((run.result.filterMap Answer.token?).map Token.span)
        run.scanner.cursor.offset) ∧
    Text.Tiles text (done.result.tokens.map Token.span) offset ∧
    ((done.result.ending = .complete ∧ offset = source.length) ∨
      ∃ failure, done.result.ending = .failed failure ∧ offset < source.length ∧
        Text.IsUnreadableAt text offset ∧
        ∀ count, (done.scanner.requests done.journal count).scanner = done.scanner) := by
  intro begun text done offset
  have hstart : begun.1.HasRead source (settings.withTrivia true) [] :=
    Scanner.hasRead_start source (settings.withTrivia true) journal
  have htiles : ∀ count, Text.Tiles text
      (((begun.1.requests begun.2 count).result.filterMap Answer.token?).map Token.span)
      (begun.1.requests begun.2 count).scanner.cursor.offset := by
    intro count
    obtain ⟨pieces, hpieces, hspans, hread⟩ := hstart.requests_pieces rfl hlength begun.2 count
    have htext := hread.text_eq
    rw [List.nil_append] at htext hread
    rw [hspans, hread.standsBehind.offset_eq]
    show Text.Tiles source.text.toList _ _
    rw [htext]
    exact Text.tiles_spansFrom hpieces _
  obtain ⟨count, hresult, hscanner, -⟩ := begun.1.exists_requests_eq_drain begun.2
  obtain ⟨read, hread⟩ := hstart.requests begun.2 count
  rw [hscanner] at hread
  refine ⟨htiles, ?_, ?_⟩
  · have htokens := htiles count
    rw [hresult, hscanner, Answer.filterMap_token?] at htokens
    exact htokens
  · rcases hstart.drain_ends rfl hlength begun.2 with ⟨hending, hphase⟩ | ⟨failure, hending, hphase⟩
    · exact .inl ⟨hending, hread.offset_of_finished hphase⟩
    · obtain ⟨hshort, hunreadable⟩ := hread.offset_of_failed hphase
      refine .inr ⟨failure, hending, hshort, hunreadable, ?_⟩
      intro later
      have hover : done.scanner.phase ≠ .scanning := by
        rw [hphase]
        decide
      rw [Scanner.requests_of_phase_ne hover]

/-- A text with a character of two bytes, trivia, and a symbol that nothing starts with. -/
theorem requests_tile_unknown_symbol :
    let source : Source := ⟨⟨"unknown.ebnf"⟩, "<é> $"⟩
    let begun := Scanner.start source (Settings.standard.withTrivia true) Journal.empty
    source.length < maxIndex ∧
      ∀ count,
        let run := begun.1.requests begun.2 count
        Text.Tiles source.text.toList ((run.result.filterMap Answer.token?).map Token.span)
          run.scanner.cursor.offset := by
  intro source begun
  have hlength : source.length < maxIndex := by decide
  have hcovers := requests_tile_source source hlength Settings.standard Journal.empty
  exact ⟨hlength, hcovers.1⟩

end GrammarScan
