import GrammarScan.Proofs.Grammar.Readings

/-!
# Seams

A text that is written behind another one meets it at a seam.  The lexeme in front of the seam can run
on into the second text, and then the reading of the two together is not that of one followed by that of
the other.  It is the same all the same when only lexemes that are not trivia are looked at.

`ReadsInFull.exists_append` is about a text that was read to its end: behind it, the second text is
read as it is on its own.  `Reads.exists_extension` is about any text: what was read of it is read
again, whatever comes behind it.  In both, the one exception that concerns more than trivia is a
parenthesis that is met by an asterisk.
-/

namespace GrammarScan

open Lexeme (spellings significantBehind)

variable {text more rest left run further : List Char} {lexemes others : List Lexeme}

/-- Whitespace in front of a seam and whitespace behind it make up one run. -/
lemma Reads.append_whitespace (h : Reads text (lexemes ++ [.whitespace run]) [])
    (hfurther : (Lexeme.whitespace further).IsProper)
    (hends : (Lexeme.whitespace further).EndsBefore left) :
    Reads (text ++ (further ++ left)) (lexemes ++ [.whitespace (run ++ further)]) left := by
  obtain ⟨hreads, ⟨hne, hrun⟩, -⟩ := h.of_concat
  rw [List.append_nil] at hreads
  have hproper : (Lexeme.whitespace (run ++ further)).IsProper := by
    refine ⟨List.append_ne_nil_of_left_ne_nil hne further, ?_⟩
    intro c hc
    rcases List.mem_append.1 hc with hfirst | hsecond
    · exact hrun c hfirst
    · exact hfurther.2 c hsecond
  have hmerged : Reads (run ++ further ++ left) [.whitespace (run ++ further)] left :=
    .read hproper hends (.none left)
  rw [List.append_assoc] at hmerged
  exact (hreads.append_of_ne_nil hne (further ++ left)).trans hmerged

/-- Where whitespace meets whitespace, the two runs are one lexeme, and nothing else changes. -/
lemma ReadsInFull.exists_append_whitespace (h : ReadsInFull text (lexemes ++ [.whitespace run]) [])
    (hmore : ReadsInFull more others rest)
    (hopen : ¬ (Lexeme.whitespace run).EndsBefore more) :
    ∃ joined, ReadsInFull (text ++ more) joined rest ∧
      significantBehind [] joined =
        significantBehind [] (lexemes ++ [.whitespace run]) ++ significantBehind text others := by
  have htrivia : ∀ run, (Lexeme.whitespace run).kind.isTrivia = true := fun _ => rfl
  have hspace : ∃ c ∈ more.head?, c.isWhitespace = true := by
    simpa [Lexeme.EndsBefore] using hopen
  obtain ⟨c, hc, hspace⟩ := hspace
  obtain ⟨later, rfl⟩ := List.head?_eq_some_iff.1 hc
  obtain ⟨further, hfront⟩ := Lexeme.exists_whitespace_isAtFrontOf hspace later
  obtain ⟨beyond, left, rfl, hpieces, hleft⟩ := hmore.exists_cons hfront
  obtain ⟨hproper, left', hpieces', hends⟩ := hfront
  obtain rfl := List.append_cancel_left (hpieces.symm.trans hpieces')
  refine ⟨lexemes ++ [.whitespace (run ++ further)] ++ beyond, ?_, ?_⟩
  · rw [hpieces]
    exact (h.reads.append_whitespace hproper hends).readsInFull hleft
  · have htext : text ++ further = [] ++ spellings (lexemes ++ [.whitespace (run ++ further)]) := by
      rw [h.reads.text_eq]
      simp [spellings, Lexeme.spelling]
    rw [Lexeme.significantBehind_append, ← htext,
      Lexeme.significantBehind_concat_of_isTrivia (htrivia _),
      Lexeme.significantBehind_concat_of_isTrivia (htrivia _),
      Lexeme.significantBehind_cons_of_isTrivia (htrivia _)]
    rfl

/-- A line comment that no line feed closes does not end with one. -/
lemma ReadsInFull.getLast?_ne_of_lineComment {body : List Char}
    (h : ReadsInFull text (lexemes ++ [.lineComment body false]) []) :
    text.getLast? ≠ some '\n' := by
  obtain ⟨hreads, hproper, -⟩ := h.reads.of_concat
  have hspelling : (Lexeme.lineComment body false).spelling = '/' :: '/' :: body :=
    List.append_nil _
  rw [hreads.text_eq, hspelling, List.append_nil]
  intro hlast
  rw [List.getLast?_append_of_ne_nil _ (List.cons_ne_nil _ _)] at hlast
  have hmem : '\n' ∈ '/' :: '/' :: body := List.mem_of_getLast? hlast
  have hfeed : '\n' ∈ body := by simpa using hmem
  exact hproper hfeed

/-- Behind a text that was read to its end, another text is read as it is on its own, apart from
trivia, unless it runs into a line comment or turns a parenthesis into something else. -/
theorem ReadsInFull.exists_append (h : ReadsInFull text lexemes [])
    (hmore : ReadsInFull more others rest)
    (hclosed : lexemes.getLast?.map Lexeme.kind = some .lineComment → text.getLast? = some '\n')
    (hstar : lexemes.getLast?.map Lexeme.kind = some (.symbol (.opening .grouping)) →
      more.head? ≠ some '*') :
    ∃ joined, ReadsInFull (text ++ more) joined rest ∧
      significantBehind [] joined = significantBehind [] lexemes ++ significantBehind text others := by
  by_cases hends : ∀ last ∈ lexemes.getLast?, last.EndsBefore more
  · refine ⟨lexemes ++ others, (h.reads.append hends).readsInFull hmore, ?_⟩
    rw [Lexeme.significantBehind_append, h.reads.text_eq, List.append_nil, List.nil_append]
  · push Not at hends
    obtain ⟨last, hlast, hopen⟩ := hends
    obtain ⟨init, rfl⟩ := List.getLast?_eq_some_iff.1 hlast
    have hkind : (init ++ [last]).getLast?.map Lexeme.kind = some last.kind :=
      congrArg (Option.map Lexeme.kind) hlast
    rw [hkind] at hclosed hstar
    have hends := Lexeme.endsBefore_or_runsOn fun hlastKind => hstar (congrArg some hlastKind)
    rcases hends.resolve_left hopen with ⟨run, rfl⟩ | ⟨body, rfl⟩
    · exact h.exists_append_whitespace hmore hopen
    · exact absurd (hclosed rfl) h.getLast?_ne_of_lineComment

/-- What was read of a text is read again when text is added behind it, apart from trivia. -/
theorem Reads.exists_extension (h : Reads text lexemes rest) (more : List Char)
    (hstar : rest = [] → lexemes.getLast?.map Lexeme.kind = some (.symbol (.opening .grouping)) →
      more.head? ≠ some '*') :
    ∃ extended left, ReadsInFull (text ++ more) extended left ∧
      significantBehind [] lexemes <+: significantBehind [] extended := by
  by_cases hends : ∀ last ∈ lexemes.getLast?, last.EndsBefore (rest ++ more)
  · obtain ⟨others, left, hothers⟩ := exists_readsInFull (rest ++ more)
    refine ⟨lexemes ++ others, left, (h.append hends).readsInFull hothers, ?_⟩
    rw [Lexeme.significantBehind_append]
    exact List.prefix_append _ _
  · -- the last lexeme is trivia that runs on, and what comes in front of it stays
    push Not at hends
    obtain ⟨last, hlast, hopen⟩ := hends
    obtain ⟨init, rfl⟩ := List.getLast?_eq_some_iff.1 hlast
    obtain ⟨hreads, hproper, hcut⟩ := h.of_concat
    have hrest : rest = [] := by
      by_contra hne
      exact hopen (hcut.append hne more)
    subst hrest
    have htrivia : last.kind.isTrivia = true := by
      have hends := Lexeme.endsBefore_or_runsOn fun hlastKind =>
        hstar rfl (by rw [hlast, Option.map_some, hlastKind])
      rcases hends.resolve_left hopen with ⟨run, rfl⟩ | ⟨body, rfl⟩
      · rfl
      · rfl
    have hne := (Lexeme.isAtFrontOf_append hproper hcut).spelling_ne_nil
    rw [List.append_nil] at hreads
    obtain ⟨others, left, hothers⟩ := exists_readsInFull (last.spelling ++ more)
    refine ⟨init ++ others, left, (hreads.append_of_ne_nil hne more).readsInFull hothers, ?_⟩
    rw [Lexeme.significantBehind_concat_of_isTrivia htrivia, Lexeme.significantBehind_append]
    exact List.prefix_append _ _

end GrammarScan
