import GrammarScan.Proofs.Grammar.Sequences

/-!
# Readings of a text

Reading a text from the left shows one lexeme after the other and leaves a rest.  `Reads` says this of
some of the lexemes, and `ReadsInFull` of all of them: no lexeme stands at the front of the rest.  Every
text has a reading in full (`exists_readsInFull`).

What is written behind a text matters to its last lexeme alone, and only if nothing is left behind that
lexeme: this is `Reads.append`.  A lexeme together with the text in front of it is a `PlacedLexeme`; this
is all that its token and its diagnostics depend on.
-/

namespace GrammarScan

open Lexeme (spellings)

/-! ## Where a lexeme ends -/

namespace Lexeme

variable {lexeme : Lexeme} {rest : List Char}

lemma isAtFrontOf_append (hproper : lexeme.IsProper) (hends : lexeme.EndsBefore rest) :
    lexeme.IsAtFrontOf (lexeme.spelling ++ rest) :=
  ⟨hproper, rest, rfl, hends⟩

lemma not_isAtFrontOf_nil (lexeme : Lexeme) : ¬ lexeme.IsAtFrontOf [] := by
  intro hfront
  have hne := hfront.spelling_ne_nil
  obtain ⟨-, rest, hnil, -⟩ := hfront
  exact hne (List.append_eq_nil_iff.1 hnil.symm).1

/-- Where a lexeme ends is decided by the next character, if there is one. -/
lemma EndsBefore.append (h : lexeme.EndsBefore rest) (hne : rest ≠ []) (more : List Char) :
    lexeme.EndsBefore (rest ++ more) := by
  obtain ⟨c, later, rfl⟩ := List.exists_cons_of_ne_nil hne
  cases lexeme with
  | whitespace run => exact h
  | lineComment body closed =>
    cases closed with
    | true => trivial
    | false => exact absurd h hne
  | symbol symbol =>
    cases symbol with
    | opening bracket =>
      cases bracket with
      | grouping => exact h
      | optional => trivial
      | repetition => trivial
    | _ => trivial
  | _ => trivial

/-- A lexeme that cannot end before a text is whitespace, an open line comment, or a parenthesis that
is met by an asterisk. -/
lemma endsBefore_or_runsOn
    (hstar : lexeme.kind = .symbol (.opening .grouping) → rest.head? ≠ some '*') :
    lexeme.EndsBefore rest ∨ (∃ run, lexeme = .whitespace run) ∨
      ∃ body, lexeme = .lineComment body false := by
  cases lexeme with
  | whitespace run => exact .inr (.inl ⟨run, rfl⟩)
  | lineComment body closed =>
    cases closed with
    | true => exact .inl trivial
    | false => exact .inr (.inr ⟨body, rfl⟩)
  | symbol symbol =>
    refine .inl ?_
    cases symbol with
    | opening bracket =>
      cases bracket with
      | grouping => exact hstar rfl
      | optional => trivial
      | repetition => trivial
    | _ => trivial
  | _ => exact .inl trivial

/-- A text that starts with whitespace starts with a run of it. -/
lemma exists_whitespace_isAtFrontOf {c : Char} (hspace : c.isWhitespace = true) (later : List Char) :
    ∃ run, (whitespace run).IsAtFrontOf (c :: later) := by
  have hread : Construct.whitespace.read? (c :: later) =
      some (.whitespace (c :: later.takeWhile Char.isWhitespace)) := by
    simp only [Construct.read?, readWhitespace?, List.takeWhile_cons, hspace, if_true]
  exact ⟨_, (Construct.read?_eq_some_iff.1 hread).2⟩

end Lexeme

/-! ## Readings -/

/-- Read from the left, a text shows some lexemes and leaves a rest. -/
inductive Reads : List Char → List Lexeme → List Char → Prop
  | none (text : List Char) : Reads text [] text
  | read {lexeme : Lexeme} {lexemes : List Lexeme} {text rest : List Char}
      (hproper : lexeme.IsProper) (hends : lexeme.EndsBefore text) (h : Reads text lexemes rest) :
      Reads (lexeme.spelling ++ text) (lexeme :: lexemes) rest

/-- Read from the left, a text shows some lexemes and leaves a rest that starts with none. -/
structure ReadsInFull (text : List Char) (lexemes : List Lexeme) (rest : List Char) : Prop where
  reads : Reads text lexemes rest
  not_isAtFrontOf : ∀ lexeme : Lexeme, ¬ lexeme.IsAtFrontOf rest

namespace Reads

variable {text middle rest : List Char} {lexeme last : Lexeme} {lexemes others : List Lexeme}

/-- A text is what it is read as, and the rest. -/
lemma text_eq (h : Reads text lexemes rest) : text = spellings lexemes ++ rest := by
  induction h with
  | none text => rfl
  | @read lexeme lexemes text rest hproper hends h ih =>
    calc lexeme.spelling ++ text
        = lexeme.spelling ++ (spellings lexemes ++ rest) := by rw [← ih]
      _ = spellings (lexeme :: lexemes) ++ rest := (List.append_assoc _ _ _).symm

/-- What is read of a text and of its end, with the same rest, tells what is in front of that end. -/
lemma spellings_eq {before : List Char} (h : Reads (before ++ text) lexemes rest)
    (hend : Reads text others rest) : spellings lexemes = before ++ spellings others := by
  have hpieces := h.text_eq
  rw [hend.text_eq, ← List.append_assoc] at hpieces
  exact (List.append_cancel_right hpieces).symm

lemma trans (h : Reads text lexemes middle) (hlater : Reads middle others rest) :
    Reads text (lexemes ++ others) rest := by
  induction h with
  | none text => exact hlater
  | read hproper hends h ih => exact .read hproper hends (ih hlater)

/-- Reading stops just as well in front of the last lexeme. -/
lemma of_concat (h : Reads text (lexemes ++ [last]) rest) :
    Reads text lexemes (last.spelling ++ rest) ∧ last.IsProper ∧ last.EndsBefore rest := by
  induction lexemes generalizing text with
  | nil =>
    cases h with
    | read hproper hends h =>
      cases h with
      | none => exact ⟨.none _, hproper, hends⟩
  | cons lexeme lexemes ih =>
    cases h with
    | read hproper hends h =>
      obtain ⟨hfirst, hlast⟩ := ih h
      exact ⟨.read hproper hends hfirst, hlast⟩

lemma text_ne_nil (h : Reads text (lexeme :: lexemes) rest) : text ≠ [] := by
  cases h with
  | read hproper hends h =>
    have hne := (Lexeme.isAtFrontOf_append hproper hends).spelling_ne_nil
    simp [hne]

/-- Text that is added behind a reading makes no difference to it if the last lexeme can end there. -/
theorem append {more : List Char} (h : Reads text lexemes rest)
    (hends : ∀ last ∈ lexemes.getLast?, last.EndsBefore (rest ++ more)) :
    Reads (text ++ more) lexemes (rest ++ more) := by
  induction h with
  | none text => exact .none _
  | @read lexeme lexemes text rest hproper hlexeme h ih =>
    rw [List.append_assoc]
    cases lexemes with
    | nil =>
      cases h with
      | none => exact .read hproper (hends lexeme rfl) (.none _)
    | cons next lexemes =>
      refine .read hproper (hlexeme.append h.text_ne_nil more) (ih ?_)
      intro last hlast
      rw [List.getLast?_cons_cons] at hends
      exact hends last hlast

/-- If something is left, text that is added makes no difference. -/
theorem append_of_ne_nil (h : Reads text lexemes rest) (hne : rest ≠ []) (more : List Char) :
    Reads (text ++ more) lexemes (rest ++ more) := by
  refine h.append ?_
  intro last hlast
  obtain ⟨init, rfl⟩ := List.getLast?_eq_some_iff.1 hlast
  obtain ⟨-, -, hends⟩ := h.of_concat
  exact hends.append hne more

lemma length_le (h : Reads text lexemes rest) : lexemes.length ≤ text.length := by
  induction h with
  | none text => exact Nat.zero_le _
  | @read lexeme lexemes text rest hproper hends h ih =>
    have hne := (Lexeme.isAtFrontOf_append hproper hends).spelling_ne_nil
    have hpos := List.length_pos_iff.2 hne
    rw [List.length_cons, List.length_append]
    omega

lemma readsInFull (h : Reads text lexemes middle) (hlater : ReadsInFull middle others rest) :
    ReadsInFull text (lexemes ++ others) rest :=
  ⟨h.trans hlater.reads, hlater.not_isAtFrontOf⟩

end Reads

/-- Every text can be read in full. -/
theorem exists_readsInFull (text : List Char) : ∃ lexemes rest, ReadsInFull text lexemes rest := by
  by_cases hfront : ∃ lexeme : Lexeme, lexeme.IsAtFrontOf text
  · obtain ⟨lexeme, hlexeme⟩ := hfront
    have hne := hlexeme.spelling_ne_nil
    obtain ⟨hproper, left, rfl, hends⟩ := hlexeme
    obtain ⟨lexemes, rest, hreads⟩ := exists_readsInFull left
    exact ⟨lexeme :: lexemes, rest, .read hproper hends hreads.reads, hreads.not_isAtFrontOf⟩
  · exact ⟨[], text, .none text, not_exists.1 hfront⟩
termination_by text.length
decreasing_by
  have hpos := List.length_pos_iff.2 hne
  subst_vars
  rw [List.length_append]
  omega

/-- Proper lexemes that keep apart are read one after the other. -/
theorem readsInFull_spellings {lexemes : List Lexeme}
    (hproper : ∀ lexeme ∈ lexemes, lexeme.IsProper)
    (hchain : lexemes.IsChain Lexeme.CanPrecede) :
    ReadsInFull (spellings lexemes) lexemes [] := by
  induction lexemes with
  | nil => exact ⟨.none [], Lexeme.not_isAtFrontOf_nil⟩
  | cons lexeme lexemes ih =>
    obtain ⟨hfirst, hothers⟩ := List.forall_mem_cons.1 hproper
    obtain ⟨-, left, hleft, hends⟩ := Lexeme.isAtFrontOf_spellings hproper hchain
    obtain rfl : spellings lexemes = left := List.append_cancel_left hleft
    have hlater := ih hothers hchain.of_cons
    exact ⟨.read hfirst hends hlater.reads, hlater.not_isAtFrontOf⟩

/-- A reading in full shows the lexeme at the front first. -/
lemma ReadsInFull.exists_cons {text rest : List Char} {lexeme : Lexeme} {lexemes : List Lexeme}
    (h : ReadsInFull text lexemes rest) (hfront : lexeme.IsAtFrontOf text) :
    ∃ others left, lexemes = lexeme :: others ∧ text = lexeme.spelling ++ left ∧
      ReadsInFull left others rest := by
  obtain ⟨hreads, hnone⟩ := h
  cases hreads with
  | none => exact absurd hfront (hnone lexeme)
  | @read first others left _ hproper hends hlater =>
    obtain rfl : first = lexeme :=
      (Lexeme.isAtFrontOf_append hproper hends).unique hfront
    exact ⟨others, left, rfl, rfl, hlater, hnone⟩

/-- A text has one reading in full. -/
theorem ReadsInFull.unique {text rest left : List Char} {lexemes others : List Lexeme}
    (h : ReadsInFull text lexemes rest) (hother : ReadsInFull text others left) :
    lexemes = others ∧ rest = left := by
  obtain ⟨hreads, hnone⟩ := h
  induction hreads generalizing others with
  | none text =>
    obtain ⟨hothers, -⟩ := hother
    cases hothers with
    | none => exact ⟨rfl, rfl⟩
    | read hproper hends _ => exact absurd (Lexeme.isAtFrontOf_append hproper hends) (hnone _)
  | read hproper hends hlater ih =>
    obtain ⟨laterOthers, laterText, rfl, htext, hother⟩ :=
      hother.exists_cons (Lexeme.isAtFrontOf_append hproper hends)
    obtain rfl := List.append_cancel_left htext
    obtain ⟨rfl, rfl⟩ := ih hother hnone
    exact ⟨rfl, rfl⟩

/-! ## Lexemes in their places -/

/-- A lexeme with the text in front of it. -/
structure PlacedLexeme where
  before : List Char
  lexeme : Lexeme

namespace PlacedLexeme

/-- Whether a lexeme is more than trivia. -/
def isSignificant (placed : PlacedLexeme) : Bool :=
  !placed.lexeme.kind.isTrivia

/-- The lexeme with more text in front of it. -/
def behind (text : List Char) (placed : PlacedLexeme) : PlacedLexeme :=
  { placed with before := text ++ placed.before }

end PlacedLexeme

namespace Lexeme

/-- The lexemes of a sequence in their places, the first of them behind the text `before`. -/
def placedBehind (before : List Char) : List Lexeme → List PlacedLexeme
  | [] => []
  | lexeme :: lexemes => ⟨before, lexeme⟩ :: placedBehind (before ++ lexeme.spelling) lexemes

/-- The lexemes of a sequence that are not trivia, in their places. -/
def significantBehind (before : List Char) (lexemes : List Lexeme) : List PlacedLexeme :=
  (placedBehind before lexemes).filter (·.isSignificant)

lemma map_lexeme_placedBehind (before : List Char) (lexemes : List Lexeme) :
    (placedBehind before lexemes).map PlacedLexeme.lexeme = lexemes := by
  induction lexemes generalizing before with
  | nil => rfl
  | cons lexeme lexemes ih => rw [placedBehind, List.map_cons, ih]

lemma placedBehind_append (before : List Char) (lexemes others : List Lexeme) :
    placedBehind before (lexemes ++ others) =
      placedBehind before lexemes ++ placedBehind (before ++ spellings lexemes) others := by
  induction lexemes generalizing before with
  | nil => simp [placedBehind, spellings]
  | cons lexeme lexemes ih =>
    have hspellings : before ++ spellings (lexeme :: lexemes) =
        before ++ lexeme.spelling ++ spellings lexemes := (List.append_assoc _ _ _).symm
    rw [hspellings, List.cons_append, placedBehind, ih, placedBehind, List.cons_append]

lemma placedBehind_behind (text before : List Char) (lexemes : List Lexeme) :
    placedBehind (text ++ before) lexemes =
      (placedBehind before lexemes).map (PlacedLexeme.behind text) := by
  induction lexemes generalizing before with
  | nil => rfl
  | cons lexeme lexemes ih =>
    rw [placedBehind, List.append_assoc, ih, placedBehind, List.map_cons]
    rfl

lemma significantBehind_append (before : List Char) (lexemes others : List Lexeme) :
    significantBehind before (lexemes ++ others) =
      significantBehind before lexemes ++
        significantBehind (before ++ spellings lexemes) others := by
  simp only [significantBehind, placedBehind_append, List.filter_append]

lemma significantBehind_behind (text : List Char) (lexemes : List Lexeme) :
    significantBehind text lexemes =
      (significantBehind [] lexemes).map (PlacedLexeme.behind text) := by
  have hplaced := placedBehind_behind text [] lexemes
  rw [List.append_nil] at hplaced
  rw [significantBehind, hplaced, List.filter_map, significantBehind]
  rfl

lemma significantBehind_cons_of_isTrivia {lexeme : Lexeme} (h : lexeme.kind.isTrivia = true)
    (before : List Char) (lexemes : List Lexeme) :
    significantBehind before (lexeme :: lexemes) =
      significantBehind (before ++ lexeme.spelling) lexemes := by
  have hdrop : ¬ (PlacedLexeme.mk before lexeme).isSignificant = true := by
    simp [PlacedLexeme.isSignificant, h]
  rw [significantBehind, placedBehind, List.filter_cons_of_neg hdrop]
  rfl

lemma significantBehind_concat_of_isTrivia {last : Lexeme} (h : last.kind.isTrivia = true)
    (before : List Char) (lexemes : List Lexeme) :
    significantBehind before (lexemes ++ [last]) = significantBehind before lexemes := by
  have hlast : ∀ before, significantBehind before [last] = [] :=
    fun before => significantBehind_cons_of_isTrivia h before []
  rw [significantBehind_append, hlast, List.append_nil]

lemma significantBehind_concat_of_not_isTrivia {last : Lexeme} (h : last.kind.isTrivia = false)
    (before : List Char) (lexemes : List Lexeme) :
    significantBehind before (lexemes ++ [last]) =
      significantBehind before lexemes ++ [⟨before ++ spellings lexemes, last⟩] := by
  have hkeep : ∀ before, (PlacedLexeme.mk before last).isSignificant = true := by
    simp [PlacedLexeme.isSignificant, h]
  have hlast : ∀ before, significantBehind before [last] = [⟨before, last⟩] :=
    fun before => List.filter_cons_of_pos (hkeep before)
  rw [significantBehind_append, hlast]

end Lexeme

end GrammarScan
