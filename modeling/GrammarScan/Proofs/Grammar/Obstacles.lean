import GrammarScan.Proofs.Construct.Candidates
import GrammarScan.Proofs.Grammar.Escapes
import Mathlib.Tactic.ByContra

/-!
# Where no lexeme can be read

Where no lexeme stands at the front of a text, either its first character starts none, or one of six
things has gone wrong: these are the obstacles.  `Obstacle.Blocks` says what each of them looks like,
without a word on how lexemes are searched for.

`exists_blocks_iff` is the main statement: behind a character that starts a construct, an obstacle is
there exactly if no lexeme is.  Two obstacles are never there at once (`Obstacle.Blocks.unique`).
-/

namespace GrammarScan

open Lexeme (ClosesAt QuotedBody IsAtFrontOf)

/-- The characters that a lexeme can start with. -/
def lexemeStarters : List Char :=
  [' ', '\t', '\n', '\r', '/', '<', '"', '(', ')', '[', ']', '{', '}', ':', ';', '|']

/-- What can keep a text from starting with a lexeme although its first character starts one. -/
inductive Obstacle where
  /-- A slash that begins no comment. -/
  | loneSlash
  /-- A comment without its closing delimiter. -/
  | openComment
  /-- An angle bracket that nothing follows, or a digit, or no closing bracket. -/
  | noName
  /-- A quoted text that its line, its last backslash or the input ends. -/
  | openText
  /-- An opening parenthesis with an asterisk behind it. -/
  | starredGroup
  /-- A colon that does not begin the sign of a definition. -/
  | loneColon
  deriving DecidableEq, Repr

/-- Whether an obstacle stands at the front of a text. -/
def Obstacle.Blocks (obstacle : Obstacle) (text : List Char) : Prop :=
  match obstacle with
  | .loneSlash => ∃ rest, text = '/' :: rest ∧ rest.head? ≠ some '/' ∧ rest.head? ≠ some '*'
  | .openComment => ∃ rest, text = '/' :: '*' :: rest ∧ ∀ before, ¬ ClosesAt before rest
  | .noName =>
    ∃ rest, text = '<' :: rest ∧
      (rest = [] ∨ (∃ c ∈ rest.head?, c.isDigit = true) ∨ '>' ∉ rest)
  | .openText =>
    ∃ body rest, text = '"' :: (body ++ rest) ∧ QuotedBody body ∧
      (rest = [] ∨ rest = ['\\'] ∨ rest.head? = some '\n')
  | .starredGroup => ∃ rest, text = '(' :: '*' :: rest
  | .loneColon => ∃ rest, text = ':' :: rest ∧ ¬ [':', '='] <+: rest

namespace Lexeme

/-- No closing mark is found where a line feed, a lone backslash or the end of the text comes behind
a sequence of units. -/
lemma terminalBody?_eq_none_iff {text : List Char} :
    terminalBody? text = none ↔
      ∃ body rest, text = body ++ rest ∧ QuotedBody body ∧
        (rest = [] ∨ rest = ['\\'] ∨ rest.head? = some '\n') := by
  constructor
  · intro h
    fun_induction terminalBody? text with
    | case1 c text ih =>
      obtain ⟨body, rest, rfl, hbody, hrest⟩ := ih (Option.map_eq_none_iff.1 h)
      exact ⟨'\\' :: c :: body, rest, rfl, .escaped c hbody, hrest⟩
    | case2 => simp at h
    | case3 text => exact ⟨[], '\n' :: text, rfl, .nil, .inr (.inr rfl)⟩
    | case4 c text hescape hquote hfeed ih =>
      by_cases hc : c = '\\'
      · subst hc
        cases text with
        | nil => exact ⟨[], ['\\'], rfl, .nil, .inr (.inl rfl)⟩
        | cons d text => exact (hescape d text rfl rfl).elim
      · obtain ⟨body, rest, rfl, hbody, hrest⟩ := ih (Option.map_eq_none_iff.1 h)
        exact ⟨c :: body, rest, rfl, .plain (fun hd => hquote hd) hc hfeed hbody, hrest⟩
    | case5 => exact ⟨[], [], rfl, .nil, .inl rfl⟩
  · rintro ⟨body, rest, rfl, hbody, hrest⟩
    induction hbody with
    | nil =>
      rcases hrest with rfl | rfl | hfeed
      · rfl
      · rfl
      · obtain ⟨later, rfl⟩ := List.head?_eq_some_iff.1 hfeed
        simp [terminalBody?]
    | plain hquote hescape hfeed hbody ih =>
      rw [List.cons_append, terminalBody?_cons hquote hescape hfeed, ih]
      rfl
    | escaped c hbody ih =>
      rw [List.cons_append, List.cons_append, terminalBody?, ih]
      rfl

lemma not_isAtFrontOf {construct : Construct} {text : List Char}
    (hat : Construct.at? text = some construct) (hread : construct.read? text = none)
    (lexeme : Lexeme) : ¬ lexeme.IsAtFrontOf text := by
  intro hfront
  have hconstruct : construct = lexeme.construct := Option.some.inj (hat.symm.trans hfront.at?)
  have hsome := Construct.read?_eq_some_iff.2 ⟨hconstruct.symm, hfront⟩
  simp [hread] at hsome

end Lexeme

/-- The characters that a lexeme can start with are the starters of the constructs. -/
lemma any_startsWith_iff {c : Char} :
    Construct.all.any (·.startsWith c) = true ↔ c ∈ lexemeStarters := by
  have hstarters : Construct.all.any (·.startsWith c) = true ↔
      c ∈ Construct.all.flatMap Construct.starters := by
    simp [Construct.startsWith]
  rw [hstarters]
  simp only [Construct.all, Construct.starters, Bracket.opener, Bracket.closer, lexemeStarters,
    List.flatMap_cons, List.flatMap_nil, List.mem_append, List.mem_cons, List.not_mem_nil]
  grind

namespace Obstacle

/-- The obstacle that a text can start with, judged by its first two characters. -/
def at? : List Char → Option Obstacle
  | '/' :: '*' :: _ => some .openComment
  | '/' :: _ => some .loneSlash
  | '<' :: _ => some .noName
  | '"' :: _ => some .openText
  | '(' :: _ => some .starredGroup
  | ':' :: _ => some .loneColon
  | _ => none

variable {obstacle other : Obstacle} {text : List Char}

lemma Blocks.at? (h : obstacle.Blocks text) : Obstacle.at? text = some obstacle := by
  cases obstacle with
  | loneSlash =>
    obtain ⟨rest, rfl, -, hstar⟩ := h
    unfold Obstacle.at?
    split <;> simp_all
  | openComment =>
    obtain ⟨rest, rfl, -⟩ := h
    rfl
  | noName =>
    obtain ⟨rest, rfl, -⟩ := h
    rfl
  | openText =>
    obtain ⟨body, rest, rfl, -⟩ := h
    rfl
  | starredGroup =>
    obtain ⟨rest, rfl⟩ := h
    rfl
  | loneColon =>
    obtain ⟨rest, rfl, -⟩ := h
    rfl

/-- At most one obstacle stands at the front of a text. -/
theorem Blocks.unique (h : obstacle.Blocks text) (hother : other.Blocks text) : obstacle = other :=
  Option.some.inj (h.at?.symm.trans hother.at?)

/-- An obstacle stands behind a character that starts a lexeme, but no lexeme does. -/
theorem Blocks.not_isAtFrontOf (h : obstacle.Blocks text) :
    (∃ c ∈ text.head?, c ∈ lexemeStarters) ∧ ∀ lexeme : Lexeme, ¬ lexeme.IsAtFrontOf text := by
  cases obstacle with
  | loneSlash =>
    obtain ⟨rest, rfl, hslash, hstar⟩ := h
    have hat : Construct.at? ('/' :: rest) = some .lineComment := by
      unfold Construct.at?
      split
      · rfl
      · simp_all
      · rename_i c _ _ _ htext
        obtain ⟨rfl, -⟩ := List.cons.inj htext
        rfl
      · simp_all
    have hread : Construct.lineComment.read? ('/' :: rest) = none := by
      show Lexeme.readLineComment? ('/' :: rest) = none
      unfold Lexeme.readLineComment?
      split <;> simp_all
    exact ⟨⟨'/', rfl, by decide⟩, Lexeme.not_isAtFrontOf hat hread⟩
  | openComment =>
    obtain ⟨rest, rfl, hopen⟩ := h
    have hbody : Lexeme.commentBody? rest = none := by
      rw [Option.eq_none_iff_forall_ne_some]
      intro body hbody
      exact hopen body (Lexeme.commentBody?_eq_some_iff.1 hbody).closesAt
    have hread : Construct.blockComment.read? ('/' :: '*' :: rest) = none := by
      simp [Construct.read?, Lexeme.readBlockComment?, hbody]
    exact ⟨⟨'/', rfl, by decide⟩, Lexeme.not_isAtFrontOf rfl hread⟩
  | noName =>
    obtain ⟨rest, rfl, hrest⟩ := h
    have hread : Construct.nonTerminal.read? ('<' :: rest) = none := by
      rcases hrest with rfl | ⟨c, hc, hdigit⟩ | hclose
      · rfl
      · obtain ⟨later, rfl⟩ := List.head?_eq_some_iff.1 hc
        simp [Construct.read?, Lexeme.readNonTerminal?, hdigit]
      · simp [Construct.read?, Lexeme.readNonTerminal?, hclose]
    exact ⟨⟨'<', rfl, by decide⟩, Lexeme.not_isAtFrontOf rfl hread⟩
  | openText =>
    obtain ⟨body, rest, rfl, hbody, hrest⟩ := h
    have hsearch : Lexeme.terminalBody? (body ++ rest) = none :=
      Lexeme.terminalBody?_eq_none_iff.2 ⟨body, rest, rfl, hbody, hrest⟩
    have hread : Construct.terminal.read? ('"' :: (body ++ rest)) = none := by
      simp [Construct.read?, Lexeme.readTerminal?, hsearch]
    exact ⟨⟨'"', rfl, by decide⟩, Lexeme.not_isAtFrontOf rfl hread⟩
  | starredGroup =>
    obtain ⟨rest, rfl⟩ := h
    have hread : (Construct.bracket .grouping).read? ('(' :: '*' :: rest) = none := by
      simp [Construct.read?, Lexeme.readBracket?, Bracket.opener, Bracket.closer]
    exact ⟨⟨'(', rfl, by decide⟩, Lexeme.not_isAtFrontOf rfl hread⟩
  | loneColon =>
    obtain ⟨rest, rfl, hsign⟩ := h
    have hread : Construct.definition.read? (':' :: rest) = none := by
      show Lexeme.readDefinition? (':' :: rest) = none
      unfold Lexeme.readDefinition?
      split <;> simp_all
    exact ⟨⟨':', rfl, by decide⟩, Lexeme.not_isAtFrontOf rfl hread⟩

end Obstacle

/-! ## Without a lexeme, an obstacle -/

lemma exists_blocks_slash {rest : List Char}
    (hnone : ∀ construct : Construct, construct.read? ('/' :: rest) = none) :
    ∃ obstacle : Obstacle, obstacle.Blocks ('/' :: rest) := by
  by_cases hslash : rest.head? = some '/'
  · obtain ⟨later, rfl⟩ := List.head?_eq_some_iff.1 hslash
    have hline := hnone .lineComment
    simp [Construct.read?, Lexeme.readLineComment?] at hline
  · by_cases hstar : rest.head? = some '*'
    · obtain ⟨later, rfl⟩ := List.head?_eq_some_iff.1 hstar
      have hblock := hnone .blockComment
      have hbody : Lexeme.commentBody? later = none := by
        simpa [Construct.read?, Lexeme.readBlockComment?] using hblock
      exact ⟨.openComment, later, rfl, fun before => Lexeme.not_closesAt_of_commentBody? hbody⟩
    · exact ⟨.loneSlash, rest, rfl, hslash, hstar⟩

lemma blocks_noName {rest : List Char}
    (hnone : Construct.nonTerminal.read? ('<' :: rest) = none) :
    Obstacle.noName.Blocks ('<' :: rest) := by
  refine ⟨rest, rfl, ?_⟩
  by_cases hdigit : rest.head?.any Char.isDigit = true
  · obtain ⟨c, hc, hdigit⟩ := (Option.any_eq_true _ _).1 hdigit
    exact .inr (.inl ⟨c, hc, hdigit⟩)
  · by_cases hclose : '>' ∈ rest
    · simp [Construct.read?, Lexeme.readNonTerminal?, hdigit, hclose] at hnone
    · exact .inr (.inr hclose)

/-- Only an asterisk keeps a bracket from being read. -/
lemma exists_blocks_bracket {bracket : Bracket} {c : Char} {rest : List Char}
    (hstarts : (Construct.bracket bracket).startsWith c = true)
    (hnone : (Construct.bracket bracket).read? (c :: rest) = none) :
    ∃ obstacle : Obstacle, obstacle.Blocks (c :: rest) := by
  have hends : c = bracket.opener ∨ c = bracket.closer := by
    simpa [Construct.startsWith, Construct.starters] using hstarts
  simp only [Construct.read?, Lexeme.readBracket?] at hnone
  split_ifs at hnone with hcloser hopener
  have hc : c = bracket.opener := hends.resolve_right hcloser
  have hstar : bracket = .grouping ∧ rest.head? = some '*' := by
    by_contra hstar
    exact hopener ⟨hc, hstar⟩
  obtain ⟨rfl, hhead⟩ := hstar
  obtain ⟨later, rfl⟩ := List.head?_eq_some_iff.1 hhead
  exact ⟨.starredGroup, later, by rw [hc]; rfl⟩

lemma exists_blocks_definition {c : Char} {rest : List Char}
    (hstarts : Construct.definition.startsWith c = true)
    (hnone : Construct.definition.read? (c :: rest) = none) :
    ∃ obstacle : Obstacle, obstacle.Blocks (c :: rest) := by
  have hends : c = ':' ∨ c = ';' := by
    simpa [Construct.startsWith, Construct.starters] using hstarts
  rcases hends with rfl | rfl
  · refine ⟨.loneColon, rest, rfl, ?_⟩
    rintro ⟨later, rfl⟩
    simp [Construct.read?, Lexeme.readDefinition?] at hnone
  · simp [Construct.read?, Lexeme.readDefinition?] at hnone

lemma exists_blocks_of_startsWith {construct : Construct} {c : Char} {rest : List Char}
    (hstarts : construct.startsWith c = true)
    (hnone : ∀ construct : Construct, construct.read? (c :: rest) = none) :
    ∃ obstacle : Obstacle, obstacle.Blocks (c :: rest) := by
  cases construct with
  | whitespace =>
    have hblank : c = ' ' ∨ c = '\t' ∨ c = '\n' ∨ c = '\r' := by
      simpa [Construct.startsWith, Construct.starters] using hstarts
    have hspace : c.isWhitespace = true := by
      rcases hblank with rfl | rfl | rfl | rfl <;> rfl
    have hread := hnone .whitespace
    simp [Construct.read?, Lexeme.readWhitespace?, hspace] at hread
  | lineComment =>
    obtain rfl : c = '/' := by simpa [Construct.startsWith, Construct.starters] using hstarts
    exact exists_blocks_slash hnone
  | blockComment =>
    obtain rfl : c = '/' := by simpa [Construct.startsWith, Construct.starters] using hstarts
    exact exists_blocks_slash hnone
  | nonTerminal =>
    obtain rfl : c = '<' := by simpa [Construct.startsWith, Construct.starters] using hstarts
    exact ⟨.noName, blocks_noName (hnone .nonTerminal)⟩
  | terminal =>
    obtain rfl : c = '"' := by simpa [Construct.startsWith, Construct.starters] using hstarts
    have hsearch : Lexeme.terminalBody? rest = none := by
      simpa [Construct.read?, Lexeme.readTerminal?] using hnone .terminal
    obtain ⟨body, left, rfl, hbody, hleft⟩ := Lexeme.terminalBody?_eq_none_iff.1 hsearch
    exact ⟨.openText, body, left, rfl, hbody, hleft⟩
  | bracket bracket => exact exists_blocks_bracket hstarts (hnone _)
  | definition => exact exists_blocks_definition hstarts (hnone _)
  | alternative =>
    obtain rfl : c = '|' := by simpa [Construct.startsWith, Construct.starters] using hstarts
    have hread := hnone .alternative
    simp [Construct.read?, Lexeme.readAlternative?] at hread

/-- Behind a character that starts a lexeme, an obstacle stands exactly where no lexeme does. -/
theorem exists_blocks_iff {c : Char} {rest : List Char} :
    (∃ obstacle : Obstacle, obstacle.Blocks (c :: rest)) ↔
      c ∈ lexemeStarters ∧ ∀ lexeme : Lexeme, ¬ lexeme.IsAtFrontOf (c :: rest) := by
  constructor
  · rintro ⟨obstacle, hblocks⟩
    obtain ⟨⟨d, hd, hstarter⟩, hnone⟩ := hblocks.not_isAtFrontOf
    obtain rfl : c = d := Option.some.inj hd
    exact ⟨hstarter, hnone⟩
  · rintro ⟨hstarter, hfront⟩
    obtain ⟨construct, -, hstarts⟩ := List.any_eq_true.1 (any_startsWith_iff.2 hstarter)
    exact exists_blocks_of_startsWith hstarts (Construct.read?_of_forall_not hfront)

end GrammarScan
