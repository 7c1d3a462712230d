import GrammarScan.Construct.Basic
import GrammarScan.Proofs.Grammar.Bodies
import GrammarScan.Proofs.Text.Forms

/-!
# The lexical grammar

The readers of `GrammarScan.Lexeme.Reader` are functions that search.  This file gives the grammar
that they implement: `IsProper` says what the delimiters of a lexeme may enclose, and `EndsBefore`
says before which texts a lexeme can end, which matters for three kinds of lexeme only.

`Construct.read?_eq_some_iff` is the main statement: a construct reads a lexeme off the front of a
text exactly if the lexeme is one of its own and proper, the text starts with its spelling, and the
lexeme can end there.
-/

namespace GrammarScan

namespace Lexeme

open Text (takeWhile_ne_append takeWhile_ne_eq_self takeWhile_append_of_ends)

/-- The construct that a lexeme is an instance of. -/
def construct : Lexeme → Construct
  | .whitespace _ => .whitespace
  | .lineComment _ _ => .lineComment
  | .blockComment _ => .blockComment
  | .nonTerminal _ => .nonTerminal
  | .terminal _ => .terminal
  | .symbol .definitionStart | .symbol .definitionEnd => .definition
  | .symbol .alternative => .alternative
  | .symbol (.opening bracket) | .symbol (.closing bracket) => .bracket bracket

/-- Whether the delimiters of a lexeme enclose what they may. -/
def IsProper : Lexeme → Prop
  | .whitespace run => run ≠ [] ∧ ∀ c ∈ run, c = ' ' ∨ c = '\t' ∨ c = '\r' ∨ c = '\n'
  | .lineComment body _ => '\n' ∉ body
  | .blockComment body => ClosesAfter body (body ++ ['*', '/'])
  | .nonTerminal name => '>' ∉ name ∧ ∀ c ∈ name.head?, c.isDigit = false
  | .terminal body => QuotedBody body
  | .symbol _ => True

/-- Whether a lexeme can end where the text goes on with `rest`. -/
def EndsBefore : Lexeme → List Char → Prop
  | .whitespace _, rest => ∀ c ∈ rest.head?, c.isWhitespace = false
  | .lineComment _ false, rest => rest = []
  | .symbol (.opening .grouping), rest => rest.head? ≠ some '*'
  | _, _ => True

/-- Whether a text starts with a lexeme that is proper and can end where it does. -/
def IsAtFrontOf (lexeme : Lexeme) (text : List Char) : Prop :=
  lexeme.IsProper ∧ ∃ rest, text = lexeme.spelling ++ rest ∧ lexeme.EndsBefore rest

lemma isWhitespace_iff {c : Char} :
    c.isWhitespace = true ↔ c = ' ' ∨ c = '\t' ∨ c = '\r' ∨ c = '\n' := by
  simp [Char.isWhitespace, or_assoc]

instance (lexeme : Lexeme) : Decidable lexeme.IsProper :=
  match lexeme with
  | .whitespace run =>
    decidable_of_iff (run ≠ [] ∧ run.all Char.isWhitespace = true) (by
      simp only [IsProper, List.all_eq_true, isWhitespace_iff])
  | .lineComment body _ => inferInstanceAs (Decidable ('\n' ∉ body))
  | .blockComment body => inferInstanceAs (Decidable (ClosesAfter body (body ++ ['*', '/'])))
  | .nonTerminal name =>
    decidable_of_iff ('>' ∉ name ∧ name.head?.any Char.isDigit = false) (by
      cases name <;> simp [IsProper])
  | .terminal body => inferInstanceAs (Decidable (QuotedBody body))
  | .symbol _ => .isTrue trivial

/-! ## What is read belongs to the grammar -/

lemma isAtFrontOf_of_readWhitespace? {text : List Char} {lexeme : Lexeme}
    (h : readWhitespace? text = some lexeme) :
    lexeme.construct = .whitespace ∧ lexeme.IsAtFrontOf text := by
  unfold readWhitespace? at h
  split at h
  · simp at h
  · rename_i c run hrun
    obtain rfl := Option.some.inj h
    refine ⟨rfl, ⟨by simp, ?_⟩, text.dropWhile Char.isWhitespace, ?_, ?_⟩
    · intro d hd
      rw [← hrun] at hd
      exact isWhitespace_iff.1 (List.mem_takeWhile_imp hd)
    · simp only [spelling]
      rw [← hrun, List.takeWhile_append_dropWhile]
    · intro d hd
      have hhead := List.head?_dropWhile_not Char.isWhitespace text
      rw [Option.mem_def.1 hd] at hhead
      simpa using hhead

lemma isAtFrontOf_of_readLineComment? {text : List Char} {lexeme : Lexeme}
    (h : readLineComment? text = some lexeme) :
    lexeme.construct = .lineComment ∧ lexeme.IsAtFrontOf text := by
  unfold readLineComment? at h
  split at h
  · rename_i cs
    obtain rfl := Option.some.inj h
    by_cases hfeed : '\n' ∈ cs
    · obtain ⟨body, rest, rfl, hbody⟩ := List.eq_append_cons_of_mem hfeed
      rw [takeWhile_ne_append hbody]
      exact ⟨rfl, hbody, rest, by simp [spelling], by simp [EndsBefore]⟩
    · rw [takeWhile_ne_eq_self hfeed]
      exact ⟨rfl, hfeed, [], by simp [spelling, hfeed], by simp [EndsBefore, hfeed]⟩
  · simp at h

lemma isAtFrontOf_of_readBlockComment? {text : List Char} {lexeme : Lexeme}
    (h : readBlockComment? text = some lexeme) :
    lexeme.construct = .blockComment ∧ lexeme.IsAtFrontOf text := by
  unfold readBlockComment? at h
  split at h
  · obtain ⟨body, hbody, rfl⟩ := Option.map_eq_some_iff.1 h
    obtain ⟨rest, rfl, hother⟩ := (commentBody?_eq_some_iff.1 hbody).exists_append
    exact ⟨rfl, hother [], rest, by simp [spelling], trivial⟩
  · simp at h

lemma isAtFrontOf_of_readNonTerminal? {text : List Char} {lexeme : Lexeme}
    (h : readNonTerminal? text = some lexeme) :
    lexeme.construct = .nonTerminal ∧ lexeme.IsAtFrontOf text := by
  unfold readNonTerminal? at h
  split at h
  · rename_i cs
    split at h
    · simp at h
    · rename_i hdigit
      split at h
      · rename_i hclose
        obtain rfl := Option.some.inj h
        obtain ⟨name, rest, rfl, hname⟩ := List.eq_append_cons_of_mem hclose
        rw [takeWhile_ne_append hname]
        refine ⟨rfl, ⟨hname, ?_⟩, rest, by simp [spelling], trivial⟩
        intro c hc
        cases name with
        | nil => simp at hc
        | cons d name =>
          obtain rfl : d = c := by simpa using hc
          simpa using hdigit
      · simp at h
  · simp at h

lemma isAtFrontOf_of_readTerminal? {text : List Char} {lexeme : Lexeme}
    (h : readTerminal? text = some lexeme) :
    lexeme.construct = .terminal ∧ lexeme.IsAtFrontOf text := by
  unfold readTerminal? at h
  split at h
  · obtain ⟨body, hbody, rfl⟩ := Option.map_eq_some_iff.1 h
    obtain ⟨hunits, rest, rfl⟩ := terminalBody?_eq_some_iff.1 hbody
    exact ⟨rfl, hunits, rest, by simp [spelling], trivial⟩
  · simp at h

lemma isAtFrontOf_of_readBracket? {bracket : Bracket} {text : List Char} {lexeme : Lexeme}
    (h : readBracket? bracket text = some lexeme) :
    lexeme.construct = .bracket bracket ∧ lexeme.IsAtFrontOf text := by
  unfold readBracket? at h
  split at h
  · rename_i c cs
    split at h
    · rename_i hcloser
      obtain rfl := Option.some.inj h
      exact ⟨rfl, trivial, cs, by simp [spelling, Symbol.spelling, hcloser], trivial⟩
    · split at h
      · rename_i hopener
        obtain rfl := Option.some.inj h
        refine ⟨rfl, trivial, cs, by simp [spelling, Symbol.spelling, hopener.1], ?_⟩
        cases bracket with
        | grouping => exact fun hstar => hopener.2 ⟨rfl, hstar⟩
        | optional => trivial
        | repetition => trivial
      · simp at h
  · simp at h

lemma isAtFrontOf_of_readDefinition? {text : List Char} {lexeme : Lexeme}
    (h : readDefinition? text = some lexeme) :
    lexeme.construct = .definition ∧ lexeme.IsAtFrontOf text := by
  unfold readDefinition? at h
  split at h
  · rename_i rest
    obtain rfl := Option.some.inj h
    exact ⟨rfl, trivial, rest, rfl, trivial⟩
  · rename_i rest
    obtain rfl := Option.some.inj h
    exact ⟨rfl, trivial, rest, rfl, trivial⟩
  · simp at h

lemma isAtFrontOf_of_readAlternative? {text : List Char} {lexeme : Lexeme}
    (h : readAlternative? text = some lexeme) :
    lexeme.construct = .alternative ∧ lexeme.IsAtFrontOf text := by
  unfold readAlternative? at h
  split at h
  · rename_i rest
    obtain rfl := Option.some.inj h
    exact ⟨rfl, trivial, rest, rfl, trivial⟩
  · simp at h

/-! ## What belongs to the grammar is read -/

lemma readLineComment?_spelling {body : List Char} {closed : Bool} {rest : List Char}
    (hproper : (lineComment body closed).IsProper) (hends : (lineComment body closed).EndsBefore rest) :
    readLineComment? ((lineComment body closed).spelling ++ rest) =
      some (lineComment body closed) := by
  cases closed with
  | true =>
    have hrun := takeWhile_ne_append hproper rest
    simp only [spelling, if_true, List.cons_append, List.append_assoc, List.nil_append,
      readLineComment?, hrun]
    simp
  | false =>
    obtain rfl : rest = [] := hends
    have hfeed : '\n' ∉ body := hproper
    simp only [spelling, Bool.false_eq_true, if_false, List.append_nil, readLineComment?,
      takeWhile_ne_eq_self hfeed]
    simp [hfeed]

lemma readBlockComment?_spelling {body : List Char} (hproper : (blockComment body).IsProper)
    (rest : List Char) :
    readBlockComment? ((blockComment body).spelling ++ rest) = some (blockComment body) := by
  obtain ⟨_, _, hother⟩ := ClosesAfter.exists_append hproper
  have hbody : commentBody? (body ++ '*' :: '/' :: rest) = some body :=
    commentBody?_eq_some_iff.2 (hother rest)
  simp [spelling, readBlockComment?, hbody]

lemma readNonTerminal?_spelling {name : List Char} (hproper : (nonTerminal name).IsProper)
    (rest : List Char) :
    readNonTerminal? ((nonTerminal name).spelling ++ rest) = some (nonTerminal name) := by
  obtain ⟨hclose, hdigit⟩ := hproper
  have hname := takeWhile_ne_append hclose rest
  have hfirst : (name ++ '>' :: rest).head?.any Char.isDigit = false := by
    cases name with
    | nil => rfl
    | cons c name => simpa using hdigit c rfl
  simp only [spelling, List.cons_append, List.append_assoc, List.nil_append, readNonTerminal?,
    hfirst, hname]
  simp

lemma readBracket?_spelling_opening {bracket : Bracket} {rest : List Char}
    (hends : (symbol (.opening bracket)).EndsBefore rest) :
    readBracket? bracket (bracket.opener :: rest) = some (symbol (.opening bracket)) := by
  have hne : bracket.opener ≠ bracket.closer := by
    cases bracket <;> decide
  have hstar : ¬ (bracket = .grouping ∧ rest.head? = some '*') := by
    rintro ⟨rfl, hhead⟩
    exact hends hhead
  rw [readBracket?, if_neg hne, if_pos ⟨rfl, hstar⟩]

lemma read?_spelling_append {lexeme : Lexeme} {rest : List Char} (hproper : lexeme.IsProper)
    (hends : lexeme.EndsBefore rest) :
    lexeme.construct.read? (lexeme.spelling ++ rest) = some lexeme := by
  cases lexeme with
  | whitespace run =>
    have hrun := takeWhile_append_of_ends (fun c hc => isWhitespace_iff.2 (hproper.2 c hc)) hends
    obtain ⟨c, later, rfl⟩ := List.exists_cons_of_ne_nil hproper.1
    simp only [construct, Construct.read?, readWhitespace?, spelling, hrun]
  | lineComment body closed => exact readLineComment?_spelling hproper hends
  | blockComment body => exact readBlockComment?_spelling hproper rest
  | nonTerminal name => exact readNonTerminal?_spelling hproper rest
  | terminal body =>
    have hbody := terminalBody?_append_quote hproper rest
    simp [construct, Construct.read?, readTerminal?, spelling, hbody]
  | symbol symbol =>
    cases symbol with
    | definitionStart => rfl
    | definitionEnd => rfl
    | alternative => rfl
    | opening bracket => exact readBracket?_spelling_opening hends
    | closing bracket =>
      simp [construct, Construct.read?, readBracket?, spelling, Symbol.spelling]

end Lexeme

namespace Construct

open Lexeme

/-- A construct reads a lexeme off the front of a text exactly if the lexeme is one of its own and
proper, the text starts with its spelling, and the lexeme can end there. -/
theorem read?_eq_some_iff {construct : Construct} {text : List Char} {lexeme : Lexeme} :
    construct.read? text = some lexeme ↔
      lexeme.construct = construct ∧ lexeme.IsAtFrontOf text := by
  constructor
  · intro h
    cases construct with
    | whitespace => exact isAtFrontOf_of_readWhitespace? h
    | lineComment => exact isAtFrontOf_of_readLineComment? h
    | blockComment => exact isAtFrontOf_of_readBlockComment? h
    | nonTerminal => exact isAtFrontOf_of_readNonTerminal? h
    | terminal => exact isAtFrontOf_of_readTerminal? h
    | bracket bracket => exact isAtFrontOf_of_readBracket? h
    | definition => exact isAtFrontOf_of_readDefinition? h
    | alternative => exact isAtFrontOf_of_readAlternative? h
  · rintro ⟨rfl, hproper, rest, rfl, hends⟩
    exact read?_spelling_append hproper hends

/-- A construct reads nothing exactly if no lexeme of its own stands at the front. -/
theorem read?_eq_none_iff {construct : Construct} {text : List Char} :
    construct.read? text = none ↔
      ∀ lexeme : Lexeme, lexeme.construct = construct → ¬ lexeme.IsAtFrontOf text := by
  rw [Option.eq_none_iff_forall_ne_some]
  constructor
  · intro hne lexeme hconstruct hfront
    exact hne lexeme (read?_eq_some_iff.2 ⟨hconstruct, hfront⟩)
  · intro hnot lexeme hread
    obtain ⟨hconstruct, hfront⟩ := read?_eq_some_iff.1 hread
    exact hnot lexeme hconstruct hfront

end Construct

lemma Lexeme.IsAtFrontOf.spelling_ne_nil {lexeme : Lexeme} {text : List Char}
    (h : lexeme.IsAtFrontOf text) : lexeme.spelling ≠ [] :=
  Construct.spelling_ne_nil_of_read? (Construct.read?_eq_some_iff.2 ⟨rfl, h⟩)

end GrammarScan
