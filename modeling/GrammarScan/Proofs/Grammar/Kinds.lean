import GrammarScan.Proofs.Grammar.Escapes
import GrammarScan.Proofs.Grammar.Lexemes

/-!
# What a token of each kind covers

A token names a kind, a payload and a span.  `Kind.Covers` says, kind by kind and in terms of the
characters alone, which piece of text a token may then cover: what the delimiters are, which part of
the piece is the payload, and what may not stand inside it or behind it.  It mentions neither lexemes
nor readers, and `Lexeme.kind_covers` shows that the lexical grammar agrees with it.
-/

namespace GrammarScan

open Lexeme (ClosesAt escapesNext)

/-- The characters that runs of whitespace are made of. -/
def blanks : List Char := [' ', '\t', '\r', '\n']

/-- Whether a token of the kind, with the given payload, may cover a piece of text that is followed by
`rest`. -/
def Kind.Covers (kind : Kind) (payload piece rest : List Char) : Prop :=
  match kind with
  | .empty => False
  | .whitespace =>
    piece = payload ∧ payload ≠ [] ∧ (∀ c ∈ payload, c ∈ blanks) ∧ ∀ c ∈ rest.head?, c ∉ blanks
  | .lineComment =>
    '\n' ∉ payload ∧
      (piece = '/' :: '/' :: payload ++ ['\n'] ∨ piece = '/' :: '/' :: payload ∧ rest = [])
  | .blockComment =>
    piece = '/' :: '*' :: payload ++ ['*', '/'] ∧ ClosesAt payload (payload ++ ['*', '/']) ∧
      ∀ before, ClosesAt before (payload ++ ['*', '/']) → before = payload
  | .nonTerminal =>
    piece = '<' :: payload ++ ['>'] ∧ '>' ∉ payload ∧ ∀ c ∈ payload.head?, c.isDigit = false
  | .terminal =>
    piece = '"' :: payload ++ ['"'] ∧ escapesNext payload = false ∧
      ∀ before c after, payload = before ++ c :: after → c = '"' ∨ c = '\n' →
        escapesNext before = true
  | .symbol s => piece = payload ∧ payload = s.spelling

namespace Lexeme

lemma isWhitespace_iff_mem_blanks {c : Char} : c.isWhitespace = true ↔ c ∈ blanks := by
  rw [isWhitespace_iff]
  simp [blanks]

/-- The one delimiter of a closed comment that is not escaped is the last. -/
lemma ClosesAfter.eq_of_closesAt {body : List Char} (h : ClosesAfter body (body ++ ['*', '/']))
    {before : List Char} (hbefore : ClosesAt before (body ++ ['*', '/'])) : before = body := by
  have hle : body.length ≤ before.length := h.length_le hbefore
  obtain ⟨-, after, htext⟩ := hbefore
  have hlength := congrArg List.length htext
  simp only [List.length_append, List.length_cons, List.length_nil] at hlength
  obtain ⟨hsame, -⟩ := List.append_inj htext (by omega)
  exact hsame.symm

/-- A proper lexeme is what its kind and its payload say. -/
theorem kind_covers {lexeme : Lexeme} {rest : List Char} (hproper : lexeme.IsProper)
    (hends : lexeme.EndsBefore rest) :
    lexeme.kind.Covers lexeme.payload lexeme.spelling rest := by
  cases lexeme with
  | whitespace run =>
    obtain ⟨hne, hrun⟩ := hproper
    refine ⟨rfl, hne, ?_, ?_⟩
    · intro c hc
      exact isWhitespace_iff_mem_blanks.1 (isWhitespace_iff.2 (hrun c hc))
    · intro c hc hblank
      have hspace := isWhitespace_iff_mem_blanks.2 hblank
      rw [hends c hc] at hspace
      exact Bool.false_ne_true hspace
  | lineComment body closed =>
    refine ⟨hproper, ?_⟩
    cases closed with
    | true => exact .inl rfl
    | false => exact .inr ⟨by simp [spelling, payload], hends⟩
  | blockComment body =>
    exact ⟨rfl, ClosesAfter.closesAt hproper, fun before h => ClosesAfter.eq_of_closesAt hproper h⟩
  | nonTerminal name => exact ⟨rfl, hproper⟩
  | terminal body => exact ⟨rfl, quotedBody_iff.1 hproper⟩
  | symbol symbol => exact ⟨rfl, rfl⟩

/-- A kind with a single spelling is that of the lexeme spelled so. -/
lemma spelling_of_fixedSpelling? {lexeme : Lexeme} {spelling : String}
    (h : lexeme.kind.fixedSpelling? = some spelling) :
    lexeme.spelling = spelling.toList ∧ String.ofList lexeme.payload = spelling := by
  cases lexeme with
  | symbol symbol =>
    obtain rfl : String.ofList symbol.spelling = spelling := Option.some.inj h
    exact ⟨String.toList_ofList.symm, rfl⟩
  | _ => simp [kind, Kind.fixedSpelling?] at h

lemma nameDefect?_isSome_iff {c : Char} :
    (nameDefect? c).isSome = true ↔ c = '\n' ∨ c ∈ forbiddenInName := by
  unfold nameDefect?
  split_ifs with hfeed hforbidden <;> simp [*]

/-- Only a name can fail to be well formed, by a character that names may not contain. -/
lemma wellFormed_eq_false_iff {lexeme : Lexeme} :
    lexeme.wellFormed = false ↔
      lexeme.kind = .nonTerminal ∧ ∃ c ∈ lexeme.payload, c = '\n' ∨ c ∈ forbiddenInName := by
  cases lexeme with
  | nonTerminal name =>
    simp [wellFormed, kind, payload, ← nameDefect?_isSome_iff, Option.isSome_iff_ne_none]
  | _ => simp [wellFormed, kind]

/-- Trivia is what is elided. -/
lemma disposition_eq_elide_iff {lexeme : Lexeme} :
    lexeme.construct.disposition = .elide ↔ lexeme.kind.isTrivia = true := by
  cases lexeme with
  | symbol symbol => cases symbol <;> simp [construct, Construct.disposition, kind, Kind.isTrivia]
  | _ => simp [construct, Construct.disposition, kind, Kind.isTrivia]

end Lexeme

end GrammarScan
