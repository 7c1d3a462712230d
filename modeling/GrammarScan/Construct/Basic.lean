import GrammarScan.Cursor
import GrammarScan.Lexeme.Reader

/-!
# Constructs

The ten constructs of the notation, each with the characters it can start with, the lexemes it
reads, and the constructs to try first after it. The main statement, `spelling_ne_nil_of_read?`, is
that no construct reads an empty lexeme.
-/

namespace GrammarScan

/-- What a lexeme can be an instance of. -/
inductive Construct where
  | whitespace
  | lineComment
  | blockComment
  | nonTerminal
  | terminal
  | bracket (bracket : Bracket)
  /-- The two symbols around a definition. -/
  | definition
  | alternative
  deriving DecidableEq, Repr

namespace Construct

/-- Every construct, in the order in which constructs that start alike are tried. -/
def all : List Construct :=
  [.whitespace, .nonTerminal, .terminal, .bracket .grouping, .bracket .optional,
    .bracket .repetition, .lineComment, .blockComment, .alternative, .definition]

/-- The characters that a construct can start with. -/
def starters : Construct → List Char
  | .whitespace => [' ', '\t', '\n', '\r']
  | .lineComment | .blockComment => ['/']
  | .nonTerminal => ['<']
  | .terminal => ['"']
  | .bracket b => [b.opener, b.closer]
  | .definition => [':', ';']
  | .alternative => ['|']

/-- Whether a construct can start with a character. -/
def startsWith (construct : Construct) (c : Char) : Bool :=
  construct.starters.contains c

/-- The constructs to try first after a lexeme of this one. After a comment all but a definition
symbol is expected, after a bar or a definition symbol all but these two. -/
def followers : Construct → List Construct
  | .lineComment | .blockComment => all.erase .definition
  | .alternative | .definition => (all.erase .definition).erase .alternative
  | _ => all

/-- What becomes of the lexemes of a construct. -/
def disposition : Construct → Disposition
  | .whitespace | .lineComment | .blockComment => .elide
  | _ => .yield

/-- Reads a lexeme off the front of a text. -/
def read? : Construct → List Char → Option Lexeme
  | .whitespace => Lexeme.readWhitespace?
  | .lineComment => Lexeme.readLineComment?
  | .blockComment => Lexeme.readBlockComment?
  | .nonTerminal => Lexeme.readNonTerminal?
  | .terminal => Lexeme.readTerminal?
  | .bracket b => Lexeme.readBracket? b
  | .definition => Lexeme.readDefinition?
  | .alternative => Lexeme.readAlternative?

/-- No construct reads an empty lexeme. -/
theorem spelling_ne_nil_of_read? {construct : Construct} {cs : List Char} {lexeme : Lexeme}
    (h : construct.read? cs = some lexeme) : lexeme.spelling ≠ [] := by
  rintro hempty
  obtain rfl := Lexeme.eq_whitespace_of_spelling_eq_nil hempty
  cases construct <;> simp only [read?] at h
  case whitespace =>
    unfold Lexeme.readWhitespace? at h
    split at h <;> simp at h
  case lineComment =>
    unfold Lexeme.readLineComment? at h
    split at h <;> simp at h
  case blockComment =>
    unfold Lexeme.readBlockComment? at h
    split at h <;> simp at h
  case nonTerminal =>
    unfold Lexeme.readNonTerminal? at h
    split at h
    · split at h
      · simp at h
      · split at h <;> simp at h
    · simp at h
  case terminal =>
    unfold Lexeme.readTerminal? at h
    split at h <;> simp at h
  case bracket =>
    unfold Lexeme.readBracket? at h
    split at h
    · split at h
      · simp at h
      · split at h <;> simp at h
    · simp at h
  case definition =>
    unfold Lexeme.readDefinition? at h
    split at h <;> simp at h
  case alternative =>
    unfold Lexeme.readAlternative? at h
    split at h <;> simp at h

end Construct

end GrammarScan
