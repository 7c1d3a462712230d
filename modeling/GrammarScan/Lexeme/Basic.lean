import GrammarScan.Diagnostic
import GrammarScan.Kind
import GrammarScan.Text.Quoted

/-!
# Lexemes

A lexeme is a piece of a grammar taken apart: which construct it is and what its delimiters enclose.
`spelling` puts the delimiters back, so it is the text that the lexeme was read from. What a name may
not contain is decided here as well: a name with a defect is still a lexeme, and each defect is a
diagnostic of its own.
-/

namespace GrammarScan

/-- A piece of a grammar, without its delimiters. -/
inductive Lexeme where
  /-- A run of spaces, tabs, carriage returns and line feeds. -/
  | whitespace (run : List Char)
  /-- A comment that ends with its line; `closed` tells whether a line feed ends it or the input
  does. -/
  | lineComment (body : List Char) (closed : Bool)
  /-- A comment between delimiters. -/
  | blockComment (body : List Char)
  /-- A name between angle brackets. -/
  | nonTerminal (name : List Char)
  /-- A text between quote marks, its escapes as they are written. -/
  | terminal (body : List Char)
  | symbol (symbol : Symbol)
  deriving DecidableEq, Repr

/-- What is wrong with a character of a name. -/
inductive NameDefect where
  | lineBreak
  | forbidden (c : Char)
  deriving DecidableEq, Repr

/-- The wording of a defect. -/
def NameDefect.message : NameDefect → String
  | .lineBreak => "non-terminal cannot contain a line break"
  | .forbidden c => s!"non-terminal cannot contain {Text.quoteChar c}"

/-- The characters besides the line feed that a name may not contain. -/
def forbiddenInName : List Char :=
  " \t\r!@#$%^&*()+=[]\x7b\x7d;:'\"<,./\\|?`~".toList

/-- The defect that a character is in a name, if it is one. -/
def nameDefect? (c : Char) : Option NameDefect :=
  if c = '\n' then some .lineBreak
  else if c ∈ forbiddenInName then some (.forbidden c)
  else none

/-- The diagnostics for a name that starts on a given line, in the order of its characters. A line
feed is cited on the line that it ends. -/
def nameDiagnostics (file : FileName) (line : Nat) : List Char → List Diagnostic
  | [] => []
  | c :: cs =>
    let later := nameDiagnostics file (if c = '\n' then line + 1 else line) cs
    match nameDefect? c with
    | some defect => ⟨file, line, defect.message, .recoverable⟩ :: later
    | none => later

namespace Lexeme

/-- The source text of a lexeme. -/
def spelling : Lexeme → List Char
  | .whitespace run => run
  | .lineComment body closed => '/' :: '/' :: body ++ if closed then ['\n'] else []
  | .blockComment body => '/' :: '*' :: body ++ ['*', '/']
  | .nonTerminal name => '<' :: name ++ ['>']
  | .terminal body => '"' :: body ++ ['"']
  | .symbol s => s.spelling

/-- What the delimiters enclose; all of it where there are none. -/
def payload : Lexeme → List Char
  | .whitespace run => run
  | .lineComment body _ => body
  | .blockComment body => body
  | .nonTerminal name => name
  | .terminal body => body
  | .symbol s => s.spelling

/-- The kind of token a lexeme makes. -/
def kind : Lexeme → Kind
  | .whitespace _ => .whitespace
  | .lineComment _ _ => .lineComment
  | .blockComment _ => .blockComment
  | .nonTerminal _ => .nonTerminal
  | .terminal _ => .terminal
  | .symbol s => .symbol s

/-- Whether a lexeme keeps all rules of its construct. Only a name can fail to. -/
def wellFormed : Lexeme → Bool
  | .nonTerminal name => name.all fun c => (nameDefect? c).isNone
  | _ => true

/-- The diagnostics for a lexeme that starts on a given line of a file. -/
def diagnostics (file : FileName) (line : Nat) : Lexeme → List Diagnostic
  | .nonTerminal name => nameDiagnostics file line name
  | _ => []

/-- Only whitespace can be empty. -/
theorem eq_whitespace_of_spelling_eq_nil {lexeme : Lexeme} (h : lexeme.spelling = []) :
    lexeme = .whitespace [] := by
  cases lexeme with
  | whitespace run => exact congrArg whitespace h
  | symbol s => exact absurd h s.spelling_ne_nil
  | _ => simp [spelling] at h

end Lexeme

end GrammarScan
