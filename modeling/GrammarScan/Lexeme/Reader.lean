import GrammarScan.Lexeme.Basic

/-!
# Reading lexemes

For each construct, the function that reads a lexeme of it off the front of a text. A function
refuses a text that does not start with its construct. What follows a lexeme has no part in how it is
read, but for three cases: whitespace reaches as far as it can, a comment at the end of the text
needs no line feed, and an asterisk keeps a parenthesis from opening a group.
-/

namespace GrammarScan.Lexeme

/-- Reads all the whitespace there is. -/
def readWhitespace? (cs : List Char) : Option Lexeme :=
  match cs.takeWhile Char.isWhitespace with
  | [] => none
  | c :: run => some (.whitespace (c :: run))

/-- Reads a comment that ends with its line. The line feed belongs to it; the last line of a text
may lack one. -/
def readLineComment? : List Char → Option Lexeme
  | '/' :: '/' :: cs => some (.lineComment (cs.takeWhile (· ≠ '\n')) (decide ('\n' ∈ cs)))
  | _ => none

/-- What stands before the first closing delimiter of a comment. A backslash takes the next
character out of play, so that it cannot be part of the delimiter. -/
def commentBody? : List Char → Option (List Char)
  | '\\' :: c :: cs => (commentBody? cs).map fun body => '\\' :: c :: body
  | '*' :: '/' :: _ => some []
  | c :: cs => (commentBody? cs).map (c :: ·)
  | [] => none

/-- Reads a comment between delimiters. -/
def readBlockComment? : List Char → Option Lexeme
  | '/' :: '*' :: cs => (commentBody? cs).map .blockComment
  | _ => none

/-- Reads a name in angle brackets. A digit after the opening bracket makes it no name. -/
def readNonTerminal? : List Char → Option Lexeme
  | '<' :: cs =>
    if cs.head?.any Char.isDigit then none
    else if '>' ∈ cs then some (.nonTerminal (cs.takeWhile (· ≠ '>')))
    else none
  | _ => none

/-- What stands before the closing mark of a quoted text. A backslash takes the next character as it
is, a line feed as well; a line feed without one ends the search. -/
def terminalBody? : List Char → Option (List Char)
  | '\\' :: c :: cs => (terminalBody? cs).map fun body => '\\' :: c :: body
  | '"' :: _ => some []
  | c :: cs => if c = '\n' then none else (terminalBody? cs).map (c :: ·)
  | [] => none

/-- Reads a quoted text. -/
def readTerminal? : List Char → Option Lexeme
  | '"' :: cs => (terminalBody? cs).map .terminal
  | _ => none

/-- Reads one of a pair of brackets. A group does not start before an asterisk. -/
def readBracket? (bracket : Bracket) : List Char → Option Lexeme
  | c :: cs =>
    if c = bracket.closer then some (.symbol (.closing bracket))
    else if c = bracket.opener ∧ ¬ (bracket = .grouping ∧ cs.head? = some '*') then
      some (.symbol (.opening bracket))
    else none
  | [] => none

/-- Reads either end of a definition. -/
def readDefinition? : List Char → Option Lexeme
  | ';' :: _ => some (.symbol .definitionEnd)
  | ':' :: ':' :: '=' :: _ => some (.symbol .definitionStart)
  | _ => none

/-- Reads the bar between alternatives. -/
def readAlternative? : List Char → Option Lexeme
  | '|' :: _ => some (.symbol .alternative)
  | _ => none

end GrammarScan.Lexeme
