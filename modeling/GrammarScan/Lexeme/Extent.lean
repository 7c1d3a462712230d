import GrammarScan.Construct.Basic
import GrammarScan.Lexeme.Search

/-!
# Measuring lexemes in a buffer

`Construct.extent?` finds a construct at the front of a buffer. What it finds is an `Extent`: the
numbers that a cursor needs to move over the lexeme, those that cut its delimiters off, and what is
wrong with it.
-/

namespace GrammarScan

open Text

/-- What is known of a lexeme whose end has been found. -/
structure Extent where
  kind : Kind
  /-- The number of bytes. -/
  length : Nat
  /-- The number of line feeds and the column behind the lexeme, where there are any. -/
  crossing : Option (Nat × Nat)
  /-- The number of bytes of the delimiter in front. -/
  opener : Nat
  /-- The number of bytes of the delimiter at the end. -/
  closer : Nat
  /-- What is wrong with the lexeme, each defect with the number of line feeds before it. -/
  defects : List (Nat × NameDefect)
  deriving DecidableEq, Repr

namespace Extent

/-- The line feeds in the first bytes of a text and the column behind them, where there are any. -/
def crossingOf (cs : List Char) (length : Nat) : Except Fault (Option (Nat × Nat)) := do
  let (piece, _) ← cut cs length
  let feeds := (bytes piece).countP (isByteOf · '\n')
  if feeds = 0 then return none
  match lastByteOf? '\n' (bytes piece) with
  | some index => return some (feeds, 1 + (← charsFrom piece (index + 1)).length)
  | none => return some (feeds, 1 + piece.length)

/-- All the whitespace there is. -/
def whitespace? (cs : List Char) : Except Fault (Option Extent) := do
  let run := (bytes cs).takeWhile fun byte =>
    Construct.whitespace.starters.any (isByteOf byte)
  return some ⟨.whitespace, run.length, ← crossingOf cs run.length, 0, 0, []⟩

/-- A comment up to its line feed, or up to the end of a text without one. -/
def lineComment? (cs : List Char) : Except Fault (Option Extent) := do
  if ['/', '/'].isPrefixOf cs then
    match firstByteOf? ['\n'] (← bytesFrom cs 2) with
    | some index => return some ⟨.lineComment, 2 + index + 1, some (1, 1), 2, 1, []⟩
    | none => return some ⟨.lineComment, byteLength cs, none, 2, 0, []⟩
  else return none

/-- A comment between delimiters. -/
def blockComment? (cs : List Char) : Except Fault (Option Extent) := do
  if ['/', '*'].isPrefixOf cs then
    match ← Search.comment.run cs (.startAt 2) with
    | none => return none
    | some last => return some ⟨.blockComment, last.offset, ← last.crossing cs, 2, 2, []⟩
  else return none

/-- A name in angle brackets, the first of which has been seen. -/
def nonTerminal? (cs : List Char) : Except Fault (Option Extent) := do
  let name ← charsFrom cs 1
  if name.head?.all Char.isDigit then return none
  match (Sweep.startAt 1).throughName name with
  | none => return none
  | some (last, defects) =>
    return some ⟨.nonTerminal, last.offset, ← last.crossing cs, 1, 1, defects⟩

/-- A quoted text, the first mark of which has been seen. -/
def terminal? (cs : List Char) : Except Fault (Option Extent) := do
  match ← Search.text.run cs (.startAt 1) with
  | none => return none
  | some last => return some ⟨.terminal, last.offset, ← last.crossing cs, 1, 1, []⟩

/-- A symbol of so many bytes. -/
def symbol (symbol : Symbol) (length : Nat) : Extent :=
  ⟨.symbol symbol, length, none, 0, 0, []⟩

/-- One of a pair of brackets, either of which has been seen. -/
def bracket? (bracket : Bracket) (cs : List Char) : Except Fault (Option Extent) := do
  let byte ← byteAt cs 0
  if isByteOf byte '(' && ((bytes cs)[1]?).any (isByteOf · '*') then return none
  else if ['(', '[', '{'].any (isByteOf byte) then return some (symbol (.opening bracket) 1)
  else return some (symbol (.closing bracket) 1)

/-- Either end of a definition. -/
def definition? (cs : List Char) : Option Extent :=
  if (bytes cs).head?.any (isByteOf · ';') then some (symbol .definitionEnd 1)
  else if [':', ':', '='].isPrefixOf cs then some (symbol .definitionStart 3)
  else none

end Extent

/-- Finds the extent of a construct at the front of a text, the first character of which the
construct can start with. -/
def Construct.extent? : Construct → List Char → Except Fault (Option Extent)
  | .whitespace => Extent.whitespace?
  | .lineComment => Extent.lineComment?
  | .blockComment => Extent.blockComment?
  | .nonTerminal => Extent.nonTerminal?
  | .terminal => Extent.terminal?
  | .bracket b => Extent.bracket? b
  | .definition => fun cs => .ok (Extent.definition? cs)
  | .alternative => fun _ => .ok (some (Extent.symbol .alternative 1))

end GrammarScan
