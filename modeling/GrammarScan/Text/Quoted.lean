import GrammarScan.Unicode.Format
import GrammarScan.Unicode.Mark
import GrammarScan.Unicode.Unassigned

/-!
# Quoted text

Text that a message cites is put between two quote marks and escaped, so that the message shows
every character of it: a backslash stands before the quote mark and before a backslash, NUL and the
three common controls have a letter each, and every other character that would leave no trace of its
own is written by its code point.
-/

namespace GrammarScan.Text

/-- The marks that text is put between. -/
inductive QuoteMark where
  /-- The mark around a single character. -/
  | single
  /-- The mark around a text. -/
  | double
  deriving DecidableEq, Repr

/-- The mark as a character. -/
def QuoteMark.char : QuoteMark → Char
  | .single => '\''
  | .double => '"'

/-- Whether a character leaves no ink or belongs to the one before it. Of the first 128 characters
only controls do. -/
def isUnseen (c : Char) : Bool :=
  Unicode.covers Unicode.controls c ||
    (127 < c.toNat &&
      (Unicode.covers Unicode.formats c || Unicode.covers Unicode.privateUse c ||
        Unicode.covers Unicode.separators c || Unicode.covers Unicode.fillers c ||
        Unicode.covers Unicode.marks c || Unicode.covers Unicode.spacingExtenders c ||
        Unicode.covers Unicode.unassigned c))

/-- The form of a character between two quote marks. -/
def escape (mark : QuoteMark) (c : Char) : List Char :=
  if c = mark.char ∨ c = '\\' then ['\\', c]
  else if c = '\x00' then ['\\', '0']
  else if c = '\t' then ['\\', 't']
  else if c = '\r' then ['\\', 'r']
  else if c = '\n' then ['\\', 'n']
  else if isUnseen c then '\\' :: 'u' :: '{' :: Nat.toDigits 16 c.toNat ++ ['}']
  else [c]

/-- A text between two quote marks. -/
def quote (mark : QuoteMark) (cs : List Char) : List Char :=
  mark.char :: cs.flatMap (escape mark) ++ [mark.char]

/-- A single character between its quote marks. -/
def quoteChar (c : Char) : String :=
  String.ofList (quote .single [c])

end GrammarScan.Text
