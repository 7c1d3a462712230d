import GrammarScan.Fault
import GrammarScan.Kind
import GrammarScan.Text.Quoted

/-!
# Tokens

A token carries the text that its lexeme stands for, without delimiters and with escapes as they are
written, and says where the lexeme lies in the source: its bytes, and the line and the column of its
first character.
-/

namespace GrammarScan

/-- A range of byte offsets, from the first byte to the one after the last. -/
structure Span where
  start : Nat
  stop : Nat
  deriving DecidableEq, Repr

/-- The number of bytes in a range; a range that ends before it starts has none. -/
def Span.length (span : Span) : Except Fault Nat :=
  if span.start ≤ span.stop then .ok (span.stop - span.start) else .error .overflow

/-- Whether a range starts where it ends. -/
def Span.isEmpty (span : Span) : Bool :=
  span.start == span.stop

/-- A token of a grammar. -/
structure Token where
  kind : Kind
  text : String
  span : Span
  line : Nat
  column : Nat
  /-- False when the lexeme broke a rule of its construct and was read all the same. -/
  wellFormed : Bool
  deriving DecidableEq, Repr

namespace Token

/-- The token that no text has been read into. -/
def empty : Token :=
  ⟨.empty, "", ⟨0, 0⟩, 0, 0, false⟩

/-- Whether no text has been read into the token. -/
def isEmpty (token : Token) : Bool :=
  token.kind == .empty

/-- The columns that a dump leaves for the name of a kind. -/
def nameWidth : Nat := 20

/-- One line of a dump: position, name of the kind, quoted text unless there is none, and a note on
a token that is not well formed. -/
def render (token : Token) : String :=
  String.ofList <|
    Nat.toDigits 10 token.line ++ ':' :: Nat.toDigits 10 token.column ++ ' ' ::
      token.kind.name.toList.rightpad nameWidth ' ' ++
      (if token.text.isEmpty then [] else ' ' :: Text.quote .double token.text.toList) ++
      (if token.wellFormed then [] else " (malformed)".toList)

end Token

end GrammarScan
