import GrammarScan.FileName
import GrammarScan.Text.Bytes

/-!
# Sources

A source is the text of a grammar together with the name of the file it came from.
-/

namespace GrammarScan

/-- A grammar text and its file name. -/
structure Source where
  file : FileName
  text : String
  deriving BEq, DecidableEq, Repr

/-- The number of bytes of the text. -/
def Source.length (source : Source) : Nat :=
  Text.byteLength source.text.toList

end GrammarScan
