import GrammarScan.Diagnostic
import GrammarScan.Text.Quoted

/-!
# Failures

A failure is what stops a scan before the end of its input: either no construct starts with the next
character, or some do and none of them can be read there.
-/

namespace GrammarScan

/-- Why no lexeme can be read. -/
inductive Failure.Cause where
  /-- No construct starts with the next character. -/
  | unknownSymbol (symbol : Char)
  /-- Every construct that starts with the next character refuses what follows. -/
  | unreadable
  deriving DecidableEq, Repr

/-- The end of a scan at input that is no lexeme. -/
structure Failure where
  file : FileName
  line : Nat
  cause : Failure.Cause
  /-- The start of the input that could not be read. -/
  preview : String
  deriving BEq, DecidableEq, Repr

namespace Failure

/-- The wording of a failure. -/
def message (failure : Failure) : String :=
  match failure.cause with
  | .unknownSymbol symbol =>
    s!"no matcher for activation symbol {Text.quoteChar symbol} at '{failure.preview}'"
  | .unreadable => s!"no matcher accepted input '{failure.preview}'"

/-- The fatal diagnostic that reports a failure. -/
def diagnostic (failure : Failure) : Diagnostic :=
  ⟨failure.file, failure.line, failure.message, .fatal⟩

end Failure

end GrammarScan
