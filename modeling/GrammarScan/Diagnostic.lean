import GrammarScan.FileName

/-!
# Diagnostics

A diagnostic cites a line of a file and says what is wrong there. A recoverable one marks a token
that was read all the same, a fatal one the place where scanning stopped.
-/

namespace GrammarScan

/-- Whether scanning goes on after what a diagnostic reports. -/
inductive Severity where
  | recoverable
  | fatal
  deriving DecidableEq, Repr

/-- The word for a severity in printed diagnostics. -/
def Severity.label : Severity → String
  | .recoverable => "error"
  | .fatal => "fatal"

/-- One finding about a file. Two findings are equal when they cite the same file name, however it
is written, and agree in all else. -/
structure Diagnostic where
  file : FileName
  line : Nat
  message : String
  severity : Severity := .recoverable
  deriving BEq, DecidableEq, Repr

namespace Diagnostic

/-- Whether scanning stopped there. -/
def isFatal (diagnostic : Diagnostic) : Bool :=
  diagnostic.severity == .fatal

/-- The printed form: file, line, severity and message. -/
def render (diagnostic : Diagnostic) : String :=
  s!"{diagnostic.file.path}:{diagnostic.line}: {diagnostic.severity.label}: {diagnostic.message}"

end Diagnostic

end GrammarScan
