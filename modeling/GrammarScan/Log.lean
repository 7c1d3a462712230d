import GrammarScan.Tokenize

/-!
# Operations on a log

Findings get into a report one at a time, several together, or by a scan that reports there. An
`Operation` is one of these, done to a journal, and `Journal.performAll` performs operations one after
the other.
-/

namespace GrammarScan.Journal

/-- What adds to a report. -/
inductive Operation where
  | add (file : FileName) (line : Nat) (message : String)
  | addAs (severity : Severity) (file : FileName) (line : Nat) (message : String)
  | push (diagnostic : Diagnostic)
  | extend (diagnostics : List Diagnostic)
  | tokenize (source : Source) (settings : Settings)
  deriving DecidableEq, Repr

/-- Performs one operation. Only a scan has a result. -/
def perform (journal : Journal) : Operation → Option Tokenization × Journal
  | .add file line message => (none, journal.withReport (journal.report.add file line message))
  | .addAs severity file line message =>
    (none, journal.withReport (journal.report.addAs severity file line message))
  | .push diagnostic => (none, journal.withReport (journal.report.push diagnostic))
  | .extend diagnostics => (none, journal.withReport (journal.report.extend diagnostics))
  | .tokenize source settings =>
    let (result, journal) := source.tokenize settings journal
    (some result, journal)

/-- Performs operations in order, with the result of each. -/
def performAll (journal : Journal) : List Operation → List (Option Tokenization) × Journal
  | [] => ([], journal)
  | operation :: operations =>
    let (result, journal) := journal.perform operation
    let (results, journal) := journal.performAll operations
    (result :: results, journal)

end GrammarScan.Journal
