import GrammarScan.Failure
import GrammarScan.Report
import GrammarScan.Settings
import GrammarScan.Token

/-!
# Traces

A trace is the log of what a scan does, for a reader who wants to follow it: which work is entered,
and what happens in it. An event has a title, a level and named fields. A journal is all that scans
write to: the report and the trace.
-/

namespace GrammarScan

/-- How much an event matters. -/
inductive Level where
  | trace
  | debug
  | warn
  deriving DecidableEq, Repr

/-- The name of a level. -/
def Level.name : Level → String
  | .trace => "TRACE"
  | .debug => "DEBUG"
  | .warn => "WARN"

/-- The value of a field. -/
inductive FieldValue where
  | number (n : Nat)
  | text (s : String)
  deriving DecidableEq, Repr

/-- What a trace records. -/
inductive Event where
  /-- Work on a list of sources is entered. -/
  | batchEntered (sources : Nat)
  /-- Work on one source is entered. -/
  | sourceEntered (file : FileName) (length : Nat)
  | scanStarted (file : FileName) (strategy : Strategy) (length : Nat)
  | tokenYielded (kind : Kind) (line column : Nat)
  /-- None of the constructs expected next could be read. -/
  | expectationMissed (symbol : Char) (line : Nat)
  | scanFinished (file : FileName) (tokens lines : Nat)
  | scanFailed (failure : Failure)
  | batchFinished (failed : Nat)
  deriving BEq, DecidableEq, Repr

namespace Event

/-- Whether an event is the entering of work that later events belong to. -/
def isEntry : Event → Bool
  | .batchEntered _ | .sourceEntered _ _ => true
  | _ => false

/-- The level of an event. -/
def level : Event → Level
  | .tokenYielded _ _ _ | .expectationMissed _ _ => .trace
  | .scanFailed _ => .warn
  | _ => .debug

/-- The title of an event. -/
def title : Event → String
  | .batchEntered _ => "tokenize_batch"
  | .sourceEntered _ _ => "tokenize"
  | .scanStarted _ _ _ => "scan started"
  | .tokenYielded _ _ _ => "token"
  | .expectationMissed _ _ => "follow set missed; using activation table"
  | .scanFinished _ _ _ => "scan finished"
  | .scanFailed failure => failure.message
  | .batchFinished _ => "batch finished"

/-- The named fields of an event. -/
def fields : Event → List (String × FieldValue)
  | .batchEntered sources => [("sources", .number sources)]
  | .sourceEntered file length => [("file", .text file.path), ("len", .number length)]
  | .scanStarted file strategy length =>
    [("file", .text file.path), ("strategy", .text strategy.name), ("len", .number length)]
  | .tokenYielded kind line column =>
    [("kind", .text kind.name), ("line", .number line), ("column", .number column)]
  | .expectationMissed symbol line =>
    [("symbol", .text (Text.quoteChar symbol)), ("line", .number line)]
  | .scanFinished file tokens lines =>
    [("file", .text file.path), ("tokens", .number tokens), ("lines", .number lines)]
  | .scanFailed failure => [("file", .text failure.file.path), ("line", .number failure.line)]
  | .batchFinished failed => [("failed", .number failed)]

end Event

/-- What scans have reported and what they have done, oldest first. -/
structure Journal where
  report : Report
  trace : Array Event
  deriving DecidableEq, Repr

namespace Journal

/-- The journal without entries. -/
def empty : Journal := ⟨.empty, #[]⟩

/-- Records an event. -/
def record (journal : Journal) (event : Event) : Journal :=
  { journal with trace := journal.trace.push event }

/-- Puts another report in place of the one so far. -/
def withReport (journal : Journal) (report : Report) : Journal :=
  { journal with report }

end Journal

end GrammarScan
