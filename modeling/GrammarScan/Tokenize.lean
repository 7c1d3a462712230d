import GrammarScan.Scanner.Drain

/-!
# Tokenizing sources

A source is tokenized by a scanner of its own. Sources that are tokenized together share a journal:
each of them adds its diagnostics and its events behind those of the sources before it.
-/

namespace GrammarScan.Source

/-- Scans a source to its end or to the first failure. -/
def tokenize (source : Source) (settings : Settings) (journal : Journal) :
    Tokenization × Journal :=
  let (scanner, journal) :=
    Scanner.start source settings (journal.record (.sourceEntered source.file source.length))
  let done := scanner.drain journal
  (done.result, done.journal)

/-- Scans sources one after the other. -/
def tokenizeEach (settings : Settings) : List Source → Journal → List Tokenization × Journal
  | [], journal => ([], journal)
  | source :: sources, journal =>
    let (first, journal) := source.tokenize settings journal
    let (others, journal) := tokenizeEach settings sources journal
    (first :: others, journal)

/-- Scans sources one after the other and records how many of the scans failed. -/
def tokenizeAll (sources : List Source) (settings : Settings) (journal : Journal) :
    List Tokenization × Journal :=
  let (results, journal) :=
    tokenizeEach settings sources (journal.record (.batchEntered sources.length))
  (results, journal.record (.batchFinished (results.countP (·.failure?.isSome))))

end GrammarScan.Source
