import GrammarScan.Construct.Attempt
import GrammarScan.Construct.StarterTable
import GrammarScan.Trace

/-!
# Dispatch

Dispatch finds the construct to read at a cursor. Where some constructs are expected, those of them
that can start with the next character are tried first, and when none accepts, the table of starters
has the last word. Either way the lexeme found leaves less to read
(`length_rest_lt_of_find`).
-/

namespace GrammarScan

/-- What dispatch comes to. -/
inductive Dispatch where
  | accepted (acceptance : Acceptance)
  | failed (cause : Failure.Cause)
  | broken (fault : Fault)
  deriving DecidableEq, Repr

namespace Dispatch

/-- Tries the constructs that start with the next character. -/
def byStarter (cursor : Cursor) (symbol : Char) (journal : Journal) : Dispatch × Journal :=
  match StarterTable.standard.candidates? symbol with
  | none => (.failed (.unknownSymbol symbol), journal)
  | some constructs =>
    match Construct.firstAccepting cursor journal.report constructs with
    | (.ok (some acceptance), report) => (.accepted acceptance, journal.withReport report)
    | (.ok none, report) => (.failed .unreadable, journal.withReport report)
    | (.error fault, report) => (.broken fault, journal.withReport report)

/-- Tries the expected constructs, if any are, and then those that start with the next character. -/
def find (expected : Option (List Construct)) (cursor : Cursor) (symbol : Char)
    (journal : Journal) : Dispatch × Journal :=
  match expected with
  | none => byStarter cursor symbol journal
  | some constructs =>
    match Construct.firstAccepting cursor journal.report
        (constructs.filter (·.startsWith symbol)) with
    | (.ok (some acceptance), report) => (.accepted acceptance, journal.withReport report)
    | (.ok none, report) =>
      byStarter cursor symbol
        ((journal.withReport report).record (.expectationMissed symbol cursor.line))
    | (.error fault, report) => (.broken fault, journal.withReport report)

theorem length_rest_lt_of_byStarter {cursor : Cursor} {symbol : Char} {journal : Journal}
    {acceptance : Acceptance} (h : (byStarter cursor symbol journal).1 = .accepted acceptance) :
    acceptance.next.rest.length < cursor.rest.length := by
  unfold byStarter at h
  split at h
  · simp at h
  · split at h
    · rename_i hfirst
      simp only [accepted.injEq] at h
      subst h
      exact Construct.length_rest_lt_of_firstAccepting (congrArg Prod.fst hfirst)
    · simp at h
    · simp at h

/-- The lexeme that dispatch finds leaves less to read. -/
theorem length_rest_lt_of_find {expected : Option (List Construct)} {cursor : Cursor}
    {symbol : Char} {journal : Journal} {acceptance : Acceptance}
    (h : (find expected cursor symbol journal).1 = .accepted acceptance) :
    acceptance.next.rest.length < cursor.rest.length := by
  unfold find at h
  split at h
  · exact length_rest_lt_of_byStarter h
  · split at h
    · rename_i hfirst
      simp only [accepted.injEq] at h
      subst h
      exact Construct.length_rest_lt_of_firstAccepting (congrArg Prod.fst hfirst)
    · exact length_rest_lt_of_byStarter h
    · simp at h

end Dispatch

end GrammarScan
