import GrammarScan.Scanner.Dispatch

/-!
# Scanners

A scanner reads a source one token at a time. `next` answers with a token or with the way the scan
ended; after the end, and after a failure, it answers that the input is complete and does nothing
more. `step` reads a single lexeme, elided or not, and `next` takes steps until one is to be
yielded. Both leave less to read whenever they read a token (`length_rest_lt_of_step`,
`length_rest_lt_of_next`), and so scanning terminates.
-/

namespace GrammarScan

/-- What a scanner can still do. -/
inductive Phase where
  | scanning
  | finished
  | failed
  deriving DecidableEq, Repr

/-- The state of a scan. -/
structure Scanner where
  cursor : Cursor
  settings : Settings
  /-- The constructs that usually follow the last lexeme, where the strategy asks for them. -/
  expected : Option (List Construct)
  phase : Phase
  /-- The number of tokens yielded so far. -/
  yielded : Nat
  deriving DecidableEq, Repr

/-- How a scan ends. -/
inductive Ending where
  /-- The input is read to its end. -/
  | complete
  /-- The input goes on with something that is no lexeme. -/
  | failed (failure : Failure)
  /-- The scan broke a promise. -/
  | broken (fault : Fault)
  deriving BEq, DecidableEq, Repr

/-- The answer to a request for a token. -/
inductive Answer where
  | token (token : Token)
  | stop (ending : Ending)
  deriving BEq, DecidableEq, Repr

/-- The result of a request, with the scanner and the journal that it leaves. -/
structure Progress (α : Type) where
  result : α
  scanner : Scanner
  journal : Journal

namespace Scanner

/-- Starts a scan. With the predictive strategy, everything is expected at first. -/
def start (source : Source) (settings : Settings) (journal : Journal) : Scanner × Journal :=
  let expected :=
    match settings.strategy with
    | .pattern => none
    | .predictive => some Construct.all
  (⟨Cursor.start source, settings, expected, .scanning, 0⟩,
    journal.record (.scanStarted source.file settings.strategy source.length))

/-- Whether a failure stopped the scan. -/
def hasFailed (scanner : Scanner) : Bool :=
  scanner.phase == .failed

/-- What a fatal message quotes: the start of what is left, with three dots where it is cut. -/
def preview (scanner : Scanner) : String :=
  match scanner.cursor.preview scanner.settings.previewLength with
  | (text, true) => text ++ "..."
  | (text, false) => text

/-- Ends a scan at the end of the input. -/
def finish (scanner : Scanner) (journal : Journal) : Progress Answer where
  result := .stop .complete
  scanner := { scanner with phase := .finished }
  journal :=
    journal.record (.scanFinished scanner.cursor.file scanner.yielded scanner.cursor.line)

/-- Ends a scan at input that is no lexeme, and reports it. -/
def fail (scanner : Scanner) (cause : Failure.Cause) (journal : Journal) : Progress Answer :=
  let failure : Failure := ⟨scanner.cursor.file, scanner.cursor.line, cause, scanner.preview⟩
  { result := .stop (.failed failure)
    scanner := { scanner with phase := .failed }
    journal :=
      (journal.record (.scanFailed failure)).withReport
        (journal.report.push failure.diagnostic) }

/-- Moves a scanner behind a lexeme. -/
def accept (scanner : Scanner) (acceptance : Acceptance) (journal : Journal) : Progress Answer where
  result := .token acceptance.token
  scanner :=
    { scanner with
      cursor := acceptance.next
      expected := scanner.expected.map fun _ => acceptance.construct.followers }
  journal

/-- Reads the next lexeme, whether it is to be yielded or not. -/
def step (scanner : Scanner) (journal : Journal) : Progress Answer :=
  match scanner.phase, scanner.cursor.rest with
  | .scanning, [] => scanner.finish journal
  | .scanning, symbol :: _ =>
    match Dispatch.find scanner.expected scanner.cursor.unmarked symbol journal with
    | (.accepted acceptance, journal) => scanner.accept acceptance journal
    | (.failed cause, journal) => scanner.fail cause journal
    | (.broken fault, journal) => ⟨.stop (.broken fault), scanner, journal⟩
  | _, _ => ⟨.stop .complete, scanner, journal⟩

/-- Whether the lexeme just read is passed over. -/
def passesOver (scanner : Scanner) : Bool :=
  scanner.cursor.mark == some .elide && !scanner.settings.keepTrivia

/-- Yields a token. -/
def yield (scanner : Scanner) (token : Token) (journal : Journal) : Progress Answer :=
  if scanner.yielded < maxIndex then
    ⟨.token token, { scanner with yielded := scanner.yielded + 1 },
      journal.record (.tokenYielded token.kind token.line token.column)⟩
  else ⟨.stop (.broken .overflow), scanner, journal⟩

theorem length_rest_lt_of_step {scanner : Scanner} {journal : Journal} {token : Token}
    (h : (scanner.step journal).result = .token token) :
    (scanner.step journal).scanner.cursor.rest.length < scanner.cursor.rest.length := by
  unfold step at h ⊢
  split at h
  · simp [finish] at h
  · split at h
    · rename_i hfind
      have hlt := Dispatch.length_rest_lt_of_find (congrArg Prod.fst hfind)
      exact hlt
    · simp [fail] at h
    · simp at h
  · simp at h

/-- Reads lexemes until one is yielded or the scan ends. -/
def next (scanner : Scanner) (journal : Journal) : Progress Answer :=
  match _step : scanner.step journal with
  | ⟨.token token, after, journal⟩ =>
    if after.passesOver then next after journal else after.yield token journal
  | ⟨.stop ending, after, journal⟩ => ⟨.stop ending, after, journal⟩
termination_by scanner.cursor.rest.length
decreasing_by
  have hlt := length_rest_lt_of_step (congrArg Progress.result _step)
  rwa [_step] at hlt

theorem rest_yield (scanner : Scanner) (token : Token) (journal : Journal) :
    (scanner.yield token journal).scanner.cursor.rest = scanner.cursor.rest := by
  unfold yield
  split <;> rfl

/-- A request that yields a token leaves less to read. -/
theorem length_rest_lt_of_next {scanner : Scanner} {journal : Journal} {token : Token}
    (h : (scanner.next journal).result = .token token) :
    (scanner.next journal).scanner.cursor.rest.length < scanner.cursor.rest.length := by
  fun_induction next scanner journal with
  | case1 scanner journal read after later hstep helide ih =>
    have hlt := length_rest_lt_of_step (congrArg Progress.result hstep)
    rw [hstep] at hlt
    exact Nat.lt_trans (ih h) hlt
  | case2 scanner journal read after later hstep hkeep =>
    have hlt := length_rest_lt_of_step (congrArg Progress.result hstep)
    rw [hstep] at hlt
    rw [rest_yield]
    exact hlt
  | case3 => simp at h

end Scanner

end GrammarScan
