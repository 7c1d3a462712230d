import GrammarScan.Diagnostic

/-!
# Reports

A report is the log of diagnostics that scans write to. Entries are kept in the order they arrive;
none is ever changed or removed. Every operation is described by the list of entries it leaves
(`toList_push`, `toList_extend`).
-/

namespace GrammarScan

/-- Diagnostics in order of arrival. -/
structure Report where
  entries : Array Diagnostic
  deriving DecidableEq, Repr

namespace Report

/-- The report without entries. -/
def empty : Report := ⟨#[]⟩

/-- The entries, oldest first. -/
def toList (report : Report) : List Diagnostic :=
  report.entries.toList

/-- Adds an entry. -/
def push (report : Report) (diagnostic : Diagnostic) : Report :=
  ⟨report.entries.push diagnostic⟩

/-- Adds several entries in order. -/
def extend (report : Report) (diagnostics : List Diagnostic) : Report :=
  ⟨report.entries ++ diagnostics⟩

/-- Adds a finding of a given severity. -/
def addAs (report : Report) (severity : Severity) (file : FileName) (line : Nat)
    (message : String) : Report :=
  report.push ⟨file, line, message, severity⟩

/-- Adds a recoverable finding. -/
def add (report : Report) (file : FileName) (line : Nat) (message : String) : Report :=
  report.addAs .recoverable file line message

/-- The number of entries. -/
def size (report : Report) : Nat :=
  report.entries.size

/-- Whether there are no entries. -/
def isEmpty (report : Report) : Bool :=
  report.entries.isEmpty

/-- The number of entries of a severity. -/
def count (report : Report) (severity : Severity) : Nat :=
  report.entries.countP (·.severity == severity)

/-- Whether some entry is fatal. -/
def hasFatal (report : Report) : Bool :=
  report.entries.any Diagnostic.isFatal

/-- Shows every entry to a visitor, oldest first. What the visitor keeps goes from one entry to the
next. -/
def visit {α : Type} (report : Report) (visitor : α → Diagnostic → α) (kept : α) : α :=
  report.entries.foldl visitor kept

/-- The printed entries, oldest first. -/
def render (report : Report) : List String :=
  report.toList.map Diagnostic.render

@[ext] theorem ext {a b : Report} (h : a.toList = b.toList) : a = b := by
  cases a
  cases b
  exact congrArg Report.mk (Array.toList_inj.1 h)

@[simp] theorem toList_empty : empty.toList = [] := rfl

@[simp] theorem toList_push (report : Report) (diagnostic : Diagnostic) :
    (report.push diagnostic).toList = report.toList ++ [diagnostic] := by
  simp [push, toList]

@[simp] theorem toList_extend (report : Report) (diagnostics : List Diagnostic) :
    (report.extend diagnostics).toList = report.toList ++ diagnostics := by
  simp [extend, toList]

@[simp] theorem extend_nil (report : Report) : report.extend [] = report := by
  apply ext
  rw [toList_extend, List.append_nil]

end Report

end GrammarScan
