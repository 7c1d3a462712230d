/-!
# Lines and columns

A line feed ends a line, and nothing else does. Columns count characters from 1. Reading a text in
two parts gives the same column as reading it whole (`columnAfter_append`).
-/

namespace GrammarScan.Text

/-- The number of line feeds in a text. -/
def lineFeeds (cs : List Char) : Nat :=
  cs.count '\n'

/-- The column reached by reading a text from a given column: a line feed goes back to column 1 and
every other character goes one on. -/
def columnAfter (column : Nat) (cs : List Char) : Nat :=
  cs.foldl (fun column c => if c = '\n' then 1 else column + 1) column

@[simp] theorem lineFeeds_nil : lineFeeds [] = 0 := rfl

theorem lineFeeds_cons (c : Char) (cs : List Char) :
    lineFeeds (c :: cs) = lineFeeds cs + if c = '\n' then 1 else 0 := by
  simp [lineFeeds, List.count_cons]

@[simp] theorem lineFeeds_append (cs ds : List Char) :
    lineFeeds (cs ++ ds) = lineFeeds cs + lineFeeds ds := by
  simp [lineFeeds]

theorem lineFeeds_eq_zero_iff {cs : List Char} : lineFeeds cs = 0 ↔ '\n' ∉ cs := by
  simp [lineFeeds, List.count_eq_zero]

@[simp] theorem columnAfter_nil (column : Nat) : columnAfter column [] = column := rfl

@[simp] theorem columnAfter_append (column : Nat) (cs ds : List Char) :
    columnAfter column (cs ++ ds) = columnAfter (columnAfter column cs) ds := by
  simp [columnAfter]

end GrammarScan.Text
