import GrammarScan.Construct.Basic

/-!
# Constructs by starter

A table from characters to the constructs that can start with them, built once from a list of
constructs. Constructs that share a starter keep the order of the list.
-/

namespace GrammarScan

/-- The constructs to try for each character that starts one, in order of first use. -/
structure StarterTable where
  entries : List (Char × List Construct)
  deriving DecidableEq, Repr

namespace StarterTable

/-- Adds a construct behind those that a character starts already. -/
def insertEntry (starter : Char) (construct : Construct) :
    List (Char × List Construct) → List (Char × List Construct)
  | [] => [(starter, [construct])]
  | (c, constructs) :: entries =>
    if c = starter then (c, constructs ++ [construct]) :: entries
    else (c, constructs) :: insertEntry starter construct entries

/-- The table of a list of constructs. -/
def ofList (constructs : List Construct) : StarterTable :=
  ⟨constructs.foldl
    (fun entries construct =>
      construct.starters.foldl (fun entries c => insertEntry c construct entries) entries)
    []⟩

/-- The table of all constructs. -/
def standard : StarterTable :=
  ofList Construct.all

/-- The constructs to try for a character; nothing when it starts none. -/
def candidates? (table : StarterTable) (c : Char) : Option (List Construct) :=
  table.entries.lookup c

/-- The number of characters that start a construct. -/
def size (table : StarterTable) : Nat :=
  table.entries.length

end StarterTable

end GrammarScan
