/-!
# Ranges of characters

A class of the Unicode standard is given by the ranges of code points that make it up.
-/

namespace GrammarScan.Unicode

/-- The characters from one code point to another, both included. -/
structure CharRange where
  first : Nat
  last : Nat
  deriving DecidableEq, Repr

/-- Whether a character lies in the range. -/
def CharRange.contains (range : CharRange) (c : Char) : Bool :=
  range.first ≤ c.toNat && c.toNat ≤ range.last

/-- Whether a character lies in one of the ranges. -/
def covers (ranges : List CharRange) (c : Char) : Bool :=
  ranges.any fun range => range.contains c

end GrammarScan.Unicode
