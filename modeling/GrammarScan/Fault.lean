/-!
# Faults

A fault is a broken promise of the caller, as opposed to a defect of the grammar text being
scanned: the cursor was asked to move past the end of its input, into the middle of a character,
over a line feed it was told is not there, or to a position too large to keep. An operation that
finds a fault gives no other result.
-/

namespace GrammarScan

/-- The largest number an offset, a line, a column or a count may reach. -/
def maxIndex : Nat := UInt64.size - 1

/-- The promises a caller of the cursor and of the scanner can break. -/
inductive Fault where
  /-- More bytes were asked for than the `left` ones that remain. -/
  | pastEnd (asked left : Nat)
  /-- The bytes asked for end inside a character. -/
  | splitCharacter
  /-- The bytes asked for hold a line feed that the caller did not declare. -/
  | lineBreakCrossed (asked : Nat)
  /-- The bytes asked for do not hold the number of line feeds that the caller declared. -/
  | lineCountMismatch
  /-- A number left the range from zero to `maxIndex`. -/
  | overflow
  /-- A cursor was still marked as matched after every construct had refused its input. -/
  | staleMark
  deriving DecidableEq, Repr

/-- The wording of a fault, for those that have one. -/
def Fault.message? : Fault → Option String
  | .pastEnd asked left => some s!"advance({asked}) past end of input ({left} bytes left)"
  | .lineBreakCrossed asked => some s!"advance({asked}) crossed a line break; use advance_lines"
  | _ => none

end GrammarScan
