import GrammarScan.Construct.Attempt
import GrammarScan.Lexeme.Extent

/-!
# Scanning in place

A scanner that works in place looks into the buffer with what is left to read and takes no lexeme
apart. Its attempt at a construct (`Construct.attemptInPlace`) measures the construct, reports what
is wrong with it, moves the cursor by so many bytes and cuts the delimiters off the bytes it has
moved over. Its preview (`Cursor.previewInPlace`) cuts the buffer in front of the first character
that is too many. Any of these steps can give a fault.
-/

namespace GrammarScan

open Text

namespace Extent

/-- The diagnostics for a lexeme that starts on a given line of a file. -/
def diagnostics (extent : Extent) (file : FileName) (line : Nat) : List Diagnostic :=
  extent.defects.map fun defect => ⟨file, line + defect.1, defect.2.message, .recoverable⟩

/-- Moves over a lexeme, with a declaration of its line feeds if it has any. -/
def move (extent : Extent) (cursor : Cursor) : Except Fault (List Char × Cursor) :=
  match extent.crossing with
  | none => cursor.advance extent.length
  | some (feeds, column) => cursor.advanceLines extent.length feeds column

/-- Moves over a lexeme and makes its token. -/
def accept (extent : Extent) (disposition : Disposition) (cursor : Cursor) :
    Except Fault Outcome := do
  let (lexeme, next) ← extent.move cursor
  let text ← charsInside lexeme extent.opener extent.closer
  return .accepted disposition
    ⟨extent.kind, String.ofList text, ⟨cursor.offset, next.offset⟩, cursor.line, cursor.column,
      extent.defects.isEmpty⟩ next

end Extent

/-- Reads a construct at a cursor without taking its lexeme apart. -/
def Construct.attemptInPlace (construct : Construct) (cursor : Cursor) (report : Report) :
    Except Fault Outcome × Report :=
  if cursor.firstChar?.any construct.startsWith then
    match construct.extent? cursor.rest with
    | .error fault => (.error fault, report)
    | .ok none => (.ok .refused, report)
    | .ok (some extent) =>
      let found := extent.diagnostics cursor.file cursor.line
      let citable := found.takeWhile (·.line ≤ maxIndex)
      if found.length = citable.length then
        (extent.accept construct.disposition cursor, report.extend citable)
      else (.error .overflow, report.extend citable)
  else (.ok .refused, report)

/-- At most `limit` characters of what is left, and whether there are more, cut off in the buffer. -/
def Cursor.previewInPlace (cursor : Cursor) (limit : Nat) : Except Fault (String × Bool) :=
  match (withOffsets 0 cursor.rest)[limit]? with
  | none => .ok (String.ofList cursor.rest, false)
  | some (offset, _) => do
    let (text, _) ← cut cursor.rest offset
    return (String.ofList text, true)

end GrammarScan
