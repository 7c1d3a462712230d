import GrammarScan.Construct.Attempt

/-!
# Sessions with a cursor

Whoever has a cursor may move it with numbers of their own, attempt constructs with it, mark it, and
keep copies to go back to. A `Session` holds the cursor, the copies and the report that the attempts
write to. `Session.performAll` performs operations one after the other, up to the first fault.
-/

namespace GrammarScan

/-- A cursor in use. -/
structure Session where
  cursor : Cursor
  /-- The copies of the cursor that were saved, the last one first. -/
  copies : List Cursor
  report : Report
  deriving DecidableEq, Repr

namespace Session

/-- What can be done with a cursor. -/
inductive Operation where
  | advance (count : Nat)
  | advanceLines (count feeds column : Nat)
  | attempt (construct : Construct)
  | mark (disposition : Disposition)
  | unmark
  /-- Keeps a copy of the cursor. -/
  | save
  /-- Goes back to a copy, by its place among the copies, or to the start if there is no such copy. -/
  | restore (index : Nat)
  deriving DecidableEq, Repr

/-- The session that begins at the start of a source. -/
def start (source : Source) (report : Report) : Session :=
  ⟨Cursor.start source, [], report⟩

/-- The copy in a place, or the cursor at the start of the source if there is no such copy. -/
def copy (session : Session) (index : Nat) : Cursor :=
  session.copies.getD index (Cursor.start session.cursor.source)

/-- Performs one operation. A refused attempt leaves the cursor where it is. -/
def perform (session : Session) : Operation → Except Fault Session
  | .advance count => do
    let (_, cursor) ← session.cursor.advance count
    return { session with cursor }
  | .advanceLines count feeds column => do
    let (_, cursor) ← session.cursor.advanceLines count feeds column
    return { session with cursor }
  | .attempt construct =>
    match construct.attempt session.cursor session.report with
    | (.error fault, _) => .error fault
    | (.ok .refused, report) => .ok { session with report }
    | (.ok (.accepted _ _ cursor), report) => .ok { session with cursor, report }
  | .mark disposition => .ok { session with cursor := session.cursor.marked disposition }
  | .unmark => .ok { session with cursor := session.cursor.unmarked }
  | .save => .ok { session with copies := session.cursor :: session.copies }
  | .restore index => .ok { session with cursor := session.copy index }

/-- Performs operations in order, up to the first fault. -/
def performAll (session : Session) (operations : List Operation) : Except Fault Session :=
  operations.foldlM perform session

end Session

end GrammarScan
