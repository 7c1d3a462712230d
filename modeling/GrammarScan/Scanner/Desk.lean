import GrammarScan.Scanner.InPlace

/-!
# Attempts on a desk

A scanner does not hand cursors and reports on from one attempt to the next: it has one of each, and
every attempt changes them where they are. A `Desk` holds the two. An attempt on a desk
(`Construct.attemptOn`) does the steps of an attempt in place in their order: it measures the
construct, writes down what is wrong with it, moves the cursor and makes the token. A list of
constructs is tried on one and the same desk (`Construct.attemptInTurn`).

`Desk.Work.on` says what a computation comes to on a desk, and the lemmas beside it say so for each way
to put one together.
-/

namespace GrammarScan

open Text

/-- The cursor and the report that attempts change. -/
structure Desk where
  cursor : Cursor
  report : Report
  deriving DecidableEq, Repr

namespace Desk

/-- A computation that changes a desk and can give a fault. What it has done before the fault stays
done. -/
abbrev Work (α : Type) : Type :=
  ExceptT Fault (StateM Desk) α

/-- What a computation comes to, and how it leaves the desk. -/
def Work.on {α : Type} (work : Work α) (desk : Desk) : Except Fault α × Desk :=
  (work.run.run desk).run

/-- Writes diagnostics into the report one after the other. A line too large to keep is a fault. -/
def write : List Diagnostic → Work Unit
  | [] => return
  | diagnostic :: found =>
    if maxIndex < diagnostic.line then throw .overflow
    else do
      modify fun desk => { desk with report := desk.report.push diagnostic }
      write found

/-- Moves the cursor over a lexeme and hands the lexeme out. -/
def take (extent : Extent) : Work (List Char) := do
  let (lexeme, next) ← extent.move (← get).cursor
  modify fun desk => { desk with cursor := next }
  return lexeme

/-- Notes what becomes of the lexeme just read. -/
def mark (disposition : Disposition) : Work Unit :=
  modify fun desk => { desk with cursor := desk.cursor.marked disposition }

namespace Work

variable {α β : Type}

@[simp] theorem on_pure (a : α) (desk : Desk) : (pure a : Work α).on desk = (.ok a, desk) := rfl

theorem on_bind (work : Work α) (next : α → Work β) (desk : Desk) :
    (work >>= next).on desk =
      match work.on desk with
      | (.ok a, desk) => (next a).on desk
      | (.error fault, desk) => (.error fault, desk) := by
  simp only [on, ExceptT.run_bind, StateT.run_bind, Id.run_bind]
  cases (work.run.run desk).run with
  | mk result after =>
    cases result with
    | ok a => rfl
    | error fault => rfl

@[simp] theorem on_get (desk : Desk) : (get : Work Desk).on desk = (.ok desk, desk) := rfl

@[simp] theorem on_modify (change : Desk → Desk) (desk : Desk) :
    (modify change : Work PUnit).on desk = (.ok ⟨⟩, change desk) := rfl

@[simp] theorem on_throw (fault : Fault) (desk : Desk) :
    (throw fault : Work α).on desk = (.error fault, desk) := rfl

@[simp] theorem on_lift (result : Except Fault α) (desk : Desk) :
    (liftM result : Work α).on desk = (result, desk) := rfl

end Work

@[simp] theorem on_take (extent : Extent) (desk : Desk) :
    (take extent).on desk =
      match extent.move desk.cursor with
      | .ok (lexeme, next) => (.ok lexeme, { desk with cursor := next })
      | .error fault => (.error fault, desk) := by
  unfold take
  rw [Work.on_bind, Work.on_get]
  dsimp only
  rw [Work.on_bind, Work.on_lift]
  cases extent.move desk.cursor with
  | ok moved => rfl
  | error fault => rfl

end Desk

namespace Construct

/-- Reads a construct at the cursor on the desk. -/
def attemptOn (construct : Construct) : Desk.Work (Option (Disposition × Token)) := do
  let start := (← get).cursor
  if start.firstChar?.any construct.startsWith then
    match ← construct.extent? start.rest with
    | none => return none
    | some extent =>
      Desk.write (extent.diagnostics start.file start.line)
      let lexeme ← Desk.take extent
      let text ← charsInside lexeme extent.opener extent.closer
      let stop := (← get).cursor.offset
      return some (construct.disposition,
        ⟨extent.kind, String.ofList text, ⟨start.offset, stop⟩, start.line, start.column,
          extent.defects.isEmpty⟩)
  else return none

/-- Tries constructs in turn until one accepts, and marks the cursor behind it. -/
def attemptInTurn : List Construct → Desk.Work (Option (Construct × Token))
  | [] => return none
  | construct :: constructs => do
    match ← construct.attemptOn with
    | some (disposition, token) =>
      Desk.mark disposition
      return some (construct, token)
    | none => attemptInTurn constructs

end Construct

end GrammarScan
