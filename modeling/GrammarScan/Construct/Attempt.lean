import GrammarScan.Construct.Basic
import GrammarScan.Report
import GrammarScan.Token

/-!
# Attempts

An attempt reads one construct at a cursor. It either refuses the input, and then nothing has
happened, or it moves over a lexeme, makes a token of it and reports what is wrong with it. An
accepted lexeme leaves less to read (`length_rest_lt_of_attempt`).
-/

namespace GrammarScan

/-- What an attempt comes to. -/
inductive Outcome where
  | refused
  | accepted (disposition : Disposition) (token : Token) (next : Cursor)
  deriving DecidableEq, Repr

/-- A construct that was read, with its token and the cursor behind it. -/
structure Acceptance where
  construct : Construct
  token : Token
  next : Cursor
  deriving DecidableEq, Repr

/-- The token of a lexeme that lies between two cursors. -/
def Lexeme.token (lexeme : Lexeme) (first next : Cursor) : Token where
  kind := lexeme.kind
  text := String.ofList lexeme.payload
  span := ⟨first.offset, next.offset⟩
  line := first.line
  column := first.column
  wellFormed := lexeme.wellFormed

namespace Construct

/-- Moves over a lexeme and makes its token. -/
def accept (construct : Construct) (lexeme : Lexeme) (cursor : Cursor) : Except Fault Outcome :=
  match cursor.move lexeme.spelling with
  | .error fault => .error fault
  | .ok (_, next) => .ok (.accepted construct.disposition (lexeme.token cursor next) next)

/-- Reads a construct at a cursor. What is wrong with its lexeme is reported before the cursor
moves; a diagnostic on a line too large to keep is a fault. -/
def attempt (construct : Construct) (cursor : Cursor) (report : Report) :
    Except Fault Outcome × Report :=
  match construct.read? cursor.rest with
  | none => (.ok .refused, report)
  | some lexeme =>
    let found := lexeme.diagnostics cursor.file cursor.line
    let citable := found.takeWhile (·.line ≤ maxIndex)
    if found.length = citable.length then
      (construct.accept lexeme cursor, report.extend citable)
    else (.error .overflow, report.extend citable)

/-- Tries constructs in turn until one accepts, and marks the cursor behind it. -/
def firstAccepting (cursor : Cursor) (report : Report) :
    List Construct → Except Fault (Option Acceptance) × Report
  | [] => (if cursor.mark.isNone then .ok none else .error .staleMark, report)
  | construct :: constructs =>
    match construct.attempt cursor report with
    | (.error fault, report) => (.error fault, report)
    | (.ok .refused, report) => firstAccepting cursor report constructs
    | (.ok (.accepted disposition token next), report) =>
      (.ok (some ⟨construct, token, next.marked disposition⟩), report)

/-- An accepted lexeme leaves less to read. -/
theorem length_rest_lt_of_attempt {construct : Construct} {cursor next : Cursor}
    {report : Report} {disposition : Disposition} {token : Token}
    (h : (construct.attempt cursor report).1 = .ok (.accepted disposition token next)) :
    next.rest.length < cursor.rest.length := by
  unfold attempt at h
  split at h
  · simp at h
  · rename_i lexeme hread
    dsimp only at h
    split at h
    · unfold accept at h
      dsimp only at h
      split at h
      · simp at h
      · rename_i taken reached hmove
        simp only [Except.ok.injEq, Outcome.accepted.injEq] at h
        obtain ⟨-, -, rfl⟩ := h
        exact Cursor.length_rest_lt_of_move (spelling_ne_nil_of_read? hread) hmove
    · simp at h

theorem length_rest_lt_of_firstAccepting {cursor : Cursor} {report : Report}
    {constructs : List Construct} {acceptance : Acceptance}
    (h : (firstAccepting cursor report constructs).1 = .ok (some acceptance)) :
    acceptance.next.rest.length < cursor.rest.length := by
  induction constructs generalizing report with
  | nil =>
    unfold firstAccepting at h
    dsimp only at h
    split at h <;> simp at h
  | cons construct constructs ih =>
    unfold firstAccepting at h
    split at h
    · simp at h
    · exact ih h
    · rename_i hattempt
      simp only [Except.ok.injEq, Option.some.injEq] at h
      subst h
      have hlt := length_rest_lt_of_attempt (congrArg Prod.fst hattempt)
      exact hlt

end Construct

end GrammarScan
