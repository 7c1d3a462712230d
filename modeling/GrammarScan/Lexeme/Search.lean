import GrammarScan.Lexeme.Basic
import GrammarScan.Text.Buffer

/-!
# Searches through a buffer

The end of a lexeme can be found in a buffer without taking the lexeme apart: from one byte of
interest to the next, with a count of the line feeds on the way. A `Sweep` says how far a search has
come. A `Search` says what to do at each byte of interest and carries the proof that it gets on
(`Turn.lt_of_comment`, `Turn.lt_of_text`), so that `Search.run` comes to an end. Every look into the
buffer can give a fault, and then the search gives no other result.
-/

namespace GrammarScan

open Text

/-- How far a search has come. -/
structure Sweep where
  offset : Nat
  /-- The number of line feeds passed. -/
  feeds : Nat
  /-- The offset behind the last of them. -/
  lineStart : Nat
  deriving DecidableEq, Repr

namespace Sweep

/-- A search that starts at an offset. -/
def startAt (offset : Nat) : Sweep :=
  ⟨offset, 0, 0⟩

/-- Goes on to an offset. -/
def goTo (sweep : Sweep) (offset : Nat) : Sweep :=
  { sweep with offset }

/-- Notes that the character just passed is a line feed. -/
def passFeed (sweep : Sweep) : Sweep :=
  { sweep with feeds := sweep.feeds + 1, lineStart := sweep.offset }

/-- The number of line feeds passed and the column reached, where there are any. -/
def crossing (sweep : Sweep) (cs : List Char) : Except Fault (Option (Nat × Nat)) :=
  if sweep.feeds = 0 then .ok none
  else do
    let lastLine ← charsBetween cs sweep.lineStart sweep.offset
    return some (sweep.feeds, 1 + lastLine.length)

end Sweep

/-! ## One turn of a search -/

/-- What a search does at a byte of interest. -/
inductive Turn where
  | refuse
  | close (sweep : Sweep)
  | goOn (sweep : Sweep)
  deriving DecidableEq, Repr

namespace Turn

/-- The offset of the next byte of interest, and that byte. -/
def seek (wanted : List Char) (cs : List Char) (sweep : Sweep) :
    Except Fault (Option (Nat × UInt8)) := do
  match firstByteOf? wanted (← bytesFrom cs sweep.offset) with
  | none => return none
  | some index => return some (sweep.offset + index, ← byteAt cs (sweep.offset + index))

/-- Passes the character behind a backslash, which has to be there. -/
def escape (cs : List Char) (sweep : Sweep) (found : Nat) : Except Fault Turn := do
  match (← charsFrom cs (found + 1)).head? with
  | none => return .refuse
  | some c =>
    let next := sweep.goTo (found + 1 + c.utf8Size)
    return .goOn (if c = '\n' then next.passFeed else next)

/-- Goes on to the next byte of interest in a comment. A slash closes the comment if there is an
asterisk before it that no backslash has taken; one that has been taken lies before the offset that
the search has come to. -/
def comment (cs : List Char) (sweep : Sweep) : Except Fault Turn := do
  match ← seek ['/', '\\', '\n'] cs sweep with
  | none => return .refuse
  | some (found, byte) =>
    if isByteOf byte '\n' then return .goOn (sweep.goTo (found + 1)).passFeed
    else if isByteOf byte '\\' then escape cs sweep found
    else if sweep.offset < found then
      let previous ← byteAt cs (found - 1)
      if isByteOf previous '*' then return .close (sweep.goTo (found + 1))
      else return .goOn (sweep.goTo (found + 1))
    else return .goOn (sweep.goTo (found + 1))

/-- Goes on to the next byte of interest in a quoted text. -/
def text (cs : List Char) (sweep : Sweep) : Except Fault Turn := do
  match ← seek ['"', '\n', '\\'] cs sweep with
  | none => return .refuse
  | some (found, byte) =>
    if isByteOf byte '"' then return .close (sweep.goTo (found + 1))
    else if isByteOf byte '\n' then return .refuse
    else escape cs sweep found

variable {wanted cs : List Char} {sweep next : Sweep} {found : Nat}

theorem le_of_seek {byte : UInt8} (h : seek wanted cs sweep = .ok (some (found, byte))) :
    sweep.offset ≤ found ∧ found < byteLength cs := by
  obtain ⟨bs, -, hfirst⟩ := bind_eq_ok_iff.1 h
  split at hfirst
  · cases hfirst
  · rename_i index _
    obtain ⟨first, hbyte, hfound⟩ := bind_eq_ok_iff.1 hfirst
    cases hfound
    exact ⟨Nat.le_add_right _ _, lt_of_byteAt hbyte⟩

theorem lt_of_escape (h : escape cs sweep found = .ok (.goOn next)) : found < next.offset := by
  obtain ⟨rest, -, hturn⟩ := bind_eq_ok_iff.1 h
  split at hturn
  · cases hturn
  · rename_i c _
    cases hturn
    split
    · show found < found + 1 + c.utf8Size
      omega
    · show found < found + 1 + c.utf8Size
      omega

/-- A turn in a comment gets on. -/
theorem lt_of_comment (h : comment cs sweep = .ok (.goOn next)) :
    sweep.offset < next.offset ∧ sweep.offset < byteLength cs := by
  obtain ⟨sought, hseek, hturn⟩ := bind_eq_ok_iff.1 h
  split at hturn
  · cases hturn
  · rename_i found byte
    obtain ⟨hle, hlt⟩ := le_of_seek hseek
    have hnext : found < next.offset := by
      split at hturn
      · cases hturn
        exact Nat.lt_succ_self found
      · split at hturn
        · exact lt_of_escape hturn
        · split at hturn
          · obtain ⟨previous, -, hclose⟩ := bind_eq_ok_iff.1 hturn
            split at hclose
            · cases hclose
            · cases hclose
              exact Nat.lt_succ_self found
          · cases hturn
            exact Nat.lt_succ_self found
    omega

/-- A turn in a quoted text gets on. -/
theorem lt_of_text (h : text cs sweep = .ok (.goOn next)) :
    sweep.offset < next.offset ∧ sweep.offset < byteLength cs := by
  obtain ⟨sought, hseek, hturn⟩ := bind_eq_ok_iff.1 h
  split at hturn
  · cases hturn
  · obtain ⟨hle, hlt⟩ := le_of_seek hseek
    split at hturn
    · cases hturn
    · split at hturn
      · cases hturn
      · have hnext := lt_of_escape hturn
        omega

end Turn

/-- A search through a text, turn by turn. -/
structure Search where
  turn : List Char → Sweep → Except Fault Turn
  /-- A turn that goes on ends behind its start, which lies before the end of the text. -/
  advances : ∀ {cs sweep next}, turn cs sweep = .ok (.goOn next) →
    sweep.offset < next.offset ∧ sweep.offset < byteLength cs

namespace Search

/-- Takes turns until one of them closes or refuses. -/
def run (search : Search) (cs : List Char) (sweep : Sweep) : Except Fault (Option Sweep) :=
  match _hturn : search.turn cs sweep with
  | .error fault => .error fault
  | .ok .refuse => .ok none
  | .ok (.close last) => .ok (some last)
  | .ok (.goOn next) => run search cs next
termination_by byteLength cs - sweep.offset
decreasing_by
  have hadvances := search.advances _hturn
  omega

/-- The search for the end of a comment between delimiters. -/
def comment : Search :=
  ⟨Turn.comment, Turn.lt_of_comment⟩

/-- The search for the end of a quoted text. -/
def text : Search :=
  ⟨Turn.text, Turn.lt_of_text⟩

end Search

/-- The search for the end of a name, which looks at every character and notes what is wrong with
it. -/
def Sweep.throughName (sweep : Sweep) : List Char → Option (Sweep × List (Nat × NameDefect))
  | [] => none
  | c :: cs =>
    let next := sweep.goTo (sweep.offset + c.utf8Size)
    if c = '>' then some (next, [])
    else if c = '\n' then
      (next.passFeed.throughName cs).map fun (last, defects) =>
        (last, (sweep.feeds, .lineBreak) :: defects)
    else if c ∈ forbiddenInName then
      (next.throughName cs).map fun (last, defects) =>
        (last, (sweep.feeds, .forbidden c) :: defects)
    else next.throughName cs

end GrammarScan
