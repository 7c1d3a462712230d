import GrammarScan.Fault
import GrammarScan.Text.Bytes

/-!
# Texts as buffers

A text in memory is a buffer with the bytes of its UTF-8 form, and whoever reads it in place keeps
offsets into the buffer. The operations here look into a buffer at such offsets. They give a fault
where an offset lies beyond the end and, when characters are asked for, where it lies inside one.
-/

namespace GrammarScan.Text

/-- The bytes of a text in UTF-8. -/
def bytes (cs : List Char) : List UInt8 :=
  cs.flatMap String.utf8EncodeChar

/-- The byte at an offset. -/
def byteAt (cs : List Char) (offset : Nat) : Except Fault UInt8 :=
  match (bytes cs)[offset]? with
  | some byte => .ok byte
  | none => .error (.pastEnd (offset + 1) (byteLength cs))

/-- The bytes from an offset on. -/
def bytesFrom (cs : List Char) (offset : Nat) : Except Fault (List UInt8) :=
  if offset ≤ byteLength cs then .ok ((bytes cs).drop offset)
  else .error (.pastEnd offset (byteLength cs))

/-- The characters before an offset and those behind it. -/
def cut (cs : List Char) (offset : Nat) : Except Fault (List Char × List Char) :=
  match splitAtByte? offset cs with
  | some parts => .ok parts
  | none =>
    if offset ≤ byteLength cs then .error .splitCharacter
    else .error (.pastEnd offset (byteLength cs))

/-- The characters from an offset on. -/
def charsFrom (cs : List Char) (offset : Nat) : Except Fault (List Char) := do
  let (_, rest) ← cut cs offset
  return rest

/-- The characters from one offset to another, which must not lie before it. -/
def charsBetween (cs : List Char) (start stop : Nat) : Except Fault (List Char) := do
  if start ≤ stop then
    let rest ← charsFrom cs start
    let (piece, _) ← cut rest (stop - start)
    return piece
  else .error .overflow

/-- The characters without the first `opener` and the last `closer` bytes. -/
def charsInside (cs : List Char) (opener closer : Nat) : Except Fault (List Char) :=
  if closer ≤ byteLength cs then charsBetween cs opener (byteLength cs - closer)
  else .error .overflow

/-- The characters of a text with their offsets, the first of which is `start`. -/
def withOffsets (start : Nat) : List Char → List (Nat × Char)
  | [] => []
  | c :: cs => (start, c) :: withOffsets (start + c.utf8Size) cs

/-- Whether a byte is that of a character with one byte. -/
def isByteOf (byte : UInt8) (c : Char) : Bool :=
  byte == c.toUInt8

/-- The index of the first byte that is that of one of the given characters. -/
def firstByteOf? (wanted : List Char) (bs : List UInt8) : Option Nat :=
  bs.findIdx? fun byte => wanted.any (isByteOf byte)

/-- The index of the last byte that is that of the given character. -/
def lastByteOf? (wanted : Char) : List UInt8 → Option Nat
  | [] => none
  | byte :: bs =>
    match lastByteOf? wanted bs with
    | some index => some (index + 1)
    | none => if isByteOf byte wanted then some 0 else none

/-- Where a computation that can give a fault goes well, so do its parts. -/
theorem bind_eq_ok_iff {α β : Type} {x : Except Fault α} {f : α → Except Fault β} {b : β} :
    x >>= f = .ok b ↔ ∃ a, x = .ok a ∧ f a = .ok b := by
  cases x with
  | error fault =>
    constructor
    · intro h
      cases h
    · rintro ⟨a, ha, -⟩
      cases ha
  | ok a =>
    constructor
    · intro h
      exact ⟨a, rfl, h⟩
    · rintro ⟨a', ha, hb⟩
      cases ha
      exact hb

theorem bytes_cons (c : Char) (cs : List Char) :
    bytes (c :: cs) = String.utf8EncodeChar c ++ bytes cs := rfl

theorem length_bytes (cs : List Char) : (bytes cs).length = byteLength cs := by
  induction cs with
  | nil => rfl
  | cons c cs ih =>
    rw [bytes_cons, List.length_append, String.length_utf8EncodeChar, ih, byteLength_cons]

/-- There is a byte only before the end. -/
theorem lt_of_byteAt {cs : List Char} {offset : Nat} {byte : UInt8}
    (h : byteAt cs offset = .ok byte) : offset < byteLength cs := by
  unfold byteAt at h
  split at h
  · rename_i found hfound
    obtain ⟨hlt, -⟩ := List.getElem?_eq_some_iff.1 hfound
    rwa [length_bytes] at hlt
  · cases h

end GrammarScan.Text
