/-!
# Byte lengths

Offsets count the bytes of a text's UTF-8 form, while a text itself is a list of characters. A
number of bytes may therefore end inside a character. The main statement, `splitAtByte?_eq_some_iff`,
says that a text is cut after `n` bytes exactly where its first part has `n` bytes.
-/

namespace GrammarScan.Text

/-- The number of bytes of a text in UTF-8. -/
def byteLength : List Char → Nat
  | [] => 0
  | c :: cs => c.utf8Size + byteLength cs

/-- The first `n` bytes of a text and what follows them; nothing when there are fewer or when they
end inside a character. -/
def splitAtByte? : Nat → List Char → Option (List Char × List Char)
  | 0, cs => some ([], cs)
  | _ + 1, [] => none
  | n + 1, c :: cs =>
    if c.utf8Size ≤ n + 1 then
      (splitAtByte? (n + 1 - c.utf8Size) cs).map fun (taken, left) => (c :: taken, left)
    else none

@[simp] theorem byteLength_nil : byteLength [] = 0 := rfl

@[simp] theorem byteLength_cons (c : Char) (cs : List Char) :
    byteLength (c :: cs) = c.utf8Size + byteLength cs := rfl

@[simp] theorem byteLength_append (cs ds : List Char) :
    byteLength (cs ++ ds) = byteLength cs + byteLength ds := by
  induction cs with
  | nil => simp
  | cons c cs ih => simp [ih, Nat.add_assoc]

theorem length_le_byteLength (cs : List Char) : cs.length ≤ byteLength cs := by
  induction cs with
  | nil => simp
  | cons c cs ih =>
    have := c.utf8Size_pos
    simp only [List.length_cons, byteLength_cons]
    omega

theorem splitAtByte?_append (cs ds : List Char) :
    splitAtByte? (byteLength cs) (cs ++ ds) = some (cs, ds) := by
  induction cs with
  | nil => simp [splitAtByte?]
  | cons c cs ih =>
    obtain ⟨n, hn⟩ : ∃ n, c.utf8Size + byteLength cs = n + 1 :=
      ⟨c.utf8Size + byteLength cs - 1, by have := c.utf8Size_pos; omega⟩
    have hsub : n + 1 - c.utf8Size = byteLength cs := by omega
    have hle : c.utf8Size ≤ n + 1 := by omega
    simp [splitAtByte?, hn, hsub, hle, ih]

theorem eq_append_of_splitAtByte? {n : Nat} {cs ds es : List Char}
    (h : splitAtByte? n cs = some (ds, es)) : cs = ds ++ es ∧ byteLength ds = n := by
  fun_induction splitAtByte? n cs generalizing ds es with
  | case1 cs =>
    obtain ⟨rfl, rfl⟩ := Prod.mk.inj (Option.some.inj h)
    simp
  | case2 => simp at h
  | case3 n c cs hle ih =>
    obtain ⟨⟨taken, left⟩, hsplit, hcons⟩ := Option.map_eq_some_iff.1 h
    obtain ⟨rfl, rfl⟩ := Prod.mk.inj hcons
    obtain ⟨rfl, hlen⟩ := ih hsplit
    refine ⟨rfl, ?_⟩
    simp only [byteLength_cons, hlen]
    omega
  | case4 => simp at h

/-- A text is cut after `n` bytes exactly where its first part has `n` bytes. -/
theorem splitAtByte?_eq_some_iff {n : Nat} {cs ds es : List Char} :
    splitAtByte? n cs = some (ds, es) ↔ cs = ds ++ es ∧ byteLength ds = n := by
  refine ⟨eq_append_of_splitAtByte?, ?_⟩
  rintro ⟨rfl, rfl⟩
  exact splitAtByte?_append ds es

end GrammarScan.Text
