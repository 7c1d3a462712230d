import GrammarScan.Proofs.Text.Forms
import GrammarScan.Text.Quoted

/-!
# Quoted text can be read back

Between quote marks a character has one of three forms (`Text.Escaped`): it stands for itself, it is
named by a letter behind a backslash, or its code point stands behind a backslash.  Which characters are
written by their code point is of no account here: a backslash in front tells a form of the last two
kinds from one of the first, and the letter tells them apart (`selfDelimiting_escape`).

No form starts with the mark, so the mark that ends a quoted text is the first one that no form takes up.
A quoted text therefore shows where it ends, whatever it is a quotation of (`selfDelimiting_quote`).
-/

namespace GrammarScan.Text

/-- The character that a letter behind a backslash names.  A letter that names no other character
names itself. -/
def namedBy : Char → Char
  | '0' => '\x00'
  | 't' => '\t'
  | 'r' => '\r'
  | 'n' => '\n'
  | letter => letter

/-- The forms that a character can have between quote marks. -/
inductive Escaped (mark : QuoteMark) (c : Char) : List Char → Prop where
  /-- The character stands for itself. -/
  | plain (ne_mark : c ≠ mark.char) (ne_backslash : c ≠ '\\') : Escaped mark c [c]
  /-- A letter names the character. -/
  | named (letter : Char) (ne_u : letter ≠ 'u') (names : namedBy letter = c) :
    Escaped mark c ['\\', letter]
  /-- The code point of the character stands in braces. -/
  | coded : Escaped mark c ('\\' :: 'u' :: '{' :: (Nat.toDigits 16 c.toNat ++ ['}']))

variable {mark : QuoteMark}

lemma QuoteMark.char_ne_backslash (mark : QuoteMark) : mark.char ≠ '\\' := by
  cases mark <;> decide

/-- A quote mark and a backslash are named by themselves. -/
lemma escaped_self {c : Char} (hc : c = mark.char ∨ c = '\\') : Escaped mark c ['\\', c] := by
  rcases hc with rfl | rfl
  · cases mark
    · exact .named _ (by decide) rfl
    · exact .named _ (by decide) rfl
  · exact .named _ (by decide) rfl

lemma escaped_escape (mark : QuoteMark) (c : Char) : Escaped mark c (escape mark c) := by
  unfold escape
  split_ifs with hself hnul htab hreturn hfeed hunseen
  · exact escaped_self hself
  · exact .named '0' (by decide) hnul.symm
  · exact .named 't' (by decide) htab.symm
  · exact .named 'r' (by decide) hreturn.symm
  · exact .named 'n' (by decide) hfeed.symm
  · exact .coded
  · obtain ⟨hmark, hbackslash⟩ := not_or.1 hself
    exact .plain hmark hbackslash

/-- The numeral in braces shows where it ends. -/
lemma selfDelimiting_codePoint :
    SelfDelimiting fun c : Char => Nat.toDigits 16 c.toNat ++ ['}'] := by
  intro c d text rest h
  have hnumeral : SelfDelimiting fun n => Nat.toDigits 16 n ++ ['}'] :=
    selfDelimiting_numeral (by decide) (by decide) fun _ => Nat.digitChar_ne '}' rfl
  obtain ⟨hcode, htext⟩ := hnumeral h
  exact ⟨Char.toNat_inj.1 hcode, htext⟩

namespace Escaped

variable {c d : Char} {form other text rest : List Char}

/-- No form of a character starts with the mark. -/
lemma append_ne (h : Escaped mark c form) : form ++ text ≠ mark.char :: rest := by
  intro hstart
  cases h with
  | plain hmark _ => exact hmark (List.head_eq_of_cons_eq hstart)
  | named _ _ _ => exact mark.char_ne_backslash (List.head_eq_of_cons_eq hstart).symm
  | coded => exact mark.char_ne_backslash (List.head_eq_of_cons_eq hstart).symm

/-- A text starts with a form of one character at most. -/
theorem unique (hform : Escaped mark c form) (hother : Escaped mark d other)
    (h : form ++ text = other ++ rest) : c = d ∧ text = rest := by
  -- Forms of two kinds differ in their first character or, behind a backslash, in their second.
  cases hform with
  | plain _ hbackslash =>
    cases hother with
    | plain _ _ =>
      obtain ⟨hsame, htext⟩ := List.cons.inj h
      exact ⟨hsame, htext⟩
    | named _ _ _ => exact absurd (List.head_eq_of_cons_eq h) hbackslash
    | coded => exact absurd (List.head_eq_of_cons_eq h) hbackslash
  | named letter hu hnames =>
    cases hother with
    | plain _ hbackslash => exact absurd (List.head_eq_of_cons_eq h).symm hbackslash
    | named _ _ hnamesOther =>
      obtain ⟨rfl, htext⟩ := List.cons.inj (List.tail_eq_of_cons_eq h)
      exact ⟨hnames.symm.trans hnamesOther, htext⟩
    | coded => exact absurd (List.head_eq_of_cons_eq (List.tail_eq_of_cons_eq h)) hu
  | coded =>
    cases hother with
    | plain _ hbackslash => exact absurd (List.head_eq_of_cons_eq h).symm hbackslash
    | named _ hu _ => exact absurd (List.head_eq_of_cons_eq (List.tail_eq_of_cons_eq h)).symm hu
    | coded =>
      have hbehind := List.tail_eq_of_cons_eq (List.tail_eq_of_cons_eq h)
      exact selfDelimiting_codePoint (List.tail_eq_of_cons_eq hbehind)

end Escaped

/-- A text starts with one character in its form between quote marks at most. -/
theorem selfDelimiting_escape (mark : QuoteMark) : SelfDelimiting (escape mark) :=
  fun c d _ _ h => (escaped_escape mark c).unique (escaped_escape mark d) h

/-- A text starts with one quoted text at most, whatever stands behind it. -/
theorem selfDelimiting_quote (mark : QuoteMark) : SelfDelimiting (quote mark) := by
  intro cs ds text rest h
  have hsequence : SelfDelimiting fun cs : List Char => cs.flatMap (escape mark) ++ [mark.char] :=
    (selfDelimiting_escape mark).sequence fun c _ _ => (escaped_escape mark c).append_ne
  exact hsequence (List.tail_eq_of_cons_eq h)

end GrammarScan.Text
