import Mathlib.Data.List.DropRight
import Mathlib.Data.List.TakeWhile
import Mathlib.Tactic.Lemma
import Mathlib.Tactic.SplitIfs

/-!
# Forms that show where they end

Things are written into a text one behind the other, each in a form of its own.  A form shows where it
ends (`Text.SelfDelimiting`) if a text can start with it in one way only: with the form of one thing, and
with one rest behind it.  What is made of such forms can be taken apart again from the front.

Forms of one length show where they end, and so do forms with a stop behind them that occurs in none of
them (`SelfDelimiting.of_length`, `SelfDelimiting.of_stop`).  A sequence of forms that show it shows it
too, if behind the last of them stands a stop that none of them starts with
(`SelfDelimiting.sequence`).  Numerals are forms with a stop: different numbers have different numerals,
and only digits occur in them (`selfDelimiting_numeral`).  A padded text is a form of one length, and what
is padded can be told from it (`rdropWhile_rightpad`).
-/

namespace GrammarScan.Text

/-! ## Runs up to a character -/

lemma takeWhile_ne_append {c : Char} {body : List Char} (hbody : c ∉ body) (rest : List Char) :
    (body ++ c :: rest).takeWhile (· ≠ c) = body := by
  rw [List.takeWhile_append_of_pos, List.takeWhile_cons_of_neg, List.append_nil]
  · simp
  · intro d hd
    simpa using fun hdc : d = c => hbody (hdc ▸ hd)

lemma takeWhile_ne_eq_self {c : Char} {body : List Char} (hbody : c ∉ body) :
    body.takeWhile (· ≠ c) = body := by
  rw [List.takeWhile_eq_self_iff]
  intro d hd
  simpa using fun hdc : d = c => hbody (hdc ▸ hd)

lemma takeWhile_append_of_ends {p : Char → Bool} {run rest : List Char} (hrun : ∀ c ∈ run, p c)
    (hrest : ∀ c ∈ rest.head?, p c = false) : (run ++ rest).takeWhile p = run := by
  rw [List.takeWhile_append_of_pos hrun]
  cases rest with
  | nil => simp
  | cons c rest => simp [hrest c rfl]

/-! ## Padding -/

/-- Padding can be taken off a text that does not end in it itself. -/
lemma rdropWhile_rightpad {c : Char} {cs : List Char} (h : cs.getLast? ≠ some c) (width : Nat) :
    (cs.rightpad width c).rdropWhile (· == c) = cs := by
  have hpadded : ∀ count, (cs ++ List.replicate count c).rdropWhile (· == c) = cs := by
    intro count
    induction count with
    | zero =>
      rw [List.replicate_zero, List.append_nil, List.rdropWhile_eq_self_iff]
      intro hne hlast
      rw [List.getLast?_eq_some_getLast hne, beq_iff_eq.1 hlast] at h
      exact h rfl
    | succ count ih =>
      have hlast := List.rdropWhile_concat_pos (· == c) (cs ++ List.replicate count c) c
      rw [List.replicate_succ', ← List.append_assoc, hlast (beq_self_eq_true c), ih]
  exact hpadded (width - cs.length)

/-! ## Forms -/

/-- Whether a form shows where it ends. -/
def SelfDelimiting {α : Type} (form : α → List Char) : Prop :=
  ∀ ⦃a b : α⦄ ⦃text rest : List Char⦄, form a ++ text = form b ++ rest → a = b ∧ text = rest

namespace SelfDelimiting

variable {α : Type} {form : α → List Char} {stop : Char}

lemma of_length (hinj : Function.Injective form)
    (hlength : ∀ a b, (form a).length = (form b).length) : SelfDelimiting form := by
  intro a b text rest h
  obtain ⟨hform, htext⟩ := List.append_inj h (hlength a b)
  exact ⟨hinj hform, htext⟩

lemma of_stop (hinj : Function.Injective form) (hstop : ∀ a, stop ∉ form a) :
    SelfDelimiting fun a => form a ++ [stop] := by
  intro a b text rest h
  simp only [List.append_assoc, List.singleton_append] at h
  have hform : form a = form b := by
    rw [← takeWhile_ne_append (hstop a) text, h, takeWhile_ne_append (hstop b)]
  rw [hform, List.append_cancel_left_eq] at h
  exact ⟨hinj hform, List.tail_eq_of_cons_eq h⟩

theorem sequence (hform : SelfDelimiting form) (hstop : ∀ a text rest, form a ++ text ≠ stop :: rest) :
    SelfDelimiting fun as : List α => as.flatMap form ++ [stop] := by
  intro as
  -- Two sequences are taken apart together; if one ends before the other, a form starts with the stop.
  induction as with
  | nil =>
    intro bs text rest h
    cases bs with
    | nil => exact ⟨rfl, List.tail_eq_of_cons_eq h⟩
    | cons b bs =>
      simp only [List.flatMap_cons, List.append_assoc] at h
      exact absurd h.symm (hstop b _ text)
  | cons a as ih =>
    intro bs text rest h
    simp only [List.flatMap_cons, List.append_assoc] at h
    cases bs with
    | nil => exact absurd h (hstop a _ rest)
    | cons b bs =>
      simp only [List.flatMap_cons, List.append_assoc] at h
      obtain ⟨rfl, hlater⟩ := hform h
      rw [← List.append_assoc, ← List.append_assoc] at hlater
      obtain ⟨rfl, htext⟩ := ih hlater
      exact ⟨rfl, htext⟩

end SelfDelimiting

/-! ## Numerals -/

variable {base : Nat}

/-- The sixteen digits differ. -/
lemma digitChar_inj {n m : Nat} (hn : n < 16) (hm : m < 16)
    (h : Nat.digitChar n = Nat.digitChar m) : n = m := by
  have hdigits : ∀ i j : Fin 16, Nat.digitChar i = Nat.digitChar j → i = j := by decide
  exact congrArg Fin.val (hdigits ⟨n, hn⟩ ⟨m, hm⟩ h)

/-- A numeral is its last digit with the numeral of the rest of the number in front, if there is any. -/
lemma toDigits_eq_append (hbase : 1 < base) (n : Nat) :
    Nat.toDigits base n =
      (if n < base then [] else Nat.toDigits base (n / base)) ++ [Nat.digitChar (n % base)] := by
  by_cases hn : n < base
  · rw [if_pos hn, Nat.toDigits_of_lt_base hn, Nat.mod_eq_of_lt hn, List.nil_append]
  · rw [if_neg hn]
    exact Nat.toDigits_of_base_le hbase (Nat.le_of_not_lt hn)

lemma exists_digitChar_of_mem_toDigits (hbase : 1 < base) {n : Nat} {c : Char}
    (hc : c ∈ Nat.toDigits base n) : ∃ d, c = Nat.digitChar d := by
  induction n using Nat.strongRecOn with
  | ind n ih =>
    rw [toDigits_eq_append hbase, List.mem_append] at hc
    rcases hc with hearlier | hlast
    · split at hearlier
      case isTrue => simp at hearlier
      case isFalse hle => exact ih (n / base) (Nat.div_lt_self (by omega) hbase) hearlier
    · exact ⟨n % base, List.mem_singleton.1 hlast⟩

/-- Numbers with the same numeral are the same. -/
theorem toDigits_inj (hbase : 1 < base) (hdigits : base ≤ 16) {n m : Nat}
    (h : Nat.toDigits base n = Nat.toDigits base m) : n = m := by
  have hmod : ∀ k, k % base < 16 := fun k =>
    Nat.lt_of_lt_of_le (Nat.mod_lt k (by omega)) hdigits
  induction n using Nat.strongRecOn generalizing m with
  | ind n ih =>
    rw [toDigits_eq_append hbase n, toDigits_eq_append hbase m] at h
    obtain ⟨hfront, hlast⟩ := List.append_inj' h rfl
    -- A numeral of one digit has nothing in front of it, and a longer one has a numeral there.
    have hrest : n / base = m / base := by
      split_ifs at hfront with hn hm hm
      · rw [Nat.div_eq_of_lt hn, Nat.div_eq_of_lt hm]
      · exact absurd hfront.symm Nat.toDigits_ne_nil
      · exact absurd hfront Nat.toDigits_ne_nil
      · exact ih (n / base) (Nat.div_lt_self (by omega) hbase) hfront
    have hdigit : n % base = m % base :=
      digitChar_inj (hmod n) (hmod m) (List.head_eq_of_cons_eq hlast)
    rw [← Nat.div_add_mod n base, hrest, hdigit, Nat.div_add_mod]

theorem selfDelimiting_numeral (hbase : 1 < base) (hdigits : base ≤ 16) {stop : Char}
    (hstop : ∀ d, Nat.digitChar d ≠ stop) :
    SelfDelimiting fun n => Nat.toDigits base n ++ [stop] := by
  refine .of_stop (fun n m h => toDigits_inj hbase hdigits h) fun n hmem => ?_
  obtain ⟨d, rfl⟩ := exists_digitChar_of_mem_toDigits hbase hmem
  exact hstop d rfl

end GrammarScan.Text
