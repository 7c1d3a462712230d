import GrammarScan.Construct.StarterTable
import GrammarScan.Proofs.Grammar.Lexemes

/-!
# The constructs worth trying

A text determines the construct that can be read off its front, and with it the lexeme: this is
`Lexeme.IsAtFrontOf.unique`.  Only the two comments share a starter, and their second characters
tell them apart, so two characters of lookahead are enough (`Construct.at?`).

The table of starters loses none of the constructs that could be read: it lists, for every
character, the constructs that start with it in their order (`candidates?_ofList`).
-/

namespace GrammarScan

/-! ## The construct at the front of a text -/

/-- The construct that a text can start with, judged by its first two characters. -/
def Construct.at? : List Char → Option Construct
  | '/' :: '/' :: _ => some .lineComment
  | '/' :: '*' :: _ => some .blockComment
  | c :: _ => Construct.all.find? (·.startsWith c)
  | [] => none

namespace Lexeme

lemma IsAtFrontOf.at? {lexeme : Lexeme} {text : List Char} (h : lexeme.IsAtFrontOf text) :
    Construct.at? text = some lexeme.construct := by
  obtain ⟨hproper, rest, rfl, -⟩ := h
  cases lexeme with
  | whitespace run =>
    obtain ⟨c, later, rfl⟩ := List.exists_cons_of_ne_nil hproper.1
    rcases hproper.2 c (by simp) with rfl | rfl | rfl | rfl <;> rfl
  | lineComment body closed => rfl
  | blockComment body => rfl
  | nonTerminal name => rfl
  | terminal body => rfl
  | symbol symbol =>
    cases symbol with
    | definitionStart => rfl
    | definitionEnd => rfl
    | alternative => rfl
    | opening bracket => cases bracket <;> rfl
    | closing bracket => cases bracket <;> rfl

/-- At most one lexeme stands at the front of a text. -/
theorem IsAtFrontOf.unique {a b : Lexeme} {text : List Char} (ha : a.IsAtFrontOf text)
    (hb : b.IsAtFrontOf text) : a = b := by
  have hconstruct : a.construct = b.construct := Option.some.inj (ha.at?.symm.trans hb.at?)
  have hreada := Construct.read?_eq_some_iff.2 ⟨hconstruct, ha⟩
  have hreadb := Construct.read?_eq_some_iff.2 ⟨rfl, hb⟩
  exact Option.some.inj (hreada.symm.trans hreadb)

lemma IsAtFrontOf.startsWith {lexeme : Lexeme} {c : Char} {cs : List Char}
    (h : lexeme.IsAtFrontOf (c :: cs)) : lexeme.construct.startsWith c = true := by
  obtain ⟨hproper, rest, htext, -⟩ := h
  cases lexeme with
  | whitespace run =>
    obtain ⟨d, later, rfl⟩ := List.exists_cons_of_ne_nil hproper.1
    obtain ⟨rfl, -⟩ := List.cons.inj htext
    rcases hproper.2 c (by simp) with rfl | rfl | rfl | rfl <;> rfl
  | symbol symbol =>
    cases symbol with
    | opening bracket =>
      obtain ⟨rfl, -⟩ := List.cons.inj htext
      cases bracket <;> rfl
    | closing bracket =>
      obtain ⟨rfl, -⟩ := List.cons.inj htext
      cases bracket <;> rfl
    | _ =>
      obtain ⟨rfl, -⟩ := List.cons.inj htext
      rfl
  | _ =>
    obtain ⟨rfl, -⟩ := List.cons.inj htext
    rfl

end Lexeme

namespace Construct

lemma mem_all (construct : Construct) : construct ∈ all := by
  cases construct with
  | bracket bracket => cases bracket <;> decide
  | _ => decide

lemma starters_nodup (construct : Construct) : construct.starters.Nodup := by
  cases construct with
  | bracket bracket => cases bracket <;> decide
  | _ => decide

/-- Where one lexeme stands at the front, its construct is the only one that reads anything. -/
theorem read?_of_isAtFrontOf {lexeme : Lexeme} {text : List Char} (h : lexeme.IsAtFrontOf text)
    (construct : Construct) :
    construct.read? text = if construct = lexeme.construct then some lexeme else none := by
  split_ifs with hconstruct
  · exact read?_eq_some_iff.2 ⟨hconstruct.symm, h⟩
  · rw [read?_eq_none_iff]
    rintro other rfl hother
    exact hconstruct (by rw [hother.unique h])

/-- Where no lexeme stands at the front, no construct reads anything. -/
theorem read?_of_forall_not {text : List Char} (h : ∀ lexeme : Lexeme, ¬ lexeme.IsAtFrontOf text)
    (construct : Construct) : construct.read? text = none := by
  rw [read?_eq_none_iff]
  intro lexeme _
  exact h lexeme

end Construct

/-! ## The table of starters -/

namespace StarterTable

lemma lookup_cons_eq_ite (c d : Char) (constructs : List Construct)
    (entries : List (Char × List Construct)) :
    ((d, constructs) :: entries).lookup c =
      if c = d then some constructs else entries.lookup c := by
  by_cases h : c = d
  · simp [h]
  · simp [List.lookup_cons, beq_false_of_ne h, h]

lemma lookup_insertEntry (starter c : Char) (construct : Construct)
    (entries : List (Char × List Construct)) :
    (insertEntry starter construct entries).lookup c =
      if c = starter then some ((entries.lookup c).getD [] ++ [construct])
      else entries.lookup c := by
  induction entries with
  | nil => simp [insertEntry, lookup_cons_eq_ite]
  | cons entry entries ih =>
    obtain ⟨d, constructs⟩ := entry
    by_cases hd : d = starter
    · by_cases hc : c = starter <;> simp [insertEntry, lookup_cons_eq_ite, hd, hc]
    · by_cases hc : c = d
      · simp [insertEntry, hd, hc]
      · simp [insertEntry, lookup_cons_eq_ite, hd, hc, ih]

lemma lookup_insertStarters (c : Char) (construct : Construct) {starters : List Char}
    (hnodup : starters.Nodup) (entries : List (Char × List Construct)) :
    (starters.foldl (fun entries d => insertEntry d construct entries) entries).lookup c =
      if c ∈ starters then some ((entries.lookup c).getD [] ++ [construct])
      else entries.lookup c := by
  induction starters generalizing entries with
  | nil => simp
  | cons d starters ih =>
    obtain ⟨hd, hnodup⟩ := List.nodup_cons.1 hnodup
    rw [List.foldl_cons, ih hnodup, lookup_insertEntry]
    by_cases hc : c = d
    · subst hc
      simp [hd]
    · simp [hc]

lemma lookup_insertConstructs (c : Char) (constructs : List Construct)
    (entries : List (Char × List Construct)) :
    (constructs.foldl
        (fun entries construct =>
          construct.starters.foldl (fun entries d => insertEntry d construct entries) entries)
        entries).lookup c =
      if constructs.filter (·.startsWith c) = [] then entries.lookup c
      else some ((entries.lookup c).getD [] ++ constructs.filter (·.startsWith c)) := by
  induction constructs generalizing entries with
  | nil => simp
  | cons construct constructs ih =>
    rw [List.foldl_cons, ih, lookup_insertStarters c construct construct.starters_nodup]
    by_cases hc : c ∈ construct.starters
    · have hstarts : construct.startsWith c = true := by
        simpa [Construct.startsWith] using hc
      by_cases hlater : constructs.filter (·.startsWith c) = [] <;> simp [hc, hstarts, hlater]
    · have hstarts : construct.startsWith c = false := by
        simpa [Construct.startsWith] using hc
      simp [hc, hstarts]

/-- The table lists the constructs that start with a character in the order of the list it is
made of. -/
theorem candidates?_ofList (constructs : List Construct) (c : Char) :
    (ofList constructs).candidates? c =
      if constructs.filter (·.startsWith c) = [] then none
      else some (constructs.filter (·.startsWith c)) := by
  rw [candidates?, ofList, lookup_insertConstructs]
  simp

/-- Every construct that starts with a character is among the candidates for it. -/
lemma exists_candidates?_standard {construct : Construct} {c : Char}
    (h : construct.startsWith c = true) :
    ∃ constructs, standard.candidates? c = some constructs ∧ construct ∈ constructs := by
  have hmem : construct ∈ Construct.all.filter (·.startsWith c) :=
    List.mem_filter.2 ⟨construct.mem_all, h⟩
  refine ⟨_, ?_, hmem⟩
  rw [standard, candidates?_ofList, if_neg (List.ne_nil_of_mem hmem)]

end StarterTable

end GrammarScan
