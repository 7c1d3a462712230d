import GrammarScan.Proofs.Construct.Candidates
import Mathlib.Data.List.Chain

/-!
# Sequences of lexemes

What a text means must not depend on where it is cut.  Two neighbours decide that for themselves:
`Lexeme.CanPrecede` excludes a run of whitespace behind another one, which the two would merge with,
and everything behind a comment that the end of the text closes.

`isAtFrontOf_spellings` says that nothing else can go wrong: in a sequence of proper lexemes that
keeps to this, the first lexeme is the one at the front of the text, whatever is written behind it.
-/

namespace GrammarScan

namespace Construct

lemma eq_whitespace_of_startsWith {construct : Construct} {c : Char}
    (hstarts : construct.startsWith c = true) (hspace : c.isWhitespace = true) :
    construct = .whitespace := by
  have hstarters : construct ≠ .whitespace → construct.starters.all (! ·.isWhitespace) = true := by
    cases construct with
    | bracket bracket => cases bracket <;> decide
    | _ => decide
  by_contra hother
  have hmem : c ∈ construct.starters := by
    simpa [startsWith] using hstarts
  have hnot := List.all_eq_true.1 (hstarters hother) c hmem
  rw [hspace] at hnot
  exact Bool.false_ne_true hnot

lemma startsWith_asterisk (construct : Construct) : construct.startsWith '*' = false := by
  cases construct with
  | bracket bracket => cases bracket <;> rfl
  | _ => rfl

end Construct

namespace Lexeme

/-- Whether a lexeme can be written directly before another one. -/
def CanPrecede : Lexeme → Lexeme → Prop
  | .whitespace _, .whitespace _ => False
  | .lineComment _ false, _ => False
  | _, _ => True

instance (lexeme next : Lexeme) : Decidable (lexeme.CanPrecede next) := by
  unfold CanPrecede
  split <;> infer_instance

/-- The text of a sequence of lexemes. -/
def spellings (lexemes : List Lexeme) : List Char :=
  lexemes.flatMap spelling

variable {lexeme next : Lexeme} {lexemes : List Lexeme} {text : List Char}

/-- A lexeme ends where the next one starts. -/
lemma CanPrecede.endsBefore (h : lexeme.CanPrecede next) (hnext : next.IsAtFrontOf text) :
    lexeme.EndsBefore text := by
  cases lexeme with
  | whitespace run =>
    intro c hc
    obtain ⟨later, rfl⟩ := List.head?_eq_some_iff.1 hc
    by_contra hspace
    have hconstruct : next.construct = .whitespace :=
      Construct.eq_whitespace_of_startsWith hnext.startsWith (by simpa using hspace)
    cases next with
    | whitespace => exact h
    | symbol symbol => cases symbol <;> simp [construct] at hconstruct
    | _ => simp [construct] at hconstruct
  | lineComment body closed =>
    cases closed with
    | true => trivial
    | false => exact h.elim
  | symbol symbol =>
    cases symbol with
    | opening bracket =>
      cases bracket with
      | grouping =>
        intro hstar
        obtain ⟨later, rfl⟩ := List.head?_eq_some_iff.1 hstar
        have hstarts := hnext.startsWith
        rw [Construct.startsWith_asterisk] at hstarts
        exact Bool.false_ne_true hstarts
      | optional => trivial
      | repetition => trivial
    | _ => trivial
  | _ => trivial

lemma endsBefore_nil (lexeme : Lexeme) : lexeme.EndsBefore [] := by
  cases lexeme with
  | whitespace run => simp [EndsBefore]
  | lineComment body closed => cases closed <;> trivial
  | symbol symbol =>
    cases symbol with
    | opening bracket => cases bracket <;> simp [EndsBefore]
    | _ => trivial
  | _ => trivial

/-- In a sequence of proper lexemes that can be neighbours, the first one is at the front of the
text. -/
theorem isAtFrontOf_spellings (hproper : ∀ other ∈ lexeme :: lexemes, other.IsProper)
    (hchain : (lexeme :: lexemes).IsChain CanPrecede) :
    lexeme.IsAtFrontOf (spellings (lexeme :: lexemes)) := by
  induction lexemes generalizing lexeme with
  | nil =>
    obtain ⟨hfirst, -⟩ := List.forall_mem_cons.1 hproper
    exact ⟨hfirst, [], rfl, lexeme.endsBefore_nil⟩
  | cons next lexemes ih =>
    obtain ⟨hfirst, hlater⟩ := List.forall_mem_cons.1 hproper
    obtain ⟨hprecedes, hrest⟩ := List.isChain_cons_cons.1 hchain
    have hnext : next.IsAtFrontOf (spellings (next :: lexemes)) := ih hlater hrest
    exact ⟨hfirst, spellings (next :: lexemes), rfl, hprecedes.endsBefore hnext⟩

end Lexeme

end GrammarScan
