import GrammarScan.Proofs.Text.Quoted
import GrammarScan.Token

/-!
# What a dump says of a token

A line of a dump puts the parts of a token one behind the other: the numeral of the line up to a colon,
that of the column up to a space, the name of the kind in as many columns as every name gets, the quoted
text unless it is empty, and a note unless the token is well formed.  Each of these parts shows where it
ends, although a name may contain spaces and a text may contain the note or what looks like the end of a
quotation.  The parts that may be missing are told apart by the character behind their space, which is a
quote mark for the text and never one for the note.

So a line can be taken apart from the front, and two lines are equal exactly if the tokens agree on
everything but the span, which no line mentions (`Token.render_eq_iff`).
-/

namespace GrammarScan

namespace Kind

/-- The name of a kind, with spaces behind it up to the width that a dump leaves for names. -/
def label (kind : Kind) : List Char :=
  kind.name.toList.rightpad Token.nameWidth ' '

/-- No name is wider than what a dump leaves for it. -/
lemma length_label (kind : Kind) : kind.label.length = Token.nameWidth := by
  have hall : ∀ kind ∈ all, kind.label.length = Token.nameWidth := by decide
  exact hall kind kind.mem_all

/-- No name ends in a space, so the spaces behind a name can be taken off again. -/
lemma rdropWhile_label (kind : Kind) : kind.label.rdropWhile (· == ' ') = kind.name.toList := by
  have hall : ∀ kind ∈ all, kind.name.toList.getLast? ≠ some ' ' := by decide
  exact Text.rdropWhile_rightpad (hall kind kind.mem_all) Token.nameWidth

lemma label_injective : Function.Injective label := by
  intro a b h
  have hnames : a.name.toList = b.name.toList := by
    rw [← rdropWhile_label, h, rdropWhile_label]
  exact name_injective (String.toList_inj.1 hnames)

lemma selfDelimiting_label : Text.SelfDelimiting label :=
  .of_length label_injective fun a b => by rw [length_label, length_label]

end Kind

namespace Token

/-! ## The parts of a line -/

/-- The quoted text with a space in front, or nothing for the empty text. -/
def quotation (text : String) : List Char :=
  if text.isEmpty then [] else ' ' :: Text.quote .double text.toList

/-- What a dump says about whether a token is well formed. -/
def note (wellFormed : Bool) : List Char :=
  if wellFormed then [] else " (malformed)".toList

lemma toList_render (token : Token) :
    token.render.toList =
      (Nat.toDigits 10 token.line ++ [':']) ++ ((Nat.toDigits 10 token.column ++ [' ']) ++
        (token.kind.label ++ (quotation token.text ++ note token.wellFormed))) := by
  unfold render Kind.label quotation note
  rw [String.toList_ofList]
  simp only [List.append_assoc, List.cons_append, List.nil_append]

lemma note_injective : Function.Injective note := by
  unfold Function.Injective
  decide

/-- How every quotation of a text that is not empty starts. -/
def quotationStart : List Char := [' ', '"']

lemma not_quotationStart_note (wellFormed : Bool) : ¬ quotationStart <+: note wellFormed := by
  cases wellFormed <;> decide

lemma quotation_empty : quotation "" = [] := rfl

lemma quotation_of_ne {text : String} (h : text ≠ "") :
    quotation text = ' ' :: Text.quote .double text.toList := by
  rw [quotation, if_neg (by rwa [String.isEmpty_iff])]

lemma quotationStart_quotation {text : String} (h : text ≠ "") (behind : List Char) :
    quotationStart <+: quotation text ++ behind := by
  rw [quotation_of_ne h]
  exact ⟨text.toList.flatMap (Text.escape .double) ++ ['"'] ++ behind, rfl⟩

/-- A text that starts with a quotation, or with none, does so in one way only, as long as what stands
behind does not look like the start of a quotation. -/
theorem quotation_append_inj {text other : String} {behind rest : List Char}
    (hbehind : ¬ quotationStart <+: behind) (hrest : ¬ quotationStart <+: rest)
    (h : quotation text ++ behind = quotation other ++ rest) : text = other ∧ behind = rest := by
  -- If just one of the texts is empty, a quotation starts where none can.
  by_cases htext : text = ""
  · by_cases hother : other = ""
    · subst htext hother
      exact ⟨rfl, List.append_cancel_left h⟩
    · subst htext
      have hstart := quotationStart_quotation hother rest
      rw [← h, quotation_empty, List.nil_append] at hstart
      exact absurd hstart hbehind
  · by_cases hother : other = ""
    · subst hother
      have hstart := quotationStart_quotation htext behind
      rw [h, quotation_empty, List.nil_append] at hstart
      exact absurd hstart hrest
    · rw [quotation_of_ne htext, quotation_of_ne hother] at h
      obtain ⟨hquoted, hend⟩ := Text.selfDelimiting_quote .double (List.tail_eq_of_cons_eq h)
      exact ⟨String.toList_inj.1 hquoted, hend⟩

/-! ## The line -/

/-- Two tokens have the same line in a dump exactly if they agree on their kind, their text, their
position and on whether they are well formed. -/
theorem render_eq_iff (token other : Token) :
    token.render = other.render ↔
      token.kind = other.kind ∧ token.text = other.text ∧ token.line = other.line ∧
        token.column = other.column ∧ token.wellFormed = other.wellFormed := by
  have hnumeral : ∀ stop, (∀ d, Nat.digitChar d ≠ stop) →
      Text.SelfDelimiting fun n => Nat.toDigits 10 n ++ [stop] :=
    fun _ => Text.selfDelimiting_numeral (by decide) (by decide)
  rw [← String.toList_inj, toList_render, toList_render]
  constructor
  · intro h
    obtain ⟨hline, hbehind⟩ := hnumeral ':' (fun _ => Nat.digitChar_ne ':' rfl) h
    obtain ⟨hcolumn, hbehind⟩ := hnumeral ' ' (fun _ => Nat.digitChar_ne ' ' rfl) hbehind
    obtain ⟨hkind, hbehind⟩ := Kind.selfDelimiting_label hbehind
    obtain ⟨htext, hnote⟩ :=
      quotation_append_inj (not_quotationStart_note _) (not_quotationStart_note _) hbehind
    exact ⟨hkind, htext, hline, hcolumn, note_injective hnote⟩
  · rintro ⟨hkind, htext, hline, hcolumn, hwellFormed⟩
    rw [hkind, htext, hline, hcolumn, hwellFormed]

/-- A text that ends like a quotation and a note stays apart from a note. -/
example :
    (Token.mk .terminal "a\" (malformed)" ⟨0, 17⟩ 1 1 true).render ≠
      (Token.mk .terminal "a" ⟨0, 3⟩ 1 1 false).render := by
  decide

end Token

end GrammarScan
