import GrammarScan.Lexeme.Reader
import Mathlib.Tactic.Lemma

/-!
# Bodies of comments and of quoted texts

A comment and a quoted text both end at a delimiter that a backslash can take out of play.  This
file says what may stand before that delimiter without referring to how it is searched for, and
proves that the two searches find exactly this.

`ClosesAfter body text` reads a comment from the left and stops at its first closing delimiter;
`commentBody?_eq_some_iff` says that the search for the delimiter answers with the `body` of this
relation.  `QuotedBody` describes a quoted text as a sequence of units, each a plain character or a
backslash with the character it takes; `terminalBody?_eq_some_iff` says that the search for the
closing mark answers with the one sequence of units in front of a mark.
-/

namespace GrammarScan.Lexeme

/-! ## Comments between delimiters -/

/-- Read from the left, with a backslash taking the next character out of play, `text` shows its
first closing delimiter right behind `body`. -/
inductive ClosesAfter : List Char → List Char → Prop
  | here (rest : List Char) : ClosesAfter [] ('*' :: '/' :: rest)
  | escaped (c : Char) {body text : List Char} (h : ClosesAfter body text) :
      ClosesAfter ('\\' :: c :: body) ('\\' :: c :: text)
  | plain {c : Char} {body text : List Char} (hescape : c ≠ '\\')
      (hclose : c = '*' → text.head? ≠ some '/') (h : ClosesAfter body text) :
      ClosesAfter (c :: body) (c :: text)

/-- The delimiter stands where the body ends, and what follows it has no part in the reading. -/
lemma ClosesAfter.exists_append {body text : List Char} (h : ClosesAfter body text) :
    ∃ rest, text = body ++ '*' :: '/' :: rest ∧
      ∀ other, ClosesAfter body (body ++ '*' :: '/' :: other) := by
  induction h with
  | here rest => exact ⟨rest, rfl, fun other => .here other⟩
  | escaped c h ih =>
    obtain ⟨rest, rfl, hother⟩ := ih
    exact ⟨rest, rfl, fun other => .escaped c (hother other)⟩
  | @plain c body text hescape hclose h ih =>
    obtain ⟨rest, rfl, hother⟩ := ih
    refine ⟨rest, rfl, fun other => .plain hescape ?_ (hother other)⟩
    -- the character behind `c` is the same whatever follows the delimiter
    intro hstar
    have hnext := hclose hstar
    cases body with
    | nil => simp
    | cons d body => simpa using hnext

lemma commentBody?_cons {c : Char} {text : List Char} (hescape : c ≠ '\\')
    (hclose : c = '*' → text.head? ≠ some '/') :
    commentBody? (c :: text) = (commentBody? text).map (c :: ·) := by
  rw [commentBody?.eq_3]
  · intro d tail hc
    exact absurd hc hescape
  · rintro tail rfl rfl
    exact hclose rfl rfl

/-- The search for the closing delimiter finds the first one. -/
theorem commentBody?_eq_some_iff {text body : List Char} :
    commentBody? text = some body ↔ ClosesAfter body text := by
  constructor
  · intro h
    fun_induction commentBody? text generalizing body with
    | case1 c text ih =>
      obtain ⟨later, hlater, rfl⟩ := Option.map_eq_some_iff.1 h
      exact .escaped c (ih hlater)
    | case2 rest =>
      obtain rfl := Option.some.inj h
      exact .here rest
    | case3 c text hescape hclose ih =>
      obtain ⟨later, hlater, rfl⟩ := Option.map_eq_some_iff.1 h
      have hread := ih hlater
      refine .plain ?_ ?_ hread
      · -- a backslash has a character behind it here, as the comment goes on
        rintro rfl
        cases hread with
        | here rest => exact hescape _ _ rfl rfl
        | escaped d _ => exact hescape _ _ rfl rfl
        | plain _ _ _ => exact hescape _ _ rfl rfl
      · rintro rfl hhead
        obtain ⟨tail, rfl⟩ := List.head?_eq_some_iff.1 hhead
        exact hclose tail rfl rfl
    | case4 => simp at h
  · intro h
    induction h with
    | here rest => rfl
    | escaped c h ih => rw [commentBody?, ih, Option.map_some]
    | plain hescape hclose h ih =>
      rw [commentBody?_cons hescape hclose, ih, Option.map_some]

instance (body text : List Char) : Decidable (ClosesAfter body text) :=
  decidable_of_iff (commentBody? text = some body) commentBody?_eq_some_iff

/-! ## Quoted texts -/

/-- A sequence of units: a plain character, which is no quote mark, backslash or line feed, or a
backslash with any one character. -/
inductive QuotedBody : List Char → Prop
  | nil : QuotedBody []
  | plain {c : Char} {body : List Char} (hquote : c ≠ '"') (hescape : c ≠ '\\')
      (hfeed : c ≠ '\n') (h : QuotedBody body) : QuotedBody (c :: body)
  | escaped (c : Char) {body : List Char} (h : QuotedBody body) :
      QuotedBody ('\\' :: c :: body)

lemma terminalBody?_cons {c : Char} {text : List Char} (hquote : c ≠ '"') (hescape : c ≠ '\\')
    (hfeed : c ≠ '\n') : terminalBody? (c :: text) = (terminalBody? text).map (c :: ·) := by
  rw [terminalBody?.eq_3, if_neg hfeed]
  · intro d tail hc
    exact absurd hc hescape
  · exact hquote

lemma terminalBody?_append_quote {body : List Char} (h : QuotedBody body) (rest : List Char) :
    terminalBody? (body ++ '"' :: rest) = some body := by
  induction h with
  | nil => rfl
  | plain hquote hescape hfeed h ih =>
    rw [List.cons_append, terminalBody?_cons hquote hescape hfeed, ih, Option.map_some]
  | escaped c h ih =>
    rw [List.cons_append, List.cons_append, terminalBody?, ih, Option.map_some]

/-- The search for the closing mark finds the end of a sequence of units. -/
theorem terminalBody?_eq_some_iff {text body : List Char} :
    terminalBody? text = some body ↔ QuotedBody body ∧ ∃ rest, text = body ++ '"' :: rest := by
  constructor
  · intro h
    fun_induction terminalBody? text generalizing body with
    | case1 c text ih =>
      obtain ⟨later, hlater, rfl⟩ := Option.map_eq_some_iff.1 h
      obtain ⟨hbody, rest, rfl⟩ := ih hlater
      exact ⟨.escaped c hbody, rest, rfl⟩
    | case2 rest =>
      obtain rfl := Option.some.inj h
      exact ⟨.nil, rest, rfl⟩
    | case3 => simp at h
    | case4 c text hescape hquote hfeed ih =>
      obtain ⟨later, hlater, rfl⟩ := Option.map_eq_some_iff.1 h
      obtain ⟨hbody, rest, rfl⟩ := ih hlater
      refine ⟨.plain (fun hc => hquote hc) ?_ hfeed hbody, rest, rfl⟩
      rintro rfl
      -- the text goes on behind a backslash: with the body, or with the closing mark
      cases later with
      | nil => exact hescape _ _ rfl rfl
      | cons d later => exact hescape _ _ rfl rfl
    | case5 => simp at h
  · rintro ⟨hbody, rest, rfl⟩
    exact terminalBody?_append_quote hbody rest

instance (body : List Char) : Decidable (QuotedBody body) :=
  decidable_of_iff (terminalBody? (body ++ ['"']) = some body)
    ⟨fun h => (terminalBody?_eq_some_iff.1 h).1, fun h => terminalBody?_append_quote h []⟩

end GrammarScan.Lexeme
