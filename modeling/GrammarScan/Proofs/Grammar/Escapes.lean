import GrammarScan.Proofs.Grammar.Bodies

/-!
# Which characters are escaped

Reading a text from the left, a backslash takes the next character out of play, another backslash
included.  `escapesNext` keeps track of this: it tells, of the text in front of a character, whether
that character is taken.

With it the bodies of comments and of quoted texts have a description that looks at all positions of
a text at once.  A comment closes at its first delimiter that is not escaped (`closesAfter_iff`), and
a quoted text is one in which line feeds and quote marks are escaped and whose last backslash takes
something (`quotedBody_iff`).
-/

namespace GrammarScan.Lexeme

/-- Whether a character behind the text would be taken by a backslash. -/
def escapesNext (text : List Char) : Bool :=
  text.foldl (fun taken c => !taken && c == '\\') false

@[simp] lemma escapesNext_nil : escapesNext [] = false := rfl

@[simp] lemma escapesNext_escape (c : Char) (text : List Char) :
    escapesNext ('\\' :: c :: text) = escapesNext text := by
  simp [escapesNext]

lemma escapesNext_cons {c : Char} (hescape : c ≠ '\\') (text : List Char) :
    escapesNext (c :: text) = escapesNext text := by
  have hplain : (c == '\\') = false := beq_false_of_ne hescape
  simp [escapesNext, hplain]

/-! ## Comments between delimiters -/

/-- Whether a closing delimiter stands behind `before` and is not escaped. -/
def ClosesAt (before text : List Char) : Prop :=
  escapesNext before = false ∧ ∃ after, text = before ++ '*' :: '/' :: after

lemma closesAt_escape_iff {c : Char} {before text : List Char} :
    ClosesAt before ('\\' :: c :: text) ↔
      ∃ later, before = '\\' :: c :: later ∧ ClosesAt later text := by
  constructor
  · rintro ⟨hplay, after, htext⟩
    match before with
    | [] => simp at htext
    | [d] =>
      -- the delimiter would begin with the character that the backslash takes
      obtain ⟨rfl, -⟩ := List.cons.inj htext
      simp [escapesNext] at hplay
    | d :: e :: later =>
      simp only [List.cons_append, List.cons.injEq] at htext
      obtain ⟨rfl, rfl, htail⟩ := htext
      rw [escapesNext_escape] at hplay
      exact ⟨later, rfl, hplay, after, htail⟩
  · rintro ⟨later, rfl, hplay, after, rfl⟩
    exact ⟨by rwa [escapesNext_escape], after, rfl⟩

lemma closesAt_cons_iff {c : Char} {before text : List Char} (hescape : c ≠ '\\')
    (hclose : c = '*' → text.head? ≠ some '/') :
    ClosesAt before (c :: text) ↔ ∃ later, before = c :: later ∧ ClosesAt later text := by
  constructor
  · rintro ⟨hplay, after, htext⟩
    cases before with
    | nil =>
      simp only [List.nil_append, List.cons.injEq] at htext
      obtain ⟨rfl, rfl⟩ := htext
      exact absurd rfl (hclose rfl)
    | cons d later =>
      simp only [List.cons_append, List.cons.injEq] at htext
      obtain ⟨rfl, htail⟩ := htext
      rw [escapesNext_cons hescape] at hplay
      exact ⟨later, rfl, hplay, after, htail⟩
  · rintro ⟨later, rfl, hplay, after, rfl⟩
    exact ⟨by rwa [escapesNext_cons hescape], after, rfl⟩

lemma ClosesAfter.closesAt {body text : List Char} (h : ClosesAfter body text) :
    ClosesAt body text := by
  induction h with
  | here rest => exact ⟨rfl, rest, rfl⟩
  | escaped c h ih => exact closesAt_escape_iff.2 ⟨_, rfl, ih⟩
  | plain hescape hclose h ih => exact (closesAt_cons_iff hescape hclose).2 ⟨_, rfl, ih⟩

lemma ClosesAfter.length_le {body text : List Char} (h : ClosesAfter body text)
    {before : List Char} (hbefore : ClosesAt before text) : body.length ≤ before.length := by
  induction h generalizing before with
  | here rest => exact Nat.zero_le _
  | escaped c h ih =>
    obtain ⟨later, rfl, hlater⟩ := closesAt_escape_iff.1 hbefore
    have hle := ih hlater
    simp only [List.length_cons]
    omega
  | plain hescape hclose h ih =>
    obtain ⟨later, rfl, hlater⟩ := (closesAt_cons_iff hescape hclose).1 hbefore
    have hle := ih hlater
    simp only [List.length_cons]
    omega

lemma not_closesAt_of_commentBody? {before text : List Char} (hnone : commentBody? text = none) :
    ¬ ClosesAt before text := by
  intro h
  fun_induction commentBody? text generalizing before with
  | case1 c text ih =>
    obtain ⟨later, -, hlater⟩ := closesAt_escape_iff.1 h
    exact ih (Option.map_eq_none_iff.1 hnone) hlater
  | case2 => simp at hnone
  | case3 c text hescape hclose ih =>
    by_cases hc : c = '\\'
    · -- a backslash at the end of the text has no delimiter behind it
      subst hc
      obtain ⟨-, after, htext⟩ := h
      cases text with
      | nil =>
        have hlength := congrArg List.length htext
        simp only [List.length_cons, List.length_nil, List.length_append] at hlength
        omega
      | cons d text => exact hescape d text rfl rfl
    · have hopen : c = '*' → text.head? ≠ some '/' := by
        rintro rfl hhead
        obtain ⟨tail, rfl⟩ := List.head?_eq_some_iff.1 hhead
        exact hclose tail rfl rfl
      obtain ⟨later, -, hlater⟩ := (closesAt_cons_iff hc hopen).1 h
      exact ih (Option.map_eq_none_iff.1 hnone) hlater
  | case4 =>
    obtain ⟨-, after, htext⟩ := h
    simp at htext

/-- Where a delimiter is not escaped, there is a first one. -/
lemma ClosesAt.exists_closesAfter {before text : List Char} (h : ClosesAt before text) :
    ∃ body, ClosesAfter body text := by
  cases hsearch : commentBody? text with
  | none => exact absurd h (not_closesAt_of_commentBody? hsearch)
  | some body => exact ⟨body, commentBody?_eq_some_iff.1 hsearch⟩

/-- A comment closes at its first delimiter that is not escaped. -/
theorem closesAfter_iff {body text : List Char} :
    ClosesAfter body text ↔
      ClosesAt body text ∧ ∀ before, ClosesAt before text → body.length ≤ before.length := by
  constructor
  · intro h
    exact ⟨h.closesAt, fun before hbefore => h.length_le hbefore⟩
  · rintro ⟨hbody, hfirst⟩
    obtain ⟨first, hclose⟩ := hbody.exists_closesAfter
    have hle : first.length ≤ body.length := hclose.length_le hbody
    have hge : body.length ≤ first.length := hfirst first hclose.closesAt
    obtain ⟨-, after, htext⟩ := hbody
    obtain ⟨-, later, hsame⟩ := hclose.closesAt
    obtain ⟨rfl, -⟩ := List.append_inj (htext.symm.trans hsame) (by omega)
    exact hclose

/-! ## Quoted texts -/

/-- A quoted text is one in which line feeds and quote marks are escaped and no backslash takes what
is behind it. -/
theorem quotedBody_iff {body : List Char} :
    QuotedBody body ↔
      escapesNext body = false ∧ ∀ before c after, body = before ++ c :: after →
        c = '"' ∨ c = '\n' → escapesNext before = true := by
  constructor
  · intro h
    induction h with
    | nil => simp
    | @plain d body hquote hescape hfeed h ih =>
      obtain ⟨hend, hall⟩ := ih
      refine ⟨by rwa [escapesNext_cons hescape], ?_⟩
      intro before c after hbody hc
      cases before with
      | nil =>
        obtain ⟨rfl, -⟩ := List.cons.inj hbody
        exact absurd hc (not_or.2 ⟨hquote, hfeed⟩)
      | cons e before =>
        obtain ⟨rfl, htail⟩ := List.cons.inj hbody
        rw [escapesNext_cons hescape]
        exact hall before c after htail hc
    | @escaped d body h ih =>
      obtain ⟨hend, hall⟩ := ih
      refine ⟨by rwa [escapesNext_escape], ?_⟩
      intro before c after hbody hc
      match before with
      | [] =>
        obtain ⟨rfl, -⟩ := List.cons.inj hbody
        simp at hc
      | [e] =>
        obtain ⟨rfl, -⟩ := List.cons.inj hbody
        rfl
      | e :: f :: before =>
        simp only [List.cons_append, List.cons.injEq] at hbody
        obtain ⟨rfl, rfl, htail⟩ := hbody
        rw [escapesNext_escape]
        exact hall before c after htail hc
  · rintro ⟨hend, hall⟩
    induction body using terminalBody?.induct with
    | case1 c body ih =>
      rw [escapesNext_escape] at hend
      refine .escaped c (ih hend ?_)
      intro before d after hbody hd
      have htaken := hall ('\\' :: c :: before) d after (by rw [hbody]; rfl) hd
      rwa [escapesNext_escape] at htaken
    | case2 rest => simpa using hall [] '"' rest rfl (.inl rfl)
    | case3 body => simpa using hall [] '\n' body rfl (.inr rfl)
    | case4 c body hescape hquote hfeed ih =>
      have hplain : c ≠ '\\' := by
        rintro rfl
        -- a backslash at the end would take what is behind the body
        cases body with
        | nil => simp [escapesNext] at hend
        | cons d body => exact hescape d body rfl rfl
      rw [escapesNext_cons hplain] at hend
      refine .plain (fun hc => hquote hc) hplain hfeed (ih hend ?_)
      intro before d after hbody hd
      have htaken := hall (c :: before) d after (by rw [hbody]; rfl) hd
      rwa [escapesNext_cons hplain] at htaken
    | case5 => exact .nil

end GrammarScan.Lexeme
