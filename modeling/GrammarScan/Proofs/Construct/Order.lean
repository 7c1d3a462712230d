import GrammarScan.Proofs.Construct.Effects

/-!
# The order of attempts makes no difference

No two constructs accept the same text, and a construct that refuses leaves no trace. So it does not
matter in which order constructs are tried, how often, or which others are tried with them: a list
that has the accepting construct comes to what the table of starters comes to, and every other list
comes to nothing (`Construct.attemptInTurn_any_order`). Expectations, which put other lists in front
of the table, are therefore guesses that can cost time and nothing else.

`Construct.firstAccepting_eq` ties the attempts in turn on a desk to those that are handed a cursor
and a report, which add a check that no cursor is marked once every construct has refused.
-/

namespace GrammarScan

namespace Construct

variable {desk : Desk} {lexeme : Lexeme} {constructs : List Construct}

/-- A construct accepts at the cursor on the desk. -/
def Accepts (construct : Construct) (desk : Desk) : Prop :=
  ∃ disposition token, (construct.attemptOn.on desk).1 = .ok (some (disposition, token))

/-- The constructs of a list that can start with the next character, in the order of the list. -/
def startingAt (cursor : Cursor) (constructs : List Construct) : List Construct :=
  constructs.filter fun construct => cursor.firstChar?.any construct.startsWith

/-! ## Attempts in turn -/

lemma on_attemptInTurn_nil (desk : Desk) : (attemptInTurn []).on desk = (.ok none, desk) := rfl

lemma on_attemptInTurn_cons (construct : Construct) (constructs : List Construct) (desk : Desk) :
    (attemptInTurn (construct :: constructs)).on desk =
      match construct.attemptOn.on desk with
      | (.ok (some (disposition, token)), after) =>
        (.ok (some (construct, token)),
          { after with cursor := after.cursor.marked disposition })
      | (.ok none, after) => (attemptInTurn constructs).on after
      | (.error fault, after) => (.error fault, after) := by
  rw [attemptInTurn, Desk.Work.on_bind]
  generalize construct.attemptOn.on desk = attempted
  obtain ⟨_ | _ | ⟨disposition, token⟩, after⟩ := attempted
  · rfl
  · rfl
  · rfl

/-- A construct that reads nothing is passed over without a trace. -/
lemma on_attemptInTurn_cons_of_read?_eq_none {construct : Construct}
    (h : construct.read? desk.cursor.rest = none) (constructs : List Construct) :
    (attemptInTurn (construct :: constructs)).on desk = (attemptInTurn constructs).on desk := by
  have hrefused : construct.attemptOn.on desk = (.ok none, desk) := by
    rw [on_attemptOn, attempt_of_read?_eq_none h]
  rw [on_attemptInTurn_cons, hrefused]

/-- Constructs that read nothing come to nothing. -/
theorem on_attemptInTurn_of_forall_none
    (h : ∀ construct ∈ constructs, construct.read? desk.cursor.rest = none) :
    (attemptInTurn constructs).on desk = (.ok none, desk) := by
  induction constructs with
  | nil => exact on_attemptInTurn_nil desk
  | cons construct constructs ih =>
    rw [on_attemptInTurn_cons_of_read?_eq_none (h construct List.mem_cons_self)]
    apply ih
    intro other hother
    exact h other (List.mem_cons_of_mem construct hother)

/-- The construct whose lexeme stands at the front does not refuse. -/
lemma on_attemptOn_ne_refused (h : lexeme.IsAtFrontOf desk.cursor.rest) :
    (lexeme.construct.attemptOn.on desk).1 ≠ .ok none := by
  intro hrefused
  rcases lexeme.construct.attemptOn_cases desk with ⟨hnone, -⟩ | ⟨_, -, -, hbroken | haccepted⟩
  · rw [read?_of_isAtFrontOf h, if_pos rfl] at hnone
    cases hnone
  · rw [hbroken] at hrefused
    cases hrefused
  · rw [haccepted] at hrefused
    cases hrefused

/-- Where a lexeme stands at the front, a list of constructs comes to what its construct comes to, if the
list has that construct, and to nothing otherwise. -/
theorem on_attemptInTurn_of_isAtFrontOf (h : lexeme.IsAtFrontOf desk.cursor.rest)
    (constructs : List Construct) :
    (attemptInTurn constructs).on desk =
      if lexeme.construct ∈ constructs then (attemptInTurn [lexeme.construct]).on desk
      else (.ok none, desk) := by
  induction constructs with
  | nil => exact on_attemptInTurn_nil desk
  | cons construct constructs ih =>
    by_cases hconstruct : construct = lexeme.construct
    · -- this construct accepts or breaks, so the rest of the list is not looked at
      subst hconstruct
      have hne := on_attemptOn_ne_refused h
      rw [if_pos List.mem_cons_self, on_attemptInTurn_cons, on_attemptInTurn_cons]
      generalize lexeme.construct.attemptOn.on desk = attempted at hne
      obtain ⟨_ | _ | ⟨disposition, token⟩, after⟩ := attempted
      · rfl
      · exact absurd rfl hne
      · rfl
    · have hnone : construct.read? desk.cursor.rest = none := by
        rw [read?_of_isAtFrontOf h, if_neg hconstruct]
      rw [on_attemptInTurn_cons_of_read?_eq_none hnone, ih]
      simp [Ne.symm hconstruct]

/-- Attempts that are handed a cursor and a report come to what attempts in turn come to on a desk, except
that a marked cursor is a fault if every construct refuses. -/
theorem firstAccepting_eq (cursor : Cursor) (report : Report) (constructs : List Construct) :
    firstAccepting cursor report constructs =
      match (attemptInTurn constructs).on ⟨cursor, report⟩ with
      | (.ok (some (construct, token)), after) =>
        (.ok (some ⟨construct, token, after.cursor⟩), after.report)
      | (.ok none, after) =>
        (if after.cursor.mark.isNone then .ok none else .error .staleMark, after.report)
      | (.error fault, after) => (.error fault, after.report) := by
  induction constructs generalizing report with
  | nil => rfl
  | cons construct constructs ih =>
    rw [firstAccepting, on_attemptInTurn_cons, on_attemptOn]
    dsimp only
    generalize construct.attempt cursor report = attempted
    obtain ⟨_ | _ | ⟨disposition, token, next⟩, after⟩ := attempted
    · rfl
    · exact ih after
    · rfl

/-- Constructs that read nothing leave nothing behind. -/
theorem firstAccepting_of_forall_none {cursor : Cursor}
    (h : ∀ construct ∈ constructs, construct.read? cursor.rest = none)
    (hmark : cursor.mark = none) (report : Report) :
    firstAccepting cursor report constructs = (.ok none, report) := by
  have hnothing : (attemptInTurn constructs).on ⟨cursor, report⟩ = (.ok none, ⟨cursor, report⟩) :=
    on_attemptInTurn_of_forall_none h
  rw [firstAccepting_eq, hnothing]
  simp [hmark]

/-- Trying a list that has the one construct that reads is trying that construct. -/
theorem firstAccepting_of_mem {cursor : Cursor} (h : lexeme.IsAtFrontOf cursor.rest)
    (hmem : lexeme.construct ∈ constructs) (report : Report) :
    firstAccepting cursor report constructs =
      firstAccepting cursor report [lexeme.construct] := by
  have hlist : (attemptInTurn constructs).on ⟨cursor, report⟩ =
      (attemptInTurn [lexeme.construct]).on ⟨cursor, report⟩ := by
    rw [on_attemptInTurn_of_isAtFrontOf h, if_pos hmem]
  rw [firstAccepting_eq, firstAccepting_eq, hlist]

/-! ## Which construct accepts -/

/-- A construct that accepts is that of a lexeme at the front. -/
lemma Accepts.exists_isAtFrontOf {construct : Construct} (h : construct.Accepts desk) :
    ∃ lexeme : Lexeme, lexeme.construct = construct ∧ lexeme.IsAtFrontOf desk.cursor.rest := by
  obtain ⟨disposition, token, haccepted⟩ := h
  rcases construct.attemptOn_cases desk with ⟨-, hrefused⟩ | ⟨lexeme, hconstruct, hfront, -⟩
  · rw [hrefused] at haccepted
    cases haccepted
  · exact ⟨lexeme, hconstruct, hfront⟩

/-- At most one construct accepts. -/
theorem Accepts.unique {a b : Construct} (ha : a.Accepts desk) (hb : b.Accepts desk) : a = b := by
  obtain ⟨lexeme, rfl, hfront⟩ := ha.exists_isAtFrontOf
  obtain ⟨other, rfl, hother⟩ := hb.exists_isAtFrontOf
  rw [hfront.unique hother]

lemma mem_startingAt_iff (h : lexeme.IsAtFrontOf desk.cursor.rest) :
    lexeme.construct ∈ startingAt desk.cursor constructs ↔ lexeme.construct ∈ constructs := by
  have hstarts : desk.cursor.firstChar?.any lexeme.construct.startsWith = true := by
    by_contra hnot
    have hnone := read?_eq_none_of_not_startsWith hnot
    rw [read?_of_isAtFrontOf h, if_pos rfl] at hnone
    cases hnone
  simp [startingAt, hstarts]

end Construct

/-- The constructs that the table of starters has for the next character. -/
def Cursor.tabled (cursor : Cursor) : List Construct :=
  (cursor.firstChar?.bind StarterTable.standard.candidates?).getD []

namespace StarterTable

/-- The table has, for a character, the constructs that start with it, in their order. -/
lemma getD_candidates?_standard (c : Char) :
    (standard.candidates? c).getD [] = Construct.all.filter (·.startsWith c) := by
  rw [standard, candidates?_ofList]
  split_ifs with hnone
  · exact hnone.symm
  · rfl

lemma candidates?_standard_eq_none_iff (c : Char) :
    standard.candidates? c = none ↔ Construct.all.filter (·.startsWith c) = [] := by
  rw [standard, candidates?_ofList]
  by_cases hnone : Construct.all.filter (·.startsWith c) = []
  · rw [if_pos hnone]
    exact ⟨fun _ => hnone, fun _ => rfl⟩
  · rw [if_neg hnone]
    simp [hnone]

end StarterTable

lemma Cursor.tabled_eq (cursor : Cursor) :
    cursor.tabled = Construct.startingAt cursor Construct.all := by
  unfold tabled Construct.startingAt
  cases cursor.firstChar? with
  | none => rfl
  | some c => exact StarterTable.getD_candidates?_standard c

/-- At most one construct accepts. The table of starters has, for each character, the constructs that start
with it in their order, and no entry if there are none. So whatever constructs are tried in turn, of those
that start with the next character: either this comes to the same as trying those that the table has, which
it does if the accepting construct is among them, or it comes to nothing and leaves the desk as it was. -/
theorem Construct.attemptInTurn_any_order (desk : Desk) :
    (∀ a b : Construct, a.Accepts desk → b.Accepts desk → a = b) ∧
      (∀ c, (StarterTable.standard.candidates? c).getD [] = all.filter (·.startsWith c) ∧
        (StarterTable.standard.candidates? c = none ↔ all.filter (·.startsWith c) = [])) ∧
      ∀ constructs : List Construct,
        let tried := (attemptInTurn (startingAt desk.cursor constructs)).on desk
        let tabled := (attemptInTurn desk.cursor.tabled).on desk
        (tried = tabled ∨ tried = (.ok none, desk)) ∧
          ∀ acceptor ∈ constructs, acceptor.Accepts desk →
            tried = tabled ∧ ∃ token, tried.1 = .ok (some (acceptor, token)) := by
  refine ⟨fun a b ha hb => ha.unique hb, fun c => ⟨StarterTable.getD_candidates?_standard c,
    StarterTable.candidates?_standard_eq_none_iff c⟩, ?_⟩
  intro constructs tried tabled
  have htabled : tabled = (attemptInTurn (startingAt desk.cursor all)).on desk := by
    rw [← Cursor.tabled_eq]
  constructor
  · by_cases hlexeme : ∃ lexeme : Lexeme, lexeme.IsAtFrontOf desk.cursor.rest
    · obtain ⟨lexeme, hfront⟩ := hlexeme
      rw [htabled, on_attemptInTurn_of_isAtFrontOf hfront (startingAt desk.cursor all),
        if_pos ((mem_startingAt_iff hfront).2 lexeme.construct.mem_all)]
      simp only [tried]
      rw [on_attemptInTurn_of_isAtFrontOf hfront]
      split_ifs
      · exact .inl rfl
      · exact .inr rfl
    · right
      apply on_attemptInTurn_of_forall_none
      intro construct _
      exact read?_of_forall_not (not_exists.1 hlexeme) construct
  · intro acceptor hmem haccepts
    obtain ⟨lexeme, rfl, hfront⟩ := haccepts.exists_isAtFrontOf
    obtain ⟨disposition, token, haccepted⟩ := haccepts
    have htried : tried = (attemptInTurn [lexeme.construct]).on desk := by
      simp only [tried]
      rw [on_attemptInTurn_of_isAtFrontOf hfront, if_pos ((mem_startingAt_iff hfront).2 hmem)]
    refine ⟨?_, token, ?_⟩
    · rw [htried, htabled, on_attemptInTurn_of_isAtFrontOf hfront (startingAt desk.cursor all),
        if_pos ((mem_startingAt_iff hfront).2 lexeme.construct.mem_all)]
    · rw [htried, on_attemptInTurn_cons]
      generalize lexeme.construct.attemptOn.on desk = attempted at haccepted
      obtain ⟨result, after⟩ := attempted
      obtain rfl : result = .ok (some (disposition, token)) := haccepted
      rfl

/-- A comment between delimiters, tried behind two constructs that refuse it. -/
theorem Construct.attemptInTurn_any_order_comment :
    let desk : Desk := ⟨(Cursor.start ⟨⟨"notes.ebnf"⟩, "/*|*/;"⟩).marked .yield, Report.empty⟩
    let constructs : List Construct := [.alternative, .lineComment, .blockComment, .blockComment]
    let tried := (attemptInTurn (startingAt desk.cursor constructs)).on desk
    blockComment ∈ constructs ∧ blockComment.Accepts desk ∧
      tried = (attemptInTurn desk.cursor.tabled).on desk ∧
      ∃ token, tried.1 = .ok (some (blockComment, token)) := by
  intro desk constructs tried
  have hmem : blockComment ∈ constructs := by decide
  have haccepts : blockComment.Accepts desk := by
    refine ⟨.elide, ⟨.blockComment, "|", ⟨0, 5⟩, 1, 1, true⟩, ?_⟩
    rw [on_attemptOn]
    rfl
  obtain ⟨-, -, htries⟩ := Construct.attemptInTurn_any_order desk
  exact ⟨hmem, haccepts, (htries constructs).2 _ hmem haccepts⟩

end GrammarScan
