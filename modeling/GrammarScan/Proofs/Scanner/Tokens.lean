import GrammarScan.Proofs.Scanner.Passing
import GrammarScan.Proofs.Text.Tiling

/-!
# Tokens are what they say

A token is made when its lexeme is read and then only passed on.  Its span, its payload, its kind and
its note on being well formed are four separate numbers and texts, which have to fit the source and
each other: `Token.IsLexemeOf` says how.

`requests_tokens_isLexemeOf` is the main statement.  It holds of every token that any sequence of
requests yields, also of one that stops at a failure later on, and of every token of a whole scan.
-/

namespace GrammarScan

/-- The token covers `piece`, which stands behind `before` and in front of `rest`. -/
structure Token.CoversAt (token : Token) (before piece rest : List Char) : Prop where
  span_eq : token.span = ⟨Text.byteLength before, Text.byteLength (before ++ piece)⟩
  kind_ne_empty : token.kind ≠ .empty
  kind_covers : token.kind.Covers token.text.toList piece rest
  fixed_spelling : ∀ spelling, token.kind.fixedSpelling? = some spelling →
    piece = spelling.toList ∧ token.text = spelling
  wellFormed_iff : token.wellFormed = false ↔
    token.kind = .nonTerminal ∧ ∃ c ∈ token.text.toList, c = '\n' ∨ c ∈ forbiddenInName

/-- The piece of a text that a token spans is a lexeme of its kind, and its other fields agree. -/
def Token.IsLexemeOf (token : Token) (text : List Char) : Prop :=
  ∃ before piece rest, text = before ++ (piece ++ rest) ∧
    Text.slice? text token.span = some piece ∧ token.CoversAt before piece rest

/-- The token of the lexeme that comes next says what it is. -/
lemma Cursor.StandsBehind.tokenOf_isLexemeOf {cursor : Cursor} {before : List Char}
    {lexeme : Lexeme} (h : cursor.StandsBehind before)
    (hfront : lexeme.IsAtFrontOf cursor.rest) :
    (cursor.tokenOf lexeme).IsLexemeOf cursor.source.text.toList := by
  obtain ⟨hproper, rest, hrest, hends⟩ := hfront
  have htext : cursor.source.text.toList = before ++ (lexeme.spelling ++ rest) := by
    rw [h.text_eq, hrest]
  have hspan : (cursor.tokenOf lexeme).span =
      ⟨Text.byteLength before, Text.byteLength before + Text.byteLength lexeme.spelling⟩ := by
    rw [← h.offset_eq]
    rfl
  have hpayload : (cursor.tokenOf lexeme).text.toList = lexeme.payload := String.toList_ofList
  have hcovers : lexeme.kind.Covers lexeme.payload lexeme.spelling rest :=
    Lexeme.kind_covers hproper hends
  refine ⟨before, lexeme.spelling, rest, htext, ?_, ?_, ?_, ?_, ?_, ?_⟩
  · rw [htext, hspan, Text.slice?_append]
  · rw [hspan, Text.byteLength_append]
  · intro hempty
    have hkind : lexeme.kind = .empty := hempty
    rw [hkind] at hcovers
    exact hcovers
  · rw [hpayload]
    exact hcovers
  · intro spelling hfixed
    exact Lexeme.spelling_of_fixedSpelling? hfixed
  · rw [hpayload]
    exact Lexeme.wellFormed_eq_false_iff

namespace Scanner.HasRead

variable {scanner : Scanner} {source : Source} {settings : Settings} {before : List Char}
  {journal : Journal} {token : Token}

lemma token_isLexemeOf (h : scanner.HasRead source settings before)
    (htoken : (scanner.next journal).result = .token token) :
    token.IsLexemeOf source.text.toList ∧
      (token.kind.isTrivia = true → settings.keepTrivia = true) := by
  obtain ⟨passed, cursor, lexeme, hyields⟩ := h.exists_yields htoken
  rw [hyields.token_eq, ← hyields.source_eq]
  exact ⟨hyields.standsBehind.tokenOf_isLexemeOf hyields.isAtFrontOf, hyields.kept⟩

lemma requests_tokens (h : scanner.HasRead source settings before) (journal : Journal) (count : Nat)
    (htoken : .token token ∈ (scanner.requests journal count).result) :
    token.IsLexemeOf source.text.toList ∧
      (token.kind.isTrivia = true → settings.keepTrivia = true) := by
  induction count generalizing scanner before journal with
  | zero => simp at htoken
  | succ count ih =>
    rw [requests_succ_result, List.mem_cons] at htoken
    rcases htoken with hfirst | hlater
    · exact h.token_isLexemeOf hfirst.symm
    · obtain ⟨piece, hread⟩ := h.next journal
      exact ih hread _ hlater

end Scanner.HasRead

/-- Every token that is yielded, by any sequence of requests and in a whole scan, covers a lexeme of
its kind and agrees with it in all its fields, and it is trivia only if trivia is kept. -/
theorem requests_tokens_isLexemeOf (source : Source) (settings : Settings) (journal : Journal) :
    let begun := Scanner.start source settings journal
    let text := source.text.toList
    (∀ count token, .token token ∈ (begun.1.requests begun.2 count).result →
      token.IsLexemeOf text ∧ (token.kind.isTrivia = true → settings.keepTrivia = true)) ∧
    ∀ token ∈ (source.tokenize settings journal).1.tokens,
      token.IsLexemeOf text ∧ (token.kind.isTrivia = true → settings.keepTrivia = true) := by
  intro begun text
  refine ⟨?_, ?_⟩
  · intro count token htoken
    have hstart : begun.1.HasRead source settings [] := Scanner.hasRead_start source settings journal
    exact hstart.requests_tokens begun.2 count htoken
  · intro token htoken
    -- a whole scan is a sequence of requests, begun with one more event in the trace
    let entered := Scanner.start source settings
      (journal.record (.sourceEntered source.file source.length))
    have hstart : entered.1.HasRead source settings [] := Scanner.hasRead_start source settings _
    obtain ⟨count, hresult, -⟩ := entered.1.exists_requests_eq_drain entered.2
    have hmem : .token token ∈ (entered.1.requests entered.2 count).result := by
      rw [hresult]
      exact List.mem_append_left _ (List.mem_map_of_mem htoken)
    exact hstart.requests_tokens entered.2 count hmem

end GrammarScan
