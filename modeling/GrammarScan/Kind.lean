import GrammarScan.Symbol

/-!
# Kinds of token

A token is trivia (whitespace or a comment), an element (a non-terminal or a terminal), or one of
the symbols. The kind `empty` belongs to a token that no text has been read into.
-/

namespace GrammarScan

/-- The lexical category of a token. -/
inductive Kind where
  | empty
  | whitespace
  | lineComment
  | blockComment
  | nonTerminal
  | terminal
  | symbol (symbol : Symbol)
  deriving DecidableEq, Repr

namespace Kind

instance : Inhabited Kind := ⟨.empty⟩

/-- The name of a kind in dumps and traces. -/
def name : Kind → String
  | .empty => "empty"
  | .whitespace => "whitespace"
  | .lineComment => "single-line comment"
  | .blockComment => "multi-line comment"
  | .nonTerminal => "non-terminal"
  | .terminal => "terminal"
  | .symbol .definitionStart => "definition start"
  | .symbol .definitionEnd => "definition end"
  | .symbol .alternative => "alternative"
  | .symbol (.opening .grouping) => "grouping start"
  | .symbol (.closing .grouping) => "grouping end"
  | .symbol (.opening .optional) => "optional start"
  | .symbol (.closing .optional) => "optional end"
  | .symbol (.opening .repetition) => "repetition start"
  | .symbol (.closing .repetition) => "repetition end"

/-- The kinds. -/
def all : List Kind :=
  [.empty, .whitespace, .lineComment, .blockComment, .nonTerminal, .terminal,
    .symbol .definitionStart, .symbol .definitionEnd, .symbol .alternative,
    .symbol (.opening .grouping), .symbol (.closing .grouping), .symbol (.opening .optional),
    .symbol (.closing .optional), .symbol (.opening .repetition), .symbol (.closing .repetition)]

theorem mem_all (kind : Kind) : kind ∈ all := by
  cases kind with
  | symbol symbol =>
    cases symbol with
    | opening bracket => cases bracket <;> decide
    | closing bracket => cases bracket <;> decide
    | _ => decide
  | _ => decide

/-- No two kinds have the same name. -/
theorem name_injective {a b : Kind} (h : a.name = b.name) : a = b := by
  have hnames : ∀ a ∈ all, ∀ b ∈ all, a.name = b.name → a = b := by decide
  exact hnames a a.mem_all b b.mem_all h

/-- Whether tokens of the kind mean nothing to a reader of the grammar. -/
def isTrivia : Kind → Bool
  | .whitespace | .lineComment | .blockComment => true
  | _ => false

/-- The source text of every token of the kind, for kinds with a single spelling. -/
def fixedSpelling? : Kind → Option String
  | .symbol s => some (String.ofList s.spelling)
  | _ => none

end Kind

end GrammarScan
