/-!
# Symbols

The symbols of the notation are the lexemes with a single spelling: the two ends of a definition,
the bar between alternatives, and three pairs of brackets.
-/

namespace GrammarScan

/-- The pairs of brackets. -/
inductive Bracket where
  /-- Encloses a group. -/
  | grouping
  /-- Encloses what may be left out. -/
  | optional
  /-- Encloses what may be repeated. -/
  | repetition
  deriving DecidableEq, Repr

/-- The bracket that opens. -/
def Bracket.opener : Bracket → Char
  | .grouping => '('
  | .optional => '['
  | .repetition => '{'

/-- The bracket that closes. -/
def Bracket.closer : Bracket → Char
  | .grouping => ')'
  | .optional => ']'
  | .repetition => '}'

/-- The lexemes with a single spelling. -/
inductive Symbol where
  /-- Stands between the name of a rule and its definition. -/
  | definitionStart
  /-- Ends a definition. -/
  | definitionEnd
  /-- Separates two alternatives. -/
  | alternative
  | opening (bracket : Bracket)
  | closing (bracket : Bracket)
  deriving DecidableEq, Repr

/-- The one spelling of a symbol. -/
def Symbol.spelling : Symbol → List Char
  | .definitionStart => [':', ':', '=']
  | .definitionEnd => [';']
  | .alternative => ['|']
  | .opening bracket => [bracket.opener]
  | .closing bracket => [bracket.closer]

theorem Symbol.spelling_ne_nil (symbol : Symbol) : symbol.spelling ≠ [] := by
  cases symbol <;> simp [spelling]

end GrammarScan
