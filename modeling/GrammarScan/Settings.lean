/-!
# Settings

What a caller may choose about a scan: how the constructs to try next are found, how much of the
input a fatal message quotes, and whether whitespace and comments are yielded.
-/

namespace GrammarScan

/-- How a scanner finds the constructs to try next. Both ways read the same tokens. -/
inductive Strategy where
  /-- By the next character alone. -/
  | pattern
  /-- By what usually follows the last lexeme, and by the next character where that fails. -/
  | predictive
  deriving DecidableEq, Repr

/-- The name of a strategy in traces. -/
def Strategy.name : Strategy → String
  | .pattern => "Pattern"
  | .predictive => "Predictive"

/-- The choices of a scan. -/
structure Settings where
  strategy : Strategy := .pattern
  /-- The number of characters that a fatal message quotes at most. -/
  previewLength : Nat := 20
  /-- Whether whitespace and comments are yielded as tokens. -/
  keepTrivia : Bool := false
  deriving DecidableEq, Repr

namespace Settings

/-- The choices made when the caller makes none. -/
def standard : Settings := {}

instance : Inhabited Settings := ⟨standard⟩

/-- The standard choices with the predictive strategy. -/
def predictive : Settings :=
  { standard with strategy := .predictive }

/-- The same choices with another strategy. -/
def withStrategy (settings : Settings) (strategy : Strategy) : Settings :=
  { settings with strategy }

/-- The same choices with another length of quotation. -/
def withPreviewLength (settings : Settings) (previewLength : Nat) : Settings :=
  { settings with previewLength }

/-- The same choices with trivia yielded or not. -/
def withTrivia (settings : Settings) (keepTrivia : Bool) : Settings :=
  { settings with keepTrivia }

end Settings

end GrammarScan
