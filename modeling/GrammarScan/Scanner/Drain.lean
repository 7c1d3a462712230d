import GrammarScan.Scanner.Basic

/-!
# Scanning to the end

Draining a scanner asks for tokens until the scan ends. What it gives is a tokenization: the tokens
in order, and the way the scan ended.
-/

namespace GrammarScan

/-- What a scan gives: its tokens and its end. -/
structure Tokenization where
  tokens : List Token
  ending : Ending
  deriving BEq, DecidableEq, Repr

namespace Tokenization

/-- The failure that stopped the scan, if one did. -/
def failure? (tokenization : Tokenization) : Option Failure :=
  match tokenization.ending with
  | .failed failure => some failure
  | _ => none

/-- Whether the whole input was read. -/
def isComplete (tokenization : Tokenization) : Bool :=
  tokenization.ending == .complete

/-- The tokenization with one more token in front. -/
def cons (token : Token) (tokenization : Tokenization) : Tokenization :=
  { tokenization with tokens := token :: tokenization.tokens }

end Tokenization

/-- Asks for tokens until the scan ends. -/
def Scanner.drain (scanner : Scanner) (journal : Journal) : Progress Tokenization :=
  match _next : scanner.next journal with
  | ⟨.stop ending, after, journal⟩ => ⟨⟨[], ending⟩, after, journal⟩
  | ⟨.token token, after, journal⟩ =>
    let later := after.drain journal
    { later with result := later.result.cons token }
termination_by scanner.cursor.rest.length
decreasing_by
  have hlt := length_rest_lt_of_next (congrArg Progress.result _next)
  rwa [_next] at hlt

end GrammarScan
