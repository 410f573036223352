import KeywordQuery.Text.Quoted
import KeywordQuery.Token

/-!
# Faults in queries

* `Refusal` — the place in a list of tokens where the grammar refuses them, and why;
* `ParseFault` — the same as a place in a text, and `ParseFault.message` its wording.
-/

namespace KeywordQuery

/-- What the grammar asks for at a place where it refuses the tokens. -/
inductive Wanted where
  /-- The start of an operand. -/
  | term
  /-- The parenthesis that closes a group. -/
  | close
  /-- The end of the tokens. -/
  | finish
  deriving Repr, DecidableEq

/-- A refusal: what was asked for, and the tokens from the refused one on. -/
structure Refusal where
  wanted : Wanted
  rest : List Token
  deriving Repr, DecidableEq

/-- Why a text is no query. -/
structure ParseFault where
  wanted : Wanted
  /-- The token that was found instead; none at the end of the text. -/
  found : Option String
  position : Nat
  deriving Repr, DecidableEq

/-- The message that describes a fault. -/
def ParseFault.message (fault : ParseFault) : String :=
  let place := toString fault.position
  match fault.wanted, fault.found with
  | .term, none => "Unexpected end of input"
  | .term, some token => "Expected a term at position " ++ place ++ ", got " ++ Text.quote token
  | .close, _ => "Expected ')' at position " ++ place
  | .finish, token =>
    "Extra stuff at end of input at position " ++ place ++ ": " ++ Text.quote (token.getD "")

end KeywordQuery
