import KeywordQuery.Query.Fault

/-!
# Checking without a tree

One pass over the tokens finds the first one that the grammar refuses.  It keeps no more than
whether an operand is needed and how many groups are open.

* `Query.Progress` — what the pass keeps, and `Progress.step` how a token changes it;
* `Query.refusal?` — the first refusal in a list of tokens.
-/

namespace KeywordQuery

namespace Query

/-- What is known after some of the tokens. -/
structure Progress where
  needsOperand : Bool := true
  /-- The number of open groups. -/
  depth : Nat := 0
  deriving Repr, DecidableEq

namespace Progress

/-- What is known after one more token, or what was wanted in its place. -/
def step (progress : Progress) (token : Token) : Except Wanted Progress :=
  if progress.needsOperand then
    match token with
    | .not => .ok progress
    | .lparen => .ok { progress with depth := progress.depth + 1 }
    | .word _ => .ok { progress with needsOperand := false }
    | .rparen | .and | .or => .error .term
  else
    match token, progress.depth with
    | .and, _ | .or, _ => .ok { progress with needsOperand := true }
    | .rparen, depth + 1 => .ok { progress with depth }
    | _, 0 => .error .finish
    | _, _ + 1 => .error .close

/-- What is wanted at the end of the tokens, if they may not end here. -/
def wantedAtEnd (progress : Progress) : Option Wanted :=
  if progress.needsOperand then some .term
  else if progress.depth = 0 then none
  else some .close

/-- The first refusal among the tokens that follow. -/
def refusal? (progress : Progress) : List Token → Option Refusal
  | [] => progress.wantedAtEnd.map fun wanted => ⟨wanted, []⟩
  | token :: rest =>
    match progress.step token with
    | .error wanted => some ⟨wanted, token :: rest⟩
    | .ok progress => progress.refusal? rest

end Progress

/-- The first refusal in a list of tokens. -/
def refusal? (tokens : List Token) : Option Refusal := Progress.refusal? {} tokens

end Query

end KeywordQuery
