import KeywordQuery.Query.Basic
import KeywordQuery.Query.Fault

/-!
# Reading queries

One reader for every level of the grammar.  A disjunction is a chain of conjunctions and a
conjunction a chain of negations; chains nest to the left and negations to the right.  A word is any
token that is no parenthesis and no reserved word.

* `Query.chain`, `Query.chainTail`, `Query.negation`, `Query.primary` — one reader per level, each
  with the tokens that it leaves; every reader of an operand leaves fewer than it got;
* `Query.ofTokens` — a query from all of the tokens;
* `Query.parse` — a query from a text, or the first fault with its position.
-/

namespace KeywordQuery

/-- The token that opens the next operand of a chain. -/
def Connective.token : Connective → Token
  | .and => .and
  | .or => .or

/-- How loosely a connective binds. -/
def Connective.looseness : Connective → Nat
  | .and => 0
  | .or => 1

namespace Query

/-- A query with the tokens that follow it, of which there are fewer than `bound`. -/
abbrev Reading (bound : Nat) := Query × { rest : List Token // rest.length < bound }

mutual

/-- A chain of operands joined by `op`: a disjunction or a conjunction. -/
def chain (policy : MatchPolicy) (op : Connective) (tokens : List Token) :
    Except Refusal (Reading tokens.length) :=
  match operand policy op tokens with
  | .error refusal => .error refusal
  | .ok (left, ⟨rest, shorter⟩) =>
    match chainTail policy op left rest with
    | .error refusal => .error refusal
    | .ok (query, ⟨rest', shorter'⟩) => .ok (query, ⟨rest', by omega⟩)
termination_by (tokens.length, 2 * op.looseness + 4)

/-- The operands that follow `left` in its chain, as long as `op` stands before the next. -/
def chainTail (policy : MatchPolicy) (op : Connective) (left : Query) (tokens : List Token) :
    Except Refusal (Reading (tokens.length + 1)) :=
  match tokens with
  | [] => .ok (left, ⟨[], Nat.zero_lt_succ _⟩)
  | token :: after =>
    if token = op.token then
      match operand policy op after with
      | .error refusal => .error refusal
      | .ok (right, ⟨rest, shorter⟩) =>
        match chainTail policy op (.join op left right) rest with
        | .error refusal => .error refusal
        | .ok (query, ⟨rest', shorter'⟩) =>
          .ok (query, ⟨rest', Nat.lt_succ_of_lt (Nat.lt_of_lt_of_le shorter' (Nat.succ_le_succ
            (Nat.le_of_lt shorter)))⟩)
    else .ok (left, ⟨token :: after, Nat.lt_succ_self _⟩)
termination_by (tokens.length, 0)

/-- An operand of `op`: what binds one level tighter. -/
def operand (policy : MatchPolicy) (op : Connective) (tokens : List Token) :
    Except Refusal (Reading tokens.length) :=
  match op with
  | .or => chain policy .and tokens
  | .and => negation policy tokens
termination_by (tokens.length, 2 * op.looseness + 3)
decreasing_by
  all_goals simp only [Connective.looseness]
  all_goals decreasing_tactic

/-- A primary with the negations before it. -/
def negation (policy : MatchPolicy) (tokens : List Token) :
    Except Refusal (Reading tokens.length) :=
  match tokens with
  | .not :: after =>
    match negation policy after with
    | .error refusal => .error refusal
    | .ok (child, ⟨rest, shorter⟩) =>
      .ok (.not child, ⟨rest, by simp only [List.length_cons]; omega⟩)
  | tokens => primary policy tokens
termination_by (tokens.length, 2)

/-- A word, or a disjunction in parentheses.  A `not` is a word here, but the negations before a
primary take it first. -/
def primary (policy : MatchPolicy) (tokens : List Token) :
    Except Refusal (Reading tokens.length) :=
  match tokens with
  | .lparen :: after =>
    match chain policy .or after with
    | .error refusal => .error refusal
    | .ok (query, ⟨rest, shorter⟩) =>
      match rest, shorter with
      | .rparen :: rest', shorter =>
        .ok (query, ⟨rest', by simp only [List.length_cons] at *; omega⟩)
      | rest, _ => .error ⟨.close, rest⟩
  | .word term :: rest => .ok (.word term policy, ⟨rest, by simp⟩)
  | .not :: rest => .ok (.word Token.not.text policy, ⟨rest, by simp⟩)
  | tokens => .error ⟨.term, tokens⟩
termination_by (tokens.length, 1)

end

/-- The query that all of the tokens spell. -/
def ofTokens (policy : MatchPolicy) (tokens : List Token) : Except Refusal Query :=
  match chain policy .or tokens with
  | .error refusal => .error refusal
  | .ok (query, ⟨rest, _⟩) =>
    match rest with
    | [] => .ok query
    | rest => .error ⟨.finish, rest⟩

/-- The place of a refusal in a text of `stop` characters with the given tokens: the token that
stands as far from the end as the refused tokens reach. -/
def faultAt (lexemes : List Lexeme) (stop : Nat) (refusal : Refusal) : ParseFault :=
  match lexemes.drop (lexemes.length - refusal.rest.length) with
  | [] => ⟨refusal.wanted, none, stop⟩
  | lexeme :: _ => ⟨refusal.wanted, some lexeme.text, lexeme.start⟩

/-- The query that a text spells, with every word under the given policy. -/
def parse (policy : MatchPolicy) (text : String) : Except ParseFault Query :=
  match ofTokens policy (tokens text) with
  | .error refusal => .error (faultAt (lexemes text) text.length refusal)
  | .ok query => .ok query

end Query

end KeywordQuery
