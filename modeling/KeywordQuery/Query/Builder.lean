import KeywordQuery.Query.Label
import KeywordQuery.Query.Spelling
import KeywordQuery.Text.Blank
import KeywordQuery.Text.Quoted

/-!
# Building queries

Queries put together without a text.

* `Query.ofTerm` — a single word, checked to be one token's worth of characters;
* `Query.joinAll` — a chain of queries under one connective;
* `Query.repr` — the kind of a query's root with its quoted spelling.
-/

namespace KeywordQuery

/-- Why a query cannot be built. -/
inductive BuildFault where
  | unknownPolicy (name : String)
  | invalidTerm (term : String)
  | noOperands (op : Connective)
  deriving Repr, DecidableEq

/-- The message that describes a fault. -/
def BuildFault.message : BuildFault → String
  | .unknownPolicy name => Text.quote name ++ " is not a valid MatchPolicy"
  | .invalidTerm term =>
    "Invalid term " ++ Text.quote term ++ ": terms must be non-empty and unspaced"
  | .noOperands op => op.keyword ++ "_() requires at least one expression"

/-- The policy of a name. -/
def MatchPolicy.ofName (name : String) : Except BuildFault MatchPolicy :=
  match ofName? name with
  | some policy => .ok policy
  | none => .error (.unknownPolicy name)

namespace Query

/-- The query for a single term, which may not be empty or hold blanks. -/
def ofTerm (term : String) (policy : MatchPolicy) : Except BuildFault Query :=
  if term.isEmpty || term.toList.any Text.isBlank then .error (.invalidTerm term)
  else .ok (.word term policy)

/-- The chain of queries under a connective, nested to the left. -/
def joinAll (op : Connective) : List Query → Except BuildFault Query
  | [] => .error (.noOperands op)
  | first :: others => .ok (others.foldl (.join op) first)

/-- Whether a query equals a value: another query if it is the same one, and a text never. -/
def equals (query : Query) : Query ⊕ String → Bool
  | .inl other => query.sameAs other
  | .inr _ => false

/-- The name of the kind of a query's root. -/
def kindName : Query → String
  | .word _ _ => "WordFilter"
  | .not _ => "NotFilter"
  | .join .and _ _ => "AndFilter"
  | .join .or _ _ => "OrFilter"

/-- The kind of a query's root with the quoted spelling of the query. -/
def repr (query : Query) : String := query.kindName ++ "(" ++ Text.quote query.toText ++ ")"

end Query

end KeywordQuery
