import KeywordQuery.Query.Basic
import KeywordQuery.Token

/-!
# The grammar of queries

    query       ::= disjunction
    disjunction ::= conjunction | disjunction "or" conjunction
    conjunction ::= negation | conjunction "and" negation
    negation    ::= primary | "not" negation
    primary     ::= word | "(" disjunction ")"

* `Query.Rank` — the levels of the grammar;
* `Query.Derives` — which tokens spell which query at a level.
-/

namespace KeywordQuery

namespace Query

/-- The levels of the grammar, from the loosest to the tightest. -/
inductive Rank where
  | disjunction
  | conjunction
  | negation
  | primary
  deriving Repr, DecidableEq

/-- The tokens spell the query at a level of the grammar, with every word under the policy. -/
inductive Derives (policy : MatchPolicy) : Rank → List Token → Query → Prop where
  | word (term : String) : Derives policy .primary [.word term] (.word term policy)
  | group {tokens : List Token} {query : Query} (inner : Derives policy .disjunction tokens query) :
      Derives policy .primary (.lparen :: (tokens ++ [.rparen])) query
  | ofPrimary {tokens : List Token} {query : Query} (inner : Derives policy .primary tokens query) :
      Derives policy .negation tokens query
  | not {tokens : List Token} {query : Query} (inner : Derives policy .negation tokens query) :
      Derives policy .negation (.not :: tokens) (.not query)
  | ofNegation {tokens : List Token} {query : Query}
      (inner : Derives policy .negation tokens query) : Derives policy .conjunction tokens query
  | and {before after : List Token} {left right : Query}
      (first : Derives policy .conjunction before left)
      (last : Derives policy .negation after right) :
      Derives policy .conjunction (before ++ .and :: after) (.join .and left right)
  | ofConjunction {tokens : List Token} {query : Query}
      (inner : Derives policy .conjunction tokens query) : Derives policy .disjunction tokens query
  | or {before after : List Token} {left right : Query}
      (first : Derives policy .disjunction before left)
      (last : Derives policy .conjunction after right) :
      Derives policy .disjunction (before ++ .or :: after) (.join .or left right)

end Query

end KeywordQuery
