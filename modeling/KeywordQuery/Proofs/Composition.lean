import Mathlib
import KeywordQuery.Proofs.RoundTrip

/-!
# Query texts put together

A query text in parentheses can stand wherever an operand can.  Scanning goes on across a space as
if the texts stood alone, and the reader comes out of the parentheses with the query inside them,
whatever is at its root.

* `tokens_append_space`, `tokens_append_keyword`, `tokens_group` — the tokens of texts next to each
  other, of texts with a connective between them, and of a text in parentheses;
* `derives_group` — a query text in parentheses is a primary;
* `parse_not_group`, `parse_join_groups` — the negation of a text and two texts joined;
* `parse_composed` — all of them together.
-/

namespace KeywordQuery

/-! ### Tokens of composed texts -/

/-- The text in parentheses. -/
def group (text : String) : String := "(" ++ text ++ ")"

theorem tokens_append_space (before after : String) :
    tokens (before ++ " " ++ after) = tokens before ++ tokens after := by
  have text : (before ++ " " ++ after).toList = before.toList ++ ' ' :: after.toList := by simp
  rw [tokens_eq_map, text, lexemeTexts_append_blank (by decide), List.map_append, ← tokens_eq_map,
    ← tokens_eq_map]

theorem tokens_group (text : String) :
    tokens (group text) = .lparen :: (tokens text ++ [.rparen]) := by
  have enclosed : (group text).toList = '(' :: (text.toList ++ [')']) := by simp [group]
  rw [tokens_eq_map, enclosed, lexemeTexts_paren (by decide), lexemeTexts_append_paren (by decide),
    lexemeTexts_nil, List.map_cons, List.map_append, ← tokens_eq_map]
  rfl

theorem tokens_keyword (op : Connective) : tokens op.keyword = [op.token] := by
  rw [tokens_eq_map, lexemeTexts_unbroken (Query.isUnbroken_keyword op), List.map_singleton,
    Query.ofText_keyword]

/-- A connective between spaces is a token of its own between those of the texts beside it. -/
theorem tokens_append_keyword (op : Connective) (before after : String) :
    tokens (before ++ (" " ++ op.keyword ++ " ") ++ after) =
      tokens before ++ op.token :: tokens after := by
  have text : before ++ (" " ++ op.keyword ++ " ") ++ after =
      before ++ " " ++ (op.keyword ++ " " ++ after) := by
    simp only [String.append_assoc]
  rw [text, tokens_append_space, tokens_append_space, tokens_keyword, List.singleton_append]

theorem tokens_not : tokens "not" = [.not] := by decide +kernel

namespace Query

variable {policy : MatchPolicy} {text text' : String} {query query' : Query}

/-! ### Groups as operands -/

/-- A query text in parentheses is a primary, so it can be an operand at every level. -/
theorem derives_group (h : parse policy text = .ok query) :
    Derives policy .primary (tokens (group text)) query := by
  rw [tokens_group]
  exact .group (parse_eq_ok_iff.mp h)

theorem parse_group (h : parse policy text = .ok query) : parse policy (group text) = .ok query :=
  parse_eq_ok_iff.mpr (.ofConjunction (.ofNegation (.ofPrimary (derives_group h))))

theorem parse_not_group (h : parse policy text = .ok query) :
    parse policy ("not" ++ " " ++ group text) = .ok (.not query) := by
  rw [parse_eq_ok_iff, tokens_append_space, tokens_not]
  exact .ofConjunction (.ofNegation (.not (.ofPrimary (derives_group h))))

theorem parse_join_groups (op : Connective) (h : parse policy text = .ok query)
    (h' : parse policy text' = .ok query') :
    parse policy (group text ++ " " ++ (op.keyword ++ " " ++ group text')) =
      .ok (.join op query query') := by
  have left : Derives policy op.rank (tokens (group text)) query :=
    (derives_group h).ofPrimaryAt.ofOperand
  have right : Derives policy op.operandRank (tokens (group text')) query' :=
    (derives_group h').ofPrimaryAt
  rw [parse_eq_ok_iff, tokens_append_space, tokens_append_space, tokens_keyword]
  exact (left.join right).ofRank

/-- **Composing query texts.**  Parentheses around a query text change nothing, behind `not` they
negate it, and two texts in parentheses are joined by the connective between them. -/
theorem parse_composed (h : parse policy text = .ok query) (h' : parse policy text' = .ok query') :
    parse policy ("(" ++ text ++ ")") = .ok query ∧
    parse policy ("not (" ++ text ++ ")") = .ok (.not query) ∧
    parse policy ("(" ++ text ++ ") and (" ++ text' ++ ")") = .ok (.join .and query query') ∧
    parse policy ("(" ++ text ++ ") or (" ++ text' ++ ")") = .ok (.join .or query query') := by
  have negated : "not (" ++ text ++ ")" = "not" ++ " " ++ group text := by
    rw [← String.toList_inj]
    simp [group]
  have joined (op : Connective) : "(" ++ text ++ (") " ++ op.keyword ++ " (") ++ text' ++ ")" =
      group text ++ " " ++ (op.keyword ++ " " ++ group text') := by
    rw [← String.toList_inj]
    simp [group]
  refine ⟨parse_group h, ?_, ?_, ?_⟩
  · rw [negated]
    exact parse_not_group h
  · exact (congrArg (parse policy) (joined .and)).trans (parse_join_groups .and h h')
  · exact (congrArg (parse policy) (joined .or)).trans (parse_join_groups .or h h')

/-- A disjunction that ends in a blank, and a negation that touches its own parentheses. -/
theorem disjunction_and_negation_composed :
    let text := "red or blue "
    let text' := "not(sky)"
    let query := join .or (word "red" .word) (word "blue" .word)
    let query' := not (word "sky" .word)
    parse .word text = .ok query ∧ parse .word text' = .ok query' ∧
    parse .word ("(" ++ text ++ ")") = .ok query ∧
    parse .word ("not (" ++ text ++ ")") = .ok (.not query) ∧
    parse .word ("(" ++ text ++ ") and (" ++ text' ++ ")") = .ok (.join .and query query') ∧
    parse .word ("(" ++ text ++ ") or (" ++ text' ++ ")") = .ok (.join .or query query') := by
  intro text text' query query'
  have read : parse .word text = .ok query := by cbv
  have read' : parse .word text' = .ok query' := by cbv
  exact ⟨read, read', parse_composed read read'⟩

/-- Parentheses can close what a refused text leaves open, so the converse does not hold. -/
example : (∃ fault, parse .word "red) or (blue" = .error fault) ∧
    ∃ query, parse .word "(red) or (blue)" = .ok query :=
  ⟨⟨_, by cbv⟩, ⟨_, by cbv⟩⟩

end Query

end KeywordQuery
