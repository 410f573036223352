import KeywordQuery.Policy

/-!
# Query trees

A query is a tree of words joined by `and`, `or` and `not`; every word carries the policy under
which it is looked for.

* `Query` — the trees;
* `Query.operands` — the operands of a chain of one connective, read off its left spine;
  `operands_join_self` says that a chain has one operand more than its left side.
-/

namespace KeywordQuery

/-- The two binary connectives. -/
inductive Connective where
  | and
  | or
  deriving Repr, DecidableEq, Hashable

namespace Connective

/-- The word that stands between two operands. -/
def keyword : Connective → String
  | .and => "and"
  | .or => "or"

/-- The value of an operand that decides a chain by itself. -/
def decisive : Connective → Bool
  | .and => false
  | .or => true

end Connective

/-- A filter expression over items with text. -/
inductive Query where
  | word (term : String) (policy : MatchPolicy)
  | not (child : Query)
  | join (op : Connective) (left right : Query)
  deriving Repr, DecidableEq

namespace Query

/-- The operands of the left-nested chain of `op` that ends in `tail`, from left to right. -/
def operandsOnto (op : Connective) : Query → List Query → List Query
  | .join op' left right, tail =>
    if op' = op then operandsOnto op left (right :: tail) else .join op' left right :: tail
  | query, tail => query :: tail

/-- The operands of a query taken as a chain of `op`: `(a or b) or c` has three for `or`, and any
query that is not joined by `op` is its own only operand. -/
def operands (op : Connective) (query : Query) : List Query := operandsOnto op query []

theorem operandsOnto_eq (op : Connective) (query : Query) (tail : List Query) :
    operandsOnto op query tail = operands op query ++ tail := by
  induction query generalizing tail with
  | word => rfl
  | not => rfl
  | join op' left right ihl _ =>
    unfold operands operandsOnto
    split
    · rw [ihl, ihl [right]]
      simp
    · rfl

theorem operands_join_self (op : Connective) (left right : Query) :
    operands op (.join op left right) = operands op left ++ [right] := by
  simp only [operands, operandsOnto, if_true]
  exact operandsOnto_eq op left [right]

theorem operands_ne_nil (op : Connective) (query : Query) : operands op query ≠ [] := by
  cases query with
  | word => simp [operands, operandsOnto]
  | not => simp [operands, operandsOnto]
  | join op' left right =>
    by_cases h : op' = op
    · subst h; simp [operands_join_self]
    · simp [operands, operandsOnto, h]

theorem sizeOf_le_of_mem_operands {op : Connective} {query operand : Query}
    (h : operand ∈ operands op query) : sizeOf operand ≤ sizeOf query := by
  induction query with
  | word => simp_all [operands, operandsOnto]
  | not => simp_all [operands, operandsOnto]
  | join op' left right ihl _ =>
    by_cases hop : op' = op
    · subst hop
      rw [operands_join_self, List.mem_append, List.mem_singleton] at h
      rcases h with h | rfl
      · have := ihl h
        simp only [join.sizeOf_spec]
        omega
      · simp only [join.sizeOf_spec]
        omega
    · simp_all [operands, operandsOnto]

theorem sizeOf_lt_of_mem_operands {op : Connective} {left right operand : Query}
    (h : operand ∈ operands op (.join op left right)) :
    sizeOf operand < sizeOf (Query.join op left right) := by
  rw [operands_join_self, List.mem_append, List.mem_singleton] at h
  simp only [join.sizeOf_spec]
  rcases h with h | rfl
  · have := sizeOf_le_of_mem_operands h
    omega
  · omega

end Query

end KeywordQuery
