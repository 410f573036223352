import Mathlib.Data.List.Basic
import Mathlib.Data.List.Induction
import Mathlib.Logic.Function.Iterate
import KeywordQuery.Proofs.Chains
import KeywordQuery.Proofs.Nodes
import KeywordQuery.Query.Builder

/-!
# Flattening undoes folding

A loop takes a chain of one connective apart along its left side, and a fold over a list puts one
together.  The loop stops at the first left side that is no chain of this connective.  It enters
neither a right side, whatever that is, nor a chain of the other connective.  So what the loop finds
is folded to the same tree again, and what was folded is found again, except that the first query
of the list is itself taken apart if it is a chain.

* `isChain` — the queries that are taken apart;
* `descend` — one turn of the loop; `iterate_descend` says what a number of turns come to;
* `exists_foldl_join` — every query is folded from operands that the loop can find;
* `operands_eq_iff` — the operands of a query are the only such list;
* `flattening_undoes_folding` — the loop, its operands and the fold.
-/

namespace KeywordQuery

namespace Query

variable {op : Connective}

/-- Whether the query is a chain of the connective. -/
def isChain (op : Connective) : Query → Bool
  | .word _ _ => false
  | .not _ => false
  | .join op' _ _ => op' == op

/-- One turn of the loop that takes a chain apart.  The right side of the chain is added to what was
found, and its left side is next; any other query is left alone. -/
def descend (op : Connective) : Query × List Query → Query × List Query
  | (.join op' left right, found) =>
    if op' = op then (left, found ++ [right]) else (.join op' left right, found)
  | (query, found) => (query, found)

/-! ### Operands of a fold -/

/-- The query that is joined last is the right side of what is folded. -/
theorem foldl_join_concat (op : Connective) (first : Query) (others : List Query) (last : Query) :
    (others ++ [last]).foldl (.join op) first = .join op (others.foldl (.join op) first) last := by
  rw [List.foldl_append, List.foldl_cons, List.foldl_nil]

theorem operands_of_not_isChain {query : Query} (h : query.isChain op = false) :
    operands op query = [query] := by
  cases query with
  | word term policy => rfl
  | not child => rfl
  | join op' left right =>
    have other : op' ≠ op := by simpa [isChain] using h
    simp only [operands, operandsOnto, other, if_false]

/-- What is folded from two queries or more is a chain. -/
theorem exists_foldl_eq_join {others : List Query} (more : others ≠ []) (op : Connective)
    (first : Query) : ∃ left right, others.foldl (.join op) first = join op left right := by
  obtain ⟨before, last, rfl⟩ := (List.eq_nil_or_concat' others).resolve_left more
  exact ⟨before.foldl (.join op) first, last, foldl_join_concat op first before last⟩

theorem isChain_foldl_join {others : List Query} (more : others ≠ []) (first : Query) :
    (others.foldl (.join op) first).isChain op = true := by
  obtain ⟨left, right, chain⟩ := exists_foldl_eq_join more op first
  rw [chain, isChain, beq_self_eq_true]

/-- Every query is folded from its operands, the first of which is no chain. -/
theorem exists_foldl_join (op : Connective) (query : Query) :
    ∃ (first : Query) (others : List Query), first.isChain op = false ∧
      query = others.foldl (.join op) first := by
  induction query with
  | word term policy => exact ⟨.word term policy, [], rfl, rfl⟩
  | not child ih => exact ⟨.not child, [], rfl, rfl⟩
  | join op' left right ihl ihr =>
    by_cases same : op' = op
    · subst same
      obtain ⟨first, others, noChain, rfl⟩ := ihl
      exact ⟨first, others ++ [right], noChain, (foldl_join_concat op' first others right).symm⟩
    · exact ⟨.join op' left right, [], by simpa [isChain] using same, rfl⟩

/-- A chain is folded from two operands at least. -/
theorem exists_foldl_join_of_join (op : Connective) (left right : Query) :
    ∃ (first : Query) (others : List Query), first.isChain op = false ∧ others ≠ [] ∧
      join op left right = others.foldl (.join op) first := by
  obtain ⟨first, others, noChain, folded⟩ := exists_foldl_join op (join op left right)
  refine ⟨first, others, noChain, ?_, folded⟩
  rintro rfl
  have chain : (join op left right).isChain op = true := beq_self_eq_true op
  rw [folded, List.foldl_nil, noChain] at chain
  exact Bool.noConfusion chain

theorem operands_foldl_join_of_not_isChain {first : Query} (h : first.isChain op = false)
    (others : List Query) : operands op (others.foldl (.join op) first) = first :: others := by
  rw [operands_foldl_join, operands_of_not_isChain h, List.singleton_append]

/-- **The operands of a query, told by the fold.**  They are the only list of queries that is folded
to the query and whose first member is no chain of the connective. -/
theorem operands_eq_iff {query : Query} {parts : List Query} :
    operands op query = parts ↔
      joinAll op parts = .ok query ∧ ∀ first ∈ parts.head?, first.isChain op = false := by
  constructor
  · rintro rfl
    obtain ⟨first, others, noChain, rfl⟩ := exists_foldl_join op query
    rw [operands_foldl_join_of_not_isChain noChain]
    refine ⟨rfl, fun first' mem => ?_⟩
    obtain rfl : first = first' := Option.some.inj mem
    exact noChain
  · rintro ⟨folded, noChain⟩
    cases parts with
    | nil => exact nomatch folded
    | cons first others =>
      obtain rfl := Except.ok.inj folded
      exact operands_foldl_join_of_not_isChain (noChain first rfl) others

/-! ### The loop -/

/-- As many turns as queries were joined last take just these from the fold, the last one first. -/
theorem iterate_descend (op : Connective) (first : Query) (before after found : List Query) :
    (descend op)^[after.length] ((before ++ after).foldl (.join op) first, found) =
      (before.foldl (.join op) first, found ++ after.reverse) := by
  induction after using List.reverseRecOn generalizing found with
  | nil => rw [List.append_nil, List.reverse_nil, List.append_nil]; rfl
  | append_singleton after last ih =>
    have turn : descend op ((before ++ (after ++ [last])).foldl (.join op) first, found) =
        ((before ++ after).foldl (.join op) first, found ++ [last]) := by
      rw [← List.append_assoc, foldl_join_concat, descend, if_pos rfl]
    rw [List.length_append, List.length_singleton, Function.iterate_succ_apply, turn, ih,
      List.reverse_append, List.reverse_singleton, List.append_assoc]

theorem descend_of_not_isChain {query : Query} (h : query.isChain op = false)
    (found : List Query) : descend op (query, found) = (query, found) := by
  cases query with
  | word term policy => rfl
  | not child => rfl
  | join op' left right =>
    have other : op' ≠ op := by simpa [isChain] using h
    rw [descend, if_neg other]

/-- The loop has taken the chain apart after one turn for every query that was joined, and it could
go on before that and not after. -/
theorem iterate_descend_foldl_join {first : Query} (h : first.isChain op = false)
    (others : List Query) :
    (descend op)^[others.length] (others.foldl (.join op) first, []) = (first, others.reverse) ∧
      ∀ n, ((descend op)^[n] (others.foldl (.join op) first, [])).1.isChain op = true ↔
        n < others.length := by
  have ends : (descend op)^[others.length] (others.foldl (.join op) first, []) =
      (first, others.reverse) := iterate_descend op first [] others []
  refine ⟨ends, fun n => ?_⟩
  by_cases before : n < others.length
  · have length : (others.drop (others.length - n)).length = n := by
      rw [List.length_drop]
      omega
    have some : others.take (others.length - n) ≠ [] := by
      rw [Ne, ← List.length_eq_zero_iff, List.length_take]
      omega
    have turns := iterate_descend op first (others.take (others.length - n))
      (others.drop (others.length - n)) []
    rw [List.take_append_drop, length] at turns
    rw [turns]
    exact iff_of_true (isChain_foldl_join some first) before
  · obtain ⟨more, rfl⟩ := Nat.exists_eq_add_of_le' (Nat.le_of_not_lt before)
    have stays : (descend op)^[more] (first, others.reverse) = (first, others.reverse) :=
      Function.iterate_fixed (descend_of_not_isChain h others.reverse) more
    rw [Function.iterate_add_apply, ends, stays]
    exact iff_of_false (by simp [h]) before

/-- **Flattening undoes folding.**  Let a query be a chain of a connective.  The loop along its left
side ends, at a first operand that is no such chain and with one more operand from every turn, of
which there is at least one; and they are folded to the same query.  Conversely, what is folded from
two or more queries is a chain.  Its operands are those of the first query if that is a chain, or
else that query itself, and then the other queries as they are. -/
theorem flattening_undoes_folding (op : Connective) :
    (∀ left right, ∃ first others,
      operands op (join op left right) = first :: others ∧ others ≠ [] ∧
      first.isChain op = false ∧
      (descend op)^[others.length] (join op left right, []) = (first, others.reverse) ∧
      (∀ n, ((descend op)^[n] (join op left right, [])).1.isChain op = true ↔
        n < others.length) ∧
      ∃ folded, joinAll op (operands op (join op left right)) = .ok folded ∧
        folded.sameAs (join op left right) = true) ∧
    ∀ first second others, ∃ left right,
      joinAll op (first :: second :: others) = .ok (join op left right) ∧
      operands op (join op left right) =
        (if first.isChain op then operands op first else [first]) ++ second :: others := by
  constructor
  · intro left right
    obtain ⟨first, others, noChain, more, folded⟩ := exists_foldl_join_of_join op left right
    have flat := operands_foldl_join_of_not_isChain noChain others
    obtain ⟨ends, goesOn⟩ := iterate_descend_foldl_join noChain others
    rw [← folded] at flat ends goesOn
    refine ⟨first, others, flat, more, noChain, ends, goesOn, join op left right, ?_, ?_⟩
    · exact (operands_eq_iff.mp rfl).1
    · exact sameAs_iff.mpr rfl
  · intro first second others
    obtain ⟨left, right, folded⟩ :=
      exists_foldl_eq_join (List.cons_ne_nil second others) op first
    refine ⟨left, right, congrArg Except.ok folded, ?_⟩
    rw [← folded, operands_foldl_join]
    by_cases chain : first.isChain op = true
    · rw [if_pos chain]
    · rw [if_neg chain, operands_of_not_isChain (eq_false_of_ne_true chain)]

/-- A chain on the right side and a chain of the other connective stay whole. -/
example :
    let red := word "red" .word
    let blue := word "blue" .word
    operands .or (join .or (join .or (join .and red blue) red) (join .or blue red)) =
      [join .and red blue, red, join .or blue red] := by
  decide

end Query

end KeywordQuery
