import Mathlib
import KeywordQuery.Proofs.Chains
import KeywordQuery.Proofs.Composition
import KeywordQuery.Query.Builder

/-!
# Building and reading

A chain can be built from queries, or read from their texts with the connective between them.  Both
fold the operands from the left, one over a list of queries and one over the tokens, and they make
the same tree exactly if every query reads back from its own text.

* `tokens_intercalate` — the tokens of texts with a connective between them;
* `parse_intercalate` — the chain that is read from the texts of readable queries;
* `isReadable_foldl_join_iff` — a chain is readable exactly if its operands are;
* `parse_intercalate_iff` — the chain that is read and the one that is built.
-/

namespace KeywordQuery

/-- The tokens of texts with a connective between them are those of the first, and then for each of
the others the token of the connective and its own. -/
theorem tokens_intercalate (op : Connective) (first : String) (others : List String) :
    tokens (String.intercalate (" " ++ op.keyword ++ " ") (first :: others)) =
      tokens first ++ others.flatMap fun other => op.token :: tokens other := by
  induction others generalizing first with
  | nil => rw [String.intercalate_singleton, List.flatMap_nil, List.append_nil]
  | cons other others ih =>
    rw [String.intercalate_cons_cons, tokens_append_keyword, ih, List.flatMap_cons,
      List.cons_append]

namespace Query

variable {policy : MatchPolicy}

/-- The texts of readable queries, with a connective between them, are read as the chain of these
queries. -/
theorem parse_intercalate (op : Connective) {first : Query} {others : List Query}
    (h : ∀ query ∈ first :: others, query.IsReadable policy) :
    parse policy (String.intercalate (" " ++ op.keyword ++ " ") ((first :: others).map toText)) =
      .ok (others.foldl (.join op) first) := by
  have operand (query : Query) (hq : query ∈ first :: others) :
      Derives policy op.operandRank (tokens query.toText) query :=
    (derives_toText (h query hq)).ofPrimaryAt
  have start : Derives policy op.rank (tokens first.toText) first :=
    (operand first (by simp)).ofOperand
  have parts : ∀ part ∈ others.map fun other => (tokens other.toText, other),
      Derives policy op.operandRank part.1 part.2 := by
    intro part hp
    obtain ⟨other, ho, rfl⟩ := List.mem_map.mp hp
    exact operand other (List.mem_cons_of_mem _ ho)
  have chain := start.foldl_join parts
  rw [List.foldl_map, List.flatMap_map] at chain
  rw [parse_eq_ok_iff, List.map_cons, tokens_intercalate, List.flatMap_map]
  exact chain.ofRank

theorem isReadable_foldl_join_iff {op : Connective} {first : Query} {others : List Query} :
    (others.foldl (.join op) first).IsReadable policy ↔
      ∀ query ∈ first :: others, query.IsReadable policy := by
  rw [List.forall_mem_cons, IsReadable, leaves_foldl_join, List.forall_mem_append]
  refine and_congr_right fun _ => ?_
  constructor
  · intro h query hq leaf hl
    exact h leaf (List.mem_flatMap.mpr ⟨query, hq, hl⟩)
  · intro h leaf hl
    obtain ⟨query, hq, hl'⟩ := List.mem_flatMap.mp hl
    exact h query hq leaf hl'

/-- **Building and reading make the same chain.**  The chain that is built from queries is the
one that is read from their texts with the connective between them, exactly if every leaf of every
query is a term under the policy of the reader. -/
theorem parse_intercalate_iff (policy : MatchPolicy) (op : Connective) {queries : List Query}
    (nonempty : queries ≠ []) :
    ∃ chain, joinAll op queries = .ok chain ∧
      ((∃ read, parse policy (String.intercalate (" " ++ op.keyword ++ " ")
          (queries.map toText)) = .ok read ∧ read.sameAs chain = true) ↔
        ∀ query ∈ queries, ∀ leaf ∈ query.leaves, leaf.2 = policy ∧ IsTerm leaf.1) := by
  obtain ⟨first, others, rfl⟩ := List.exists_cons_of_ne_nil nonempty
  refine ⟨others.foldl (.join op) first, rfl, ?_, fun readable => ?_⟩
  · rintro ⟨read, parsed, same⟩
    obtain rfl := sameAs_iff.mp same
    exact isReadable_foldl_join_iff.mp (isReadable_of_parse parsed)
  · exact ⟨_, parse_intercalate op readable, sameAs_iff.mpr rfl⟩

/-- The first query is a chain of `or` itself, which the built chain absorbs; the parentheses of its
text are read to the same tree. -/
theorem chain_of_alternatives_read_back :
    let queries := [join .or (word "red" .word) (word "blue" .word), not (word "sky" .word)]
    queries ≠ [] ∧ ∃ chain, joinAll .or queries = .ok chain ∧
      ∃ read, parse .word (String.intercalate " or " (queries.map toText)) = .ok read ∧
        read.sameAs chain = true := by
  intro queries
  have nonempty : queries ≠ [] := List.cons_ne_nil _ _
  have isTerm (term : String) (ne : term ≠ "") (parts : term.toList.all isWordPart = true)
      (reserved : term ≠ "and" ∧ term ≠ "or" ∧ term ≠ "not") : IsTerm term :=
    ⟨isUnbroken_of_isWordPart ne (List.all_eq_true.mp parts), reserved⟩
  have red : IsTerm "red" := isTerm _ (by decide) (by decide) (by decide)
  have blue : IsTerm "blue" := isTerm _ (by decide) (by decide) (by decide)
  have sky : IsTerm "sky" := isTerm _ (by decide) (by decide) (by decide)
  obtain ⟨chain, built, same⟩ := parse_intercalate_iff .word .or nonempty
  refine ⟨nonempty, chain, built, same.mpr ?_⟩
  simp only [queries, leaves, List.forall_mem_cons, List.forall_mem_append, List.not_mem_nil,
    false_imp_iff, implies_true, and_true, red, blue, sky]

end Query

end KeywordQuery
