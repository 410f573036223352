import KeywordQuery.Proofs.Nodes
import KeywordQuery.Query.Eval

/-!
# Chains of operands

Operands are joined to a query one after another, each as the right side of what there is so far.
The loops that go along the left side of the chain come first to the operands of that query, and
then to the ones that were joined to it.

* `operands_foldl_join` — the operands of such a chain;
* `terms_foldl_join`, `leaves_foldl_join` — its words and its leaves;
* `evalM_foldl_join` — its value, in any monad;
* `evalM_splice`, `terms_splice` — a chain whose first operand is the query: it comes first, and all
  the other operands are another chain.
-/

namespace KeywordQuery

namespace Query

/-- The operands of a chain are those of the query that it starts with, and then the joined ones. -/
theorem operands_foldl_join (op : Connective) (first : Query) (others : List Query) :
    operands op (others.foldl (.join op) first) = operands op first ++ others := by
  induction others generalizing first with
  | nil => rw [List.foldl_nil, List.append_nil]
  | cons other others ih =>
    rw [List.foldl_cons, ih, operands_join_self, List.append_assoc, List.singleton_append]

theorem terms_foldl_join (op : Connective) (first : Query) (others : List Query) :
    (others.foldl (.join op) first).terms = first.terms ++ others.flatMap terms := by
  rw [← flatMap_terms_operands op, operands_foldl_join, List.flatMap_append,
    flatMap_terms_operands]

theorem leaves_foldl_join (op : Connective) (first : Query) (others : List Query) :
    (others.foldl (.join op) first).leaves = first.leaves ++ others.flatMap leaves := by
  induction others generalizing first with
  | nil => rw [List.foldl_nil, List.flatMap_nil, List.append_nil]
  | cons other others ih =>
    rw [List.foldl_cons, ih, leaves, List.flatMap_cons, List.append_assoc]

section

variable {m : Type → Type} [Monad m] [LawfulMonad m] (ask : String → MatchPolicy → m Bool)

/-- A chain has the value of the query that it starts with, if that decides it, and else that of
the joined operands. -/
theorem evalM_foldl_join (op : Connective) (first : Query) (others : List Query) :
    (others.foldl (.join op) first).evalM ask = first.evalM ask >>= fun answer =>
      if answer == op.decisive then pure op.decisive else op.decideM (evalM ask) others := by
  rw [← decideM_operands ask op, operands_foldl_join, Connective.decideM_append,
    decideM_operands]

theorem decideM_cons (op : Connective) (first : Query) (others : List Query) :
    op.decideM (evalM ask) (first :: others) = (others.foldl (.join op) first).evalM ask := by
  rw [evalM_foldl_join, Connective.decideM]

/-- **Operands spliced onto a query.**  To evaluate the chain is to evaluate the query, and then,
unless that decides it, the chain of the operands by themselves. -/
theorem evalM_splice (op : Connective) (query first : Query) (others : List Query) :
    ((first :: others).foldl (.join op) query).evalM ask = query.evalM ask >>= fun answer =>
      if answer == op.decisive then pure op.decisive
      else (others.foldl (.join op) first).evalM ask := by
  rw [evalM_foldl_join, decideM_cons]

end

theorem terms_splice (op : Connective) (query first : Query) (others : List Query) :
    ((first :: others).foldl (.join op) query).terms =
      query.terms ++ (others.foldl (.join op) first).terms := by
  rw [terms_foldl_join, terms_foldl_join, List.flatMap_cons]

end Query

end KeywordQuery
