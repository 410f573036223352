import Mathlib
import KeywordQuery.Proofs.Nodes
import KeywordQuery.Query.Builder

/-!
# Labels identify a query

Queries are compared by the labels that a loop takes from a stack.  That comparison finds them
equal exactly if they are the same tree, so every hash of the labels can stand for the tree, and a
set of queries holds every tree once.

* `labelAt?` — the label of the node at the end of a path; `eq_of_labelAt?` says that the labels at
  all paths make the tree;
* `turn` — one turn of the loop; `sizes_iterate_turn` counts the nodes that are left to it, and
  `iterate_turn` says what it comes to;
* `setOf` — the hash set of a list of queries, for any hash of the labels;
* `length_eq_card` — the size of a list that holds every tree of another one once;
* `labels_identify` — equality, loop, hashes and sets.
-/

namespace KeywordQuery

namespace Query

/-! ### Places in a tree -/

/-- The label of the node that a path leads to, if there is one.  A path tells for every node on
its way by which of the children it goes on. -/
def labelAt? : Query → List Nat → Option Label
  | query, [] => some query.label
  | query, i :: path =>
    match query.children[i]? with
    | none => none
    | some child => child.labelAt? path

/-- Two queries with the same labels at all paths are the same. -/
theorem eq_of_labelAt? {left right : Query}
    (h : ∀ path, left.labelAt? path = right.labelAt? path) : left = right := by
  have root : left.label = right.label := Option.some.inj (h [])
  induction left generalizing right with
  | word term policy =>
    cases right with
    | word term' policy' =>
      obtain ⟨rfl, rfl⟩ := Label.word.inj root
      rfl
    | not child => exact nomatch root
    | join op left right => exact nomatch root
  | not child ih =>
    cases right with
    | word term policy => exact nomatch root
    | not child' =>
      have below (path : List Nat) : child.labelAt? path = child'.labelAt? path := h (0 :: path)
      rw [ih below (Option.some.inj (below []))]
    | join op left right => exact nomatch root
  | join op first second ihf ihs =>
    cases right with
    | word term policy => exact nomatch root
    | not child => exact nomatch root
    | join op' first' second' =>
      obtain rfl := Label.join.inj root
      have below (path : List Nat) : first.labelAt? path = first'.labelAt? path := h (0 :: path)
      have beside (path : List Nat) : second.labelAt? path = second'.labelAt? path :=
        h (1 :: path)
      rw [ihf below (Option.some.inj (below [])), ihs beside (Option.some.inj (beside []))]

theorem eq_iff_labelAt? {left right : Query} :
    left = right ↔ ∀ path, left.labelAt? path = right.labelAt? path :=
  ⟨fun same _ => by rw [same], eq_of_labelAt?⟩

/-! ### The loop -/

/-- One turn of the loop that takes labels from a stack.  The query on top gives its label, and its
children take its place; an empty stack is left alone. -/
def turn : List Label × List Query → List Label × List Query
  | (taken, []) => (taken, [])
  | (taken, query :: stack) => (taken ++ [query.label], query.children ++ stack)

theorem sizes_children_append (query : Query) (stack : List Query) :
    sizes (query.children ++ stack) + 1 = sizes (query :: stack) := by
  rw [sizes_append, sizes, size_eq_sizes_children query]
  omega

/-- A turn takes one node from the stack, as long as there is one. -/
theorem sizes_turn (state : List Label × List Query) :
    sizes (turn state).2 = sizes state.2 - 1 := by
  obtain ⟨taken, stack⟩ := state
  cases stack with
  | nil => rfl
  | cons query stack =>
    show sizes (query.children ++ stack) = sizes (query :: stack) - 1
    rw [← sizes_children_append, Nat.add_sub_cancel]

theorem sizes_iterate_turn (n : Nat) (state : List Label × List Query) :
    sizes (turn^[n] state).2 = sizes state.2 - n := by
  induction n with
  | zero => rfl
  | succ n ih => rw [Function.iterate_succ_apply', sizes_turn, ih, Nat.sub_sub]

/-- After as many turns as there are nodes on the stack, the loop has taken the labels of all of
them, and the stack is empty. -/
theorem iterate_turn (taken : List Label) (stack : List Query) :
    turn^[sizes stack] (taken, stack) = (taken ++ labelsOfStack stack, []) := by
  fun_induction labelsOfStack stack generalizing taken with
  | case1 => rw [List.append_nil]; rfl
  | case2 query stack ih =>
    have next : turn (taken, query :: stack) = (taken ++ [query.label], query.children ++ stack) :=
      rfl
    rw [← sizes_children_append, Function.iterate_succ_apply, next, ih, List.append_assoc,
      List.singleton_append]

/-- The loop ends after one turn for every node of the query, and not before. -/
theorem iterate_turn_query (query : Query) :
    turn^[query.size] ([], [query]) = (query.labels, []) ∧
      ∀ n < query.size, (turn^[n] ([], [query])).2 ≠ [] := by
  have one : sizes [query] = query.size := rfl
  refine ⟨one ▸ iterate_turn [] [query], fun n before empty => ?_⟩
  have left := sizes_iterate_turn n ([], [query])
  rw [empty, one] at left
  simp only [sizes] at left
  omega

/-! ### Sets -/

/-- Equality by labels. -/
abbrev byLabels : BEq Query := ⟨sameAs⟩

/-- The hash of a query by a hash of its labels. -/
abbrev hashBy (hashLabels : List Label → UInt64) : Hashable Query :=
  ⟨fun query => hashLabels query.labels⟩

instance lawful_byLabels : @LawfulBEq Query byLabels :=
  @LawfulBEq.mk Query byLabels (@ReflBEq.mk Query byLabels fun {_} => sameAs_iff.mpr rfl)
    fun same => sameAs_iff.mp same

/-- The hash set of the queries, compared and hashed by their labels. -/
def setOf (hashLabels : List Label → UInt64) (queries : List Query) :
    @Std.HashSet Query byLabels (hashBy hashLabels) :=
  @Std.HashSet.ofList Query byLabels (hashBy hashLabels) queries

/-- A list that holds the same trees as another one, and each once, has as many members as there
are different trees. -/
theorem length_eq_card {members queries : List Query} (once : members.Nodup)
    (same : ∀ query, query ∈ members ↔ query ∈ queries) :
    members.length = queries.toFinset.card := by
  rw [← List.toFinset_card_of_nodup once]
  congr 1
  ext query
  rw [List.mem_toFinset, List.mem_toFinset, same]

theorem size_setOf (hashLabels : List Label → UInt64) (queries : List Query) :
    (setOf hashLabels queries).size = queries.toFinset.card := by
  let _ := byLabels
  let _ := hashBy hashLabels
  have once : (setOf hashLabels queries).toList.Nodup := by
    refine List.Pairwise.imp ?_ (Std.HashSet.distinct_toList (m := setOf hashLabels queries))
    intro left right different
    exact beq_eq_false_iff_ne.mp different
  rw [← Std.HashSet.length_toList]
  refine length_eq_card once fun query => ?_
  rw [Std.HashSet.mem_toList, setOf, Std.HashSet.mem_ofList, List.contains_iff_mem]

theorem mem_distinct {query : Query} {queries : List Query} :
    query ∈ distinct queries ↔ query ∈ queries := by
  induction queries with
  | nil => rfl
  | cons first rest ih =>
    rw [distinct, List.mem_cons]
    split
    · next again =>
      obtain ⟨later, member, same⟩ := List.any_eq_true.mp again
      obtain rfl := sameAs_iff.mp same
      rw [ih]
      exact ⟨.inr, fun h => h.elim (fun eq => eq ▸ member) id⟩
    · rw [List.mem_cons, ih]

theorem nodup_distinct (queries : List Query) : (distinct queries).Nodup := by
  induction queries with
  | nil => exact List.nodup_nil
  | cons first rest ih =>
    rw [distinct]
    split
    · exact ih
    · next new =>
      refine List.nodup_cons.mpr ⟨fun member => new ?_, ih⟩
      exact List.any_eq_true.mpr ⟨first, mem_distinct.mp member, sameAs_iff.mpr rfl⟩

/-- **Labels identify a query.**  Queries have the same labels exactly if they are the same tree,
with the same label at every path.  The loop over the stack takes the labels of a query in
pre-order, one turn for each node.  Equal queries have equal hashes, and a set of queries has as
many members as there are different trees among them, whatever hash of the labels it uses. -/
theorem labels_identify :
    (∀ left right : Query, (left.sameAs right = true ↔ left = right) ∧
      (left.sameAs right = true ↔ ∀ path, left.labelAt? path = right.labelAt? path)) ∧
    (∀ query : Query, query.labels = query.preorder ∧
      turn^[query.size] ([], [query]) = (query.labels, []) ∧
      ∀ n < query.size, (turn^[n] ([], [query])).2 ≠ []) ∧
    (∀ left right : Query, left.sameAs right = true → hash left = hash right) ∧
    ∀ queries, (distinct queries).length = queries.toFinset.card ∧
      ∀ hashLabels, (setOf hashLabels queries).size = queries.toFinset.card := by
  refine ⟨fun left right => ⟨sameAs_iff, sameAs_iff.trans eq_iff_labelAt?⟩, fun query => ?_,
    fun left right same => ?_, fun queries => ⟨?_, fun hashLabels => ?_⟩⟩
  · exact ⟨labels_eq_preorder query, iterate_turn_query query⟩
  · rw [sameAs_iff.mp same]
  · exact length_eq_card (nodup_distinct queries) fun _ => mem_distinct
  · exact size_setOf hashLabels queries

/-- A chain built from its operands is the one that nests to the left, and not the one that nests to
the right, although both have the same leaves. -/
theorem built_chain_identified :
    let red := word "red" .word
    let blue := word "blue" .word
    let sky := word "sky" .substring
    let inLeft := join .or (join .or red blue) sky
    let inRight := join .or red (join .or blue sky)
    ∃ chain, joinAll .or [red, blue, sky] = .ok chain ∧ chain.sameAs inLeft = true ∧
      hash chain = hash inLeft ∧ chain.sameAs inRight = false ∧
      (distinct [inLeft, inRight, chain]).length = 2 := by
  intro red blue sky inLeft inRight
  obtain ⟨same, -, hashes, sets⟩ := labels_identify
  have equal : inLeft.sameAs inLeft = true := (same inLeft inLeft).1.mpr rfl
  refine ⟨inLeft, rfl, equal, hashes inLeft inLeft equal, ?_, ?_⟩
  · have different : inLeft ≠ inRight := by decide
    exact Bool.eq_false_iff.mpr fun h => different ((same inLeft inRight).1.mp h)
  · rw [(sets _).1]
    decide

end Query

end KeywordQuery
