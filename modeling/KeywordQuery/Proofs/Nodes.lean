import KeywordQuery.Query.Label
import KeywordQuery.Query.Spelling

/-!
# The nodes of queries

The labels of a query in pre-order tell where it ends, so two queries with the same labels are the
same query.  Its leaves from left to right are its words with their policies.  In the order in which
a query is read, a negation stands before its child and a connective between its sides.

* `preorder_append_inj` — queries whose labels start two equal lists are equal;
* `sameAs_iff` — equality by labels is equality;
* `leaves` — the leaves of a query; `terms_eq_map_leaves` says that its terms are theirs;
* `inorder` — the labels in the order of reading; `inorder_perm_labels` says that they are the
  labels of all nodes, and `leaves_eq_inorder` finds the leaves among them.
-/

namespace KeywordQuery

namespace Query

/-! ### Labels -/

/-- The labels of a query are no beginning of those of another, whatever follows them. -/
theorem preorder_append_inj {left right : Query} {ls rs : List Label}
    (h : left.preorder ++ ls = right.preorder ++ rs) : left = right ∧ ls = rs := by
  induction left generalizing right ls rs with
  | word term policy =>
    cases right with
    | word term' policy' => simpa [preorder, and_assoc] using h
    | not child => simp [preorder] at h
    | join op left right => simp [preorder] at h
  | not child ih =>
    cases right with
    | word term policy => simp [preorder] at h
    | not child' =>
      obtain ⟨rfl, rfl⟩ := ih (List.cons.inj h).2
      exact ⟨rfl, rfl⟩
    | join op left right => simp [preorder] at h
  | join op first second ihf ihs =>
    cases right with
    | word term policy => simp [preorder] at h
    | not child => simp [preorder] at h
    | join op' first' second' =>
      simp only [preorder, List.cons_append, List.append_assoc, List.cons.injEq,
        Label.join.injEq] at h
      obtain ⟨rfl, tails⟩ := h
      obtain ⟨rfl, tails'⟩ := ihf tails
      obtain ⟨rfl, rfl⟩ := ihs tails'
      exact ⟨rfl, rfl⟩

/-- Queries with the same labels are the same. -/
theorem sameAs_iff {left right : Query} : left.sameAs right = true ↔ left = right := by
  rw [sameAs, labels_eq_preorder, labels_eq_preorder, beq_iff_eq]
  constructor
  · intro h
    have whole : left.preorder ++ [] = right.preorder ++ [] := by rw [h]
    exact (preorder_append_inj whole).1
  · rintro rfl
    rfl

/-! ### Leaves -/

/-- The leaves of a query from left to right, as often as they occur. -/
def leaves : Query → List (String × MatchPolicy)
  | .word term policy => [(term, policy)]
  | .not child => child.leaves
  | .join _ left right => left.leaves ++ right.leaves

theorem terms_eq_map_leaves (query : Query) : query.terms = query.leaves.map (·.1) := by
  induction query with
  | word term policy => simp [terms, leaves]
  | not child ih => simpa [terms, leaves] using ih
  | join op left right ihl ihr => rw [terms_join, leaves, List.map_append, ihl, ihr]

/-! ### The order of reading -/

/-- The labels of a query in the order in which it is read. -/
def inorder : Query → List Label
  | .word term policy => [.word term policy]
  | .not child => .not :: child.inorder
  | .join op left right => left.inorder ++ .join op :: right.inorder

/-- The labels in the order of reading are those of all nodes. -/
theorem inorder_perm_labels (query : Query) : query.inorder.Perm query.labels := by
  rw [labels_eq_preorder]
  induction query with
  | word term policy => exact .refl _
  | not child ih => exact ih.cons _
  | join op left right ihl ihr =>
    have moved : (join op left right).inorder.Perm (.join op :: (left.inorder ++ right.inorder)) :=
      List.perm_middle
    exact moved.trans ((ihl.append ihr).cons _)

/-- The leaf that a label belongs to, if it is a word. -/
def Label.leaf? : Label → Option (String × MatchPolicy)
  | .word term policy => some (term, policy)
  | .not => none
  | .join _ => none

theorem leaves_eq_inorder (query : Query) :
    query.leaves = query.inorder.filterMap Label.leaf? := by
  induction query with
  | word term policy => rfl
  | not child ih => rw [leaves, ih]; rfl
  | join op left right ihl ihr =>
    rw [leaves, inorder, List.filterMap_append, ihl, ihr]
    rfl

end Query

end KeywordQuery
