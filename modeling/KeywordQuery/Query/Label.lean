import KeywordQuery.Query.Basic

/-!
# Labels of queries

The labels of its nodes in pre-order identify a query.

* `Query.Label` — what a node is, apart from its children;
* `Query.labels` — the labels of all nodes, taken from a stack; `labels_eq_preorder` says that they
  are those of `Query.preorder`;
* `Query.sameAs` — equality by labels, and `Query.distinct`, the different members of a list.
-/

namespace KeywordQuery

namespace Query

/-- What a node is, apart from its children. -/
inductive Label where
  | word (term : String) (policy : MatchPolicy)
  | not
  | join (op : Connective)
  deriving Repr, DecidableEq, Hashable

/-- The label of the root of a query. -/
def label : Query → Label
  | .word term policy => .word term policy
  | .not _ => .not
  | .join op _ _ => .join op

/-- The children of the root of a query. -/
def children : Query → List Query
  | .word _ _ => []
  | .not child => [child]
  | .join _ left right => [left, right]

/-- The number of nodes. -/
def size : Query → Nat
  | .word _ _ => 1
  | .not child => child.size + 1
  | .join _ left right => left.size + right.size + 1

/-- The number of nodes of the queries on a stack. -/
def sizes : List Query → Nat
  | [] => 0
  | query :: stack => query.size + sizes stack

theorem sizes_append (left right : List Query) :
    sizes (left ++ right) = sizes left + sizes right := by
  induction left with
  | nil => simp [sizes]
  | cons query left ih => simp [sizes, ih, Nat.add_assoc]

theorem size_eq_sizes_children (query : Query) : query.size = sizes query.children + 1 := by
  cases query <;> simp [size, children, sizes]

theorem sizes_children_append_lt (query : Query) (stack : List Query) :
    sizes (query.children ++ stack) < sizes (query :: stack) := by
  simp only [sizes_append, sizes, size_eq_sizes_children query]
  omega

/-- The labels of the queries on a stack, each followed by those below it. -/
def labelsOfStack : List Query → List Label
  | [] => []
  | query :: stack => query.label :: labelsOfStack (query.children ++ stack)
termination_by stack => sizes stack
decreasing_by exact sizes_children_append_lt query stack

/-- The labels of all nodes in pre-order. -/
def labels (query : Query) : List Label := labelsOfStack [query]

/-- The labels of all nodes: that of the root, and then those of its children. -/
def preorder : Query → List Label
  | .word term policy => [.word term policy]
  | .not child => .not :: child.preorder
  | .join op left right => .join op :: (left.preorder ++ right.preorder)

theorem preorder_eq_label_cons (query : Query) :
    query.preorder = query.label :: query.children.flatMap preorder := by
  cases query <;> simp [preorder, label, children]

theorem labelsOfStack_eq_flatMap (stack : List Query) :
    labelsOfStack stack = stack.flatMap preorder := by
  fun_induction labelsOfStack stack with
  | case1 => rfl
  | case2 query stack ih => simp [ih, preorder_eq_label_cons query]

/-- The stack yields the labels in pre-order. -/
theorem labels_eq_preorder (query : Query) : query.labels = query.preorder := by
  simp [labels, labelsOfStack_eq_flatMap]

/-- Whether two queries have the same nodes in the same places, told by their labels. -/
def sameAs (left right : Query) : Bool := left.labels == right.labels

instance : Hashable Query := ⟨fun query => hash query.labels⟩

/-- The members of a list of which no later one is the same query. -/
def distinct : List Query → List Query
  | [] => []
  | query :: rest => if rest.any query.sameAs then distinct rest else query :: distinct rest

end Query

end KeywordQuery
