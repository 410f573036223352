import KeywordQuery.Proofs.Nodes
import KeywordQuery.Token

/-!
# Queries are spelled by nesting

A query is written and its words are listed chain by chain, in loops along the left side.  Both come
to what plain recursion over the tree comes to.  The text has one pair of parentheses for every node
that is no word, and no others unless a word holds some.

* `Label.isInner` — the nodes that have children;
* `count_enclosed` — a pair of parentheses around a text;
* `count_spell` — how often each parenthesis stands in the text of a query;
* `written_by_nesting` — text, words and parentheses of a query.
-/

namespace KeywordQuery

namespace Query

/-- Whether the node has children: it is a negation or a connective. -/
def Label.isInner : Label → Bool
  | .word _ _ => false
  | .not => true
  | .join _ => true

/-! ### Parentheses in a text -/

/-- A pair of parentheses has each of the two once. -/
theorem count_enclosed {paren : Char} (h : isParen paren = true) (inside : List Char) :
    ('(' :: (inside ++ [')'])).count paren = inside.count paren + 1 := by
  simp only [isParen, Bool.or_eq_true, beq_iff_eq] at h
  rcases h with rfl | rfl
  · simp
  · simp

theorem count_keyword {paren : Char} (h : isParen paren = true) (op : Connective) :
    (' ' :: (op.keyword.toList ++ [' '])).count paren = 0 := by
  simp only [isParen, Bool.or_eq_true, beq_iff_eq] at h
  rcases h with rfl | rfl
  · cases op <;> rfl
  · cases op <;> rfl

theorem count_not {paren : Char} (h : isParen paren = true) :
    "not ".toList.count paren = 0 := by
  simp only [isParen, Bool.or_eq_true, beq_iff_eq] at h
  rcases h with rfl | rfl
  · rfl
  · rfl

/-- Each parenthesis stands in the text of a query once for every inner node, and wherever a word
holds it. -/
theorem count_spell {paren : Char} (h : isParen paren = true) (query : Query) :
    query.spell.toList.count paren =
      query.preorder.countP Label.isInner +
        (query.leaves.flatMap fun leaf => leaf.1.toList).count paren := by
  induction query with
  | word term policy => simp [spell, preorder, leaves, Label.isInner]
  | not child ih =>
    have text : (not child).spell.toList =
        '(' :: (("not ".toList ++ child.spell.toList) ++ [')']) := by
      simp [spell]
    have inner : (not child).preorder.countP Label.isInner =
        child.preorder.countP Label.isInner + 1 := List.countP_cons_of_pos rfl
    rw [text, count_enclosed h, List.count_append, count_not h, ih, inner, leaves]
    omega
  | join op left right ihl ihr =>
    have text : (join op left right).spell.toList = '(' :: ((left.spell.toList ++
        (' ' :: (op.keyword.toList ++ [' ']) ++ right.spell.toList)) ++ [')']) := by
      simp [spell]
    have inner : (join op left right).preorder.countP Label.isInner =
        left.preorder.countP Label.isInner + right.preorder.countP Label.isInner + 1 := by
      rw [preorder, List.countP_cons_of_pos rfl, List.countP_append]
    rw [text, count_enclosed h, List.count_append, List.count_append, count_keyword h, ihl, ihr,
      inner, leaves, List.flatMap_append, List.count_append]
    omega

/-- The parenthesis stands in the text of a query once for every inner node exactly if no word
holds it. -/
theorem count_toText_iff {paren : Char} (h : isParen paren = true) (query : Query) :
    query.toText.toList.count paren = query.labels.countP Label.isInner ↔
      ∀ term ∈ query.terms, paren ∉ term.toList := by
  rw [toText_eq_spell, labels_eq_preorder, count_spell h, Nat.add_eq_left, List.count_eq_zero,
    terms_eq_map_leaves, List.forall_mem_map, List.mem_flatMap]
  constructor
  · intro free leaf hl held
    exact free ⟨leaf, hl, held⟩
  · rintro free ⟨leaf, hl, held⟩
    exact free leaf hl held

/-- **Queries are spelled by nesting.**  Written chain by chain, a query has the text that it has
node by node, and its words are those of its leaves from left to right.  Its text has both
parentheses as often as the query has negations and connectives, exactly if no word holds one. -/
theorem written_by_nesting (query : Query) :
    query.toText = query.spell ∧
    query.terms = query.leaves.map (·.1) ∧
    (query.toText.toList.count '(' = query.labels.countP Label.isInner ∧
        query.toText.toList.count ')' = query.labels.countP Label.isInner ↔
      ∀ term ∈ query.terms, '(' ∉ term.toList ∧ ')' ∉ term.toList) := by
  refine ⟨toText_eq_spell query, terms_eq_map_leaves query, ?_⟩
  rw [count_toText_iff (by decide), count_toText_iff (by decide)]
  constructor
  · rintro ⟨opening, closing⟩ term hterm
    exact ⟨opening term hterm, closing term hterm⟩
  · intro free
    exact ⟨fun term hterm => (free term hterm).1, fun term hterm => (free term hterm).2⟩

/-- A chain in a negation in a chain of the same connective. -/
example :
    let chain := join .or (word "red" .word) (word "blue" .word)
    (join .or (join .or chain (not chain)) (word "sky" .word)).toText =
      "(((red or blue) or (not (red or blue))) or sky)" := by
  decide +kernel

end Query

end KeywordQuery
