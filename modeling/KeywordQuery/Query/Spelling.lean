import KeywordQuery.Query.Basic

/-!
# Spelling queries

The text of a query has every node but the words in parentheses.  It is written chain by chain,
which gives the same text as node by node.

* `Query.spell` — the text, node by node;
* `Query.toText` — the text, chain by chain; `toText_eq_spell` says that they agree;
* `Query.terms` — the words of a query from left to right, and `terms_join` for a connective.
-/

namespace KeywordQuery

namespace Query

/-- The spelling of a query: a word as it is, and every other node in parentheses. -/
def spell : Query → String
  | .word term _ => term
  | .not child => "(not " ++ child.spell ++ ")"
  | .join op left right => "(" ++ left.spell ++ " " ++ op.keyword ++ " " ++ right.spell ++ ")"

/-- A chain of spelled operands: all opening parentheses at once, and one closed after every
operand but the first. -/
def spellChain (op : Connective) : List String → String
  | [] => ""
  | first :: others =>
    String.ofList (List.replicate others.length '(') ++ first ++
      String.join (others.map fun other => " " ++ op.keyword ++ " " ++ other ++ ")")

/-- The spelling of a query, with every chain of one connective written in one go. -/
def toText : Query → String
  | .word term _ => term
  | .not child => "(not " ++ child.toText ++ ")"
  | .join op left right =>
    spellChain op ((operands op (.join op left right)).attach.map fun ⟨operand, _⟩ =>
      operand.toText)
termination_by query => sizeOf query
decreasing_by
  · simp
  · exact sizeOf_lt_of_mem_operands (by assumption)

instance : ToString Query := ⟨toText⟩

theorem spellChain_singleton (op : Connective) (text : String) : spellChain op [text] = text := by
  simp [spellChain]

theorem spellChain_concat {op : Connective} {parts : List String} (h : parts ≠ [])
    (last : String) : spellChain op (parts ++ [last]) =
      "(" ++ spellChain op parts ++ " " ++ op.keyword ++ " " ++ last ++ ")" := by
  match parts, h with
  | first :: others, _ =>
    have opening : String.ofList (List.replicate (others.length + 1) '(') =
        "(" ++ String.ofList (List.replicate others.length '(') := by
      rw [List.replicate_succ]
      simp
    simp [spellChain, opening, String.join_append, String.append_assoc]

theorem toText_join (op : Connective) (left right : Query) :
    (join op left right).toText =
      spellChain op ((operands op (.join op left right)).map toText) := by
  rw [toText]
  congr 1
  simp

theorem spellChain_operands (op : Connective) (query : Query) :
    spellChain op ((operands op query).map toText) = query.toText := by
  cases query with
  | word => exact spellChain_singleton op _
  | not => exact spellChain_singleton op _
  | join op' left right =>
    by_cases h : op' = op
    · subst h
      exact (toText_join op' left right).symm
    · simp only [operands, operandsOnto, h, if_false]
      exact spellChain_singleton op _

/-- Writing a query chain by chain gives the same text as writing it node by node. -/
theorem toText_eq_spell (query : Query) : query.toText = query.spell := by
  induction query with
  | word => simp [toText, spell]
  | not child ih => simp [toText, spell, ih]
  | join op left right ihl ihr =>
    rw [toText_join, operands_join_self, List.map_append, List.map_singleton,
      spellChain_concat (by simp [operands_ne_nil]), spellChain_operands, spell, ihl, ihr]

/-! ### Words -/

/-- The words of a query from left to right, as often as they occur. -/
def terms : Query → List String
  | .word term _ => [term]
  | .not child => child.terms
  | .join op left right =>
    (operands op (.join op left right)).attach.flatMap fun ⟨operand, _⟩ => operand.terms
termination_by query => sizeOf query
decreasing_by
  · simp
  · exact sizeOf_lt_of_mem_operands (by assumption)

theorem flatMap_terms_operands (op : Connective) (query : Query) :
    (operands op query).flatMap terms = query.terms := by
  cases query with
  | word => simp [operands, operandsOnto]
  | not => simp [operands, operandsOnto]
  | join op' left right =>
    by_cases h : op' = op
    · subst h
      rw [terms]
      simp [List.flatMap_subtype]
    · simp [operands, operandsOnto, h]

/-- The words of a connective are those of its left side and then those of its right side. -/
theorem terms_join (op : Connective) (left right : Query) :
    (join op left right).terms = left.terms ++ right.terms := by
  rw [← flatMap_terms_operands op, operands_join_self]
  simp [flatMap_terms_operands]

end Query

end KeywordQuery
