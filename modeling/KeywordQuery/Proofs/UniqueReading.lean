import Mathlib
import KeywordQuery.Proofs.RoundTrip

/-!
# The text of a query has one reading

A word may be spelled like an operator, and then the text of its query cannot be read back.  It
still tells which query was written.  A negation has two pieces between its parentheses and a
connective has three, where a piece is a word or all that stands in a pair of parentheses; so no
text is that of two queries, unless they differ in the policies of their words.

* `EqualUpToPolicies` — queries of one shape with the same words at the same places;
* `eq_singleton_of_pieces_append` — a query whose pieces begin with no parenthesis is a word;
* `not_pieces_ne_join_pieces` — no negation has the pieces of a connective;
* `equalUpToPolicies_of_pieces_append` — the pieces of a query are no beginning of those of another;
* `toText_eq_iff` — which queries have the same text.
-/

namespace KeywordQuery

theorem Connective.eq_of_keyword_eq {op op' : Connective} (h : op.keyword = op'.keyword) :
    op = op' := by
  cases op with
  | and =>
    cases op' with
    | and => rfl
    | or => exact absurd h (by decide)
  | or =>
    cases op' with
    | and => exact absurd h (by decide)
    | or => rfl

namespace Query

/-- The queries have the same shape, with nodes of the same kinds and the same terms at the same
places.  Only the policies of their leaves may differ. -/
inductive EqualUpToPolicies : Query → Query → Prop where
  | word (term : String) (policy policy' : MatchPolicy) :
      EqualUpToPolicies (.word term policy) (.word term policy')
  | not {child child' : Query} (inner : EqualUpToPolicies child child') :
      EqualUpToPolicies (.not child) (.not child')
  | join (op : Connective) {left left' right right' : Query}
      (first : EqualUpToPolicies left left') (second : EqualUpToPolicies right right') :
      EqualUpToPolicies (.join op left right) (.join op left' right')

/-- A text does not show the policies of its words. -/
theorem EqualUpToPolicies.spell_eq {left right : Query} (h : EqualUpToPolicies left right) :
    left.spell = right.spell := by
  induction h with
  | word term policy policy' => rfl
  | not inner ih => rw [spell, spell, ih]
  | join op first second ihf ihs => rw [spell, spell, ihf, ihs]

/-! ### Pieces -/

/-- The pieces of a query begin with a parenthesis, unless the query is a word. -/
theorem pieces_cases (query : Query) :
    (∃ term policy, query = .word term policy) ∨ ∃ rest, query.pieces = "(" :: rest := by
  cases query with
  | word term policy => exact .inl ⟨term, policy, rfl⟩
  | not child => exact .inr ⟨_, rfl⟩
  | join op left right => exact .inr ⟨_, rfl⟩

theorem eq_singleton_of_pieces_append {query : Query} {first : String} {ls rs : List String}
    (noParen : first ≠ "(") (h : query.pieces ++ ls = first :: rs) :
    query.pieces = [first] ∧ ls = rs := by
  rcases query.pieces_cases with ⟨term, policy, rfl⟩ | ⟨rest, grouped⟩
  · obtain ⟨rfl, rfl⟩ := List.cons.inj h
    exact ⟨rfl, rfl⟩
  · rw [grouped] at h
    exact absurd (List.cons.inj h).1.symm noParen

/-- No query with unbroken words begins with the end of a group. -/
theorem pieces_append_ne_rparen {query : Query}
    (unbroken : ∀ leaf ∈ query.leaves, IsUnbroken leaf.1) (ls rs : List String) :
    query.pieces ++ ls ≠ ")" :: rs := by
  intro h
  rcases query.pieces_cases with ⟨term, policy, rfl⟩ | ⟨rest, grouped⟩
  · have word : IsUnbroken term := unbroken (term, policy) List.mem_cons_self
    exact word.ne_paren.2 (List.cons.inj h).1
  · rw [grouped] at h
    exact absurd (List.cons.inj h).1 (by decide)

/-- If a negation and a connective had the same pieces, the left side would be the word `not`, the
child would be spelled like the connective, and nothing would be left for the right side. -/
theorem not_pieces_ne_join_pieces {child left right : Query} {op : Connective}
    (unbroken : ∀ leaf ∈ right.leaves, IsUnbroken leaf.1) (ls rs : List String) :
    "not" :: (child.pieces ++ ")" :: ls) ≠
      left.pieces ++ op.keyword :: (right.pieces ++ ")" :: rs) := by
  intro h
  obtain ⟨-, afterNot⟩ := eq_singleton_of_pieces_append (by decide) h.symm
  have noParen : op.keyword ≠ "(" := (isUnbroken_keyword op).ne_paren.1
  obtain ⟨-, afterChild⟩ := eq_singleton_of_pieces_append noParen afterNot.symm
  exact pieces_append_ne_rparen unbroken (")" :: rs) ls afterChild.symm

/-- **Pieces are no beginning of one another.**  Two queries with unbroken words whose pieces start
two equal lists are equal up to their policies, and what follows is equal. -/
theorem equalUpToPolicies_of_pieces_append {left right : Query} {ls rs : List String}
    (hl : ∀ leaf ∈ left.leaves, IsUnbroken leaf.1) (hr : ∀ leaf ∈ right.leaves, IsUnbroken leaf.1)
    (h : left.pieces ++ ls = right.pieces ++ rs) : EqualUpToPolicies left right ∧ ls = rs := by
  induction left generalizing right ls rs with
  | word term policy =>
    have noParen : term ≠ "(" := (hl (term, policy) List.mem_cons_self).ne_paren.1
    obtain ⟨single, rest⟩ := eq_singleton_of_pieces_append noParen h.symm
    cases right with
    | word term' policy' =>
      obtain ⟨rfl, -⟩ := List.cons.inj single
      exact ⟨.word term' policy policy', rest.symm⟩
    | not child => exact absurd (List.cons.inj single).1.symm noParen
    | join op first second => exact absurd (List.cons.inj single).1.symm noParen
  | not child ih =>
    simp only [pieces, List.cons_append, List.append_assoc, List.nil_append] at h
    cases right with
    | word term policy =>
      have noParen : term ≠ "(" := (hr (term, policy) List.mem_cons_self).ne_paren.1
      exact absurd (List.cons.inj h).1.symm noParen
    | not child' =>
      simp only [pieces, List.cons_append, List.append_assoc, List.nil_append, List.cons.injEq,
        true_and] at h
      have unbroken : ∀ leaf ∈ child'.leaves, IsUnbroken leaf.1 := hr
      obtain ⟨inner, rest⟩ := ih hl unbroken h
      exact ⟨.not inner, (List.cons.inj rest).2⟩
    | join op first second =>
      simp only [pieces, List.cons_append, List.append_assoc, List.nil_append, List.cons.injEq,
        true_and] at h
      have unbroken : ∀ leaf ∈ second.leaves, IsUnbroken leaf.1 :=
        fun leaf mem => hr leaf (List.mem_append_right _ mem)
      exact absurd h (not_pieces_ne_join_pieces unbroken ls rs)
  | join op first second ihf ihs =>
    obtain ⟨hf, hs⟩ := List.forall_mem_append.mp hl
    simp only [pieces, List.cons_append, List.append_assoc, List.nil_append] at h
    cases right with
    | word term policy =>
      have noParen : term ≠ "(" := (hr (term, policy) List.mem_cons_self).ne_paren.1
      exact absurd (List.cons.inj h).1.symm noParen
    | not child =>
      simp only [pieces, List.cons_append, List.append_assoc, List.nil_append, List.cons.injEq,
        true_and] at h
      exact absurd h.symm (not_pieces_ne_join_pieces hs rs ls)
    | join op' first' second' =>
      obtain ⟨hf', hs'⟩ := List.forall_mem_append.mp hr
      simp only [pieces, List.cons_append, List.append_assoc, List.nil_append, List.cons.injEq,
        true_and] at h
      obtain ⟨before, middle⟩ := ihf hf hf' h
      obtain ⟨keyword, behind⟩ := List.cons.inj middle
      obtain ⟨after, rest⟩ := ihs hs hs' behind
      obtain rfl := Connective.eq_of_keyword_eq keyword
      exact ⟨.join op before after, (List.cons.inj rest).2⟩

/-! ### Texts -/

/-- **One reading for every text.**  Two queries whose words are not empty and hold neither blanks
nor parentheses have the same text exactly if they differ in nothing but the policies of their
leaves.  Words that are spelled like operators are no exception. -/
theorem toText_eq_iff {left right : Query} (hl : ∀ term ∈ left.terms, IsUnbroken term)
    (hr : ∀ term ∈ right.terms, IsUnbroken term) :
    left.toText = right.toText ↔ EqualUpToPolicies left right := by
  rw [terms_eq_map_leaves, List.forall_mem_map] at hl hr
  constructor
  · intro same
    have pieces : left.pieces = right.pieces := by
      rw [← lexemeTexts_toText hl, ← lexemeTexts_toText hr, same]
    have whole : left.pieces ++ [] = right.pieces ++ [] := by rw [pieces]
    exact (equalUpToPolicies_of_pieces_append hl hr whole).1
  · intro alike
    rw [toText_eq_spell, toText_eq_spell, alike.spell_eq]

/-- All three reserved words are words here, and the text is refused by the reader; but a query with
this text has the same words at the same places. -/
theorem operators_as_words_alike :
    let left := join .and (not (word "and" .word)) (join .or (word "not" .word) (word "or" .word))
    let right := join .and (not (word "and" .substring))
      (join .or (word "not" .substring) (word "or" .word))
    (∀ term ∈ left.terms, IsUnbroken term) ∧ (∀ term ∈ right.terms, IsUnbroken term) ∧
      left.toText = "((not and) and (not or or))" ∧ left.toText = right.toText ∧
      EqualUpToPolicies left right ∧
      parse .word left.toText = .error ⟨.term, some "and", 6⟩ := by
  intro left right
  have reserved : ∀ term ∈ ["and", "not", "or"], IsUnbroken term := by
    intro term mem
    refine isUnbroken_of_isWordPart ?_ ?_
    · rintro rfl
      exact absurd mem (by decide)
    · have parts : ∀ term ∈ ["and", "not", "or"], term.toList.all isWordPart = true := by decide
      exact List.all_eq_true.mp (parts term mem)
  have hl : ∀ term ∈ left.terms, IsUnbroken term := by
    rw [terms_eq_map_leaves]
    exact reserved
  have hr : ∀ term ∈ right.terms, IsUnbroken term := by
    rw [terms_eq_map_leaves]
    exact reserved
  have text : left.toText = "((not and) and (not or or))" := by
    rw [toText_eq_spell]
    rfl
  have same : left.toText = right.toText := by
    rw [toText_eq_spell, toText_eq_spell]
    rfl
  refine ⟨hl, hr, text, same, (toText_eq_iff hl hr).mp same, ?_⟩
  rw [text]
  cbv

end Query

end KeywordQuery
