import KeywordQuery.Proofs.Derivation
import KeywordQuery.Proofs.Nodes
import KeywordQuery.Proofs.Scanning

/-!
# Reading what was spelled

The text of a query reads back to the query exactly if its words are terms under the policy of the
reader.  What is read from a text has such words, so it survives being spelled.

* `Derives.leaves_eq_words` — the leaves of a derivation are the words among its tokens;
* `pieces` — the tokens that the text of a query is meant to have, and `lexemeTexts_toText` that it
  has them if its words are unbroken;
* `derives_pieces`, `derives_toText` — those tokens spell the query again;
* `parse_toText_iff` — the round trip, exactly where it holds.
-/

namespace KeywordQuery

namespace Query

variable {policy : MatchPolicy}

/-- Every leaf is under the policy, and is a term. -/
def IsReadable (policy : MatchPolicy) (query : Query) : Prop :=
  ∀ leaf ∈ query.leaves, leaf.2 = policy ∧ IsTerm leaf.1

/-! ### What is read is readable -/

/-- The leaf that a token makes under a policy, if it is a word. -/
def leaf? (policy : MatchPolicy) : Token → Option (String × MatchPolicy)
  | .word term => some (term, policy)
  | _ => none

/-- The leaves of a derivation are the words among its tokens, in order. -/
theorem Derives.leaves_eq_words {rank : Rank} {tokens : List Token} {query : Query}
    (h : Derives policy rank tokens query) : query.leaves = tokens.filterMap (leaf? policy) := by
  have leaf (token : Token) : (tokenLabel? policy token).bind Label.leaf? = leaf? policy token := by
    cases token <;> rfl
  rw [leaves_eq_inorder, h.inorder_eq, List.filterMap_filterMap]
  simp only [leaf]

theorem isReadable_of_parse {text : String} {query : Query}
    (h : parse policy text = .ok query) : query.IsReadable policy := by
  intro leaf hl
  rw [(parse_eq_ok_iff.mp h).leaves_eq_words, List.mem_filterMap] at hl
  obtain ⟨token, hm, made⟩ := hl
  match token, made with
  | .word term, made =>
    obtain rfl := Option.some.inj made
    exact ⟨rfl, isTerm_of_word_mem_tokens hm⟩

/-! ### What is readable is read -/

/-- The tokens that the text of a query is meant to have. -/
def pieces : Query → List String
  | .word term _ => [term]
  | .not child => "(" :: "not" :: (child.pieces ++ [")"])
  | .join op left right => "(" :: (left.pieces ++ op.keyword :: (right.pieces ++ [")"]))

theorem isUnbroken_keyword (op : Connective) : IsUnbroken op.keyword := by
  cases op with
  | and => exact isUnbroken_of_isWordPart (by decide) (List.all_eq_true.mp (by decide))
  | or => exact isUnbroken_of_isWordPart (by decide) (List.all_eq_true.mp (by decide))

/-- **Scanning a spelling.**  The text of a query with unbroken words has the tokens it is meant to
have, reserved words among them or not. -/
theorem lexemeTexts_toText {query : Query} (h : ∀ leaf ∈ query.leaves, IsUnbroken leaf.1) :
    lexemeTexts query.toText.toList = query.pieces := by
  rw [toText_eq_spell]
  induction query with
  | word term policy => exact lexemeTexts_unbroken (h (term, policy) (by simp [leaves]))
  | not child ih =>
    have inner := ih h
    have text : (not child).spell.toList =
        '(' :: ("not".toList ++ ' ' :: (child.spell.toList ++ [')'])) := by
      simp [spell]
    have keyword : IsUnbroken "not" :=
      isUnbroken_of_isWordPart (by decide) (List.all_eq_true.mp (by decide))
    rw [text, lexemeTexts_paren (by decide), lexemeTexts_append_blank (by decide),
      lexemeTexts_append_paren (by decide), lexemeTexts_unbroken keyword, inner, lexemeTexts_nil]
    rfl
  | join op left right ihl ihr =>
    have before := ihl fun leaf hl => h leaf (by simp [leaves, hl])
    have after := ihr fun leaf hl => h leaf (by simp [leaves, hl])
    have text : (join op left right).spell.toList = '(' :: (left.spell.toList ++
        ' ' :: (op.keyword.toList ++ ' ' :: (right.spell.toList ++ [')']))) := by
      simp [spell]
    rw [text, lexemeTexts_paren (by decide), lexemeTexts_append_blank (by decide),
      lexemeTexts_append_blank (by decide), lexemeTexts_append_paren (by decide), before,
      lexemeTexts_unbroken (isUnbroken_keyword op), after, lexemeTexts_nil]
    rfl

theorem ofText_keyword (op : Connective) : Token.ofText op.keyword = op.token := by
  cases op <;> rfl

theorem Derives.ofRank {op : Connective} {tokens : List Token} {query : Query}
    (h : Derives policy op.rank tokens query) : Derives policy .disjunction tokens query := by
  cases op with
  | and => exact .ofConjunction h
  | or => exact h

theorem Derives.ofPrimaryAt {op : Connective} {tokens : List Token} {query : Query}
    (h : Derives policy .primary tokens query) : Derives policy op.operandRank tokens query := by
  cases op with
  | and => exact .ofPrimary h
  | or => exact .ofNegation (.ofPrimary h)

/-- The tokens of a readable query spell it again, as a primary. -/
theorem derives_pieces {query : Query} (h : query.IsReadable policy) :
    Derives policy .primary (query.pieces.map Token.ofText) query := by
  induction query with
  | word term policy' =>
    obtain ⟨rfl, isTerm⟩ := h (term, policy') (by simp [leaves])
    simp only [pieces, List.map_cons, List.map_nil, isTerm.ofText]
    exact .word term
  | not child ih =>
    have inner : Derives policy .negation
        (.not :: child.pieces.map Token.ofText) (.not child) := .not (.ofPrimary (ih h))
    have grouped := Derives.group (.ofConjunction (.ofNegation inner))
    simpa [pieces] using grouped
  | join op left right ihl ihr =>
    have before := ihl fun leaf hl => h leaf (by simp [leaves, hl])
    have after := ihr fun leaf hl => h leaf (by simp [leaves, hl])
    have start : Derives policy op.rank _ left := before.ofPrimaryAt.ofOperand
    have grouped := Derives.group (start.join after.ofPrimaryAt).ofRank
    simpa [pieces, ofText_keyword] using grouped

/-- The text of a readable query is a primary, so it can be an operand at every level. -/
theorem derives_toText {query : Query} (h : query.IsReadable policy) :
    Derives policy .primary (tokens query.toText) query := by
  have spelled := derives_pieces h
  rwa [← lexemeTexts_toText fun leaf hl => (h leaf hl).2.toIsUnbroken, ← tokens_eq_map] at spelled

theorem parse_toText {query : Query} (h : query.IsReadable policy) :
    parse policy query.toText = .ok query :=
  parse_eq_ok_iff.mpr (.ofConjunction (.ofNegation (.ofPrimary (derives_toText h))))

/-- **The round trip, exactly where it holds.**  The text of a query reads back to the same query
exactly if every leaf is a term under the policy of the reader.  In particular what is read from a
text reads back to itself, and a text that is refused stays refused. -/
theorem parse_toText_iff (policy : MatchPolicy) (query : Query) :
    ((∃ again, parse policy query.toText = .ok again ∧ again.sameAs query = true) ↔
      ∀ leaf ∈ query.leaves, leaf.2 = policy ∧ IsTerm leaf.1) ∧
    ∀ text, (parse policy text >>= fun read => parse policy read.toText) = parse policy text := by
  refine ⟨⟨?_, fun readable => ?_⟩, fun text => ?_⟩
  · rintro ⟨again, read, same⟩
    obtain rfl := sameAs_iff.mp same
    exact isReadable_of_parse read
  · exact ⟨query, parse_toText readable, sameAs_iff.mpr rfl⟩
  · rcases h : parse policy text with fault | read
    · rfl
    · exact parse_toText (isReadable_of_parse h)

/-- A parenthesis ends the word that it stands in, so this leaf does not read back. -/
example : tokens (word "a)" .word).toText = [.word "a", .rparen] := by
  decide +kernel

end Query

end KeywordQuery
