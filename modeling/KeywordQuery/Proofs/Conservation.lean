import Mathlib
import KeywordQuery.Proofs.RoundTrip

/-!
# Reading keeps the tokens

No token is lost, made up or moved by reading.  The nodes of the query that is read from a text, in
the order of reading, are the tokens of the text without the parentheses, and those come in pairs.

* `Label.token` — the token that makes a node;
* `filterMap_tokens_eq_filter`, `count_tokens_ofText` — tokens as the grammar sees them and as they
  are spelled;
* `count_labels_of_parse` — the nodes and the tokens of one kind;
* `parse_keeps_tokens` — all of them together.
-/

namespace KeywordQuery

namespace Query

/-- The token that makes a node with the label. -/
def Label.token : Label → Token
  | .word term _ => .word term
  | .not => .not
  | .join op => op.token

variable {policy : MatchPolicy} {text : String} {query : Query}

theorem eq_token_of_tokenLabel? {token : Token} {label : Label}
    (h : tokenLabel? policy token = some label) : token = label.token := by
  cases token with
  | lparen => exact nomatch h
  | rparen => exact nomatch h
  | and | or | not | word term =>
    obtain rfl := Option.some.inj h
    rfl

/-! ### Tokens as they are spelled -/

theorem count_tokens_ofText (text token : String) :
    (tokens text).count (Token.ofText token) = (spelled text).count token := by
  have injective : Function.Injective Token.ofText :=
    Function.LeftInverse.injective Token.text_ofText
  rw [tokens_eq_map_spelled, List.count_map_of_injective _ _ injective]

/-- Choosing among the tokens of a text is filtering them, if what is chosen is the token as it is
spelled. -/
theorem filterMap_tokens_eq_filter {choose : Token → Option String} {keeps : String → Bool}
    (h : ∀ token, choose (Token.ofText token) = if keeps token then some token else none)
    (text : String) : (tokens text).filterMap choose = (spelled text).filter keeps := by
  have guarded : choose ∘ Token.ofText = Option.guard fun token => keeps token := by
    funext token
    rw [Function.comp_apply, h, Option.guard]
  rw [tokens_eq_map_spelled, List.filterMap_map, guarded, List.filterMap_eq_filter]

theorem text_tokenLabel? (token : String) :
    (tokenLabel? policy (Token.ofText token)).map (·.token.text) =
      if token ∉ ["(", ")"] then some token else none := by
  have spelling := Token.text_ofText token
  cases h : Token.ofText token with
  | lparen | rparen | and | or | not =>
    rw [h] at spelling
    subst spelling
    simp [tokenLabel?, Label.token, Connective.token, Token.text]
  | word term =>
    obtain ⟨rfl, notOpen, notClose, -⟩ := Token.ofText_eq_word h
    simp [tokenLabel?, Label.token, Token.text, notOpen, notClose]

theorem fst_leaf?_ofText (token : String) :
    (leaf? policy (Token.ofText token)).map (·.1) =
      if token ∉ ["(", ")", "and", "or", "not"] then some token else none := by
  have spelling := Token.text_ofText token
  cases h : Token.ofText token with
  | lparen | rparen | and | or | not =>
    rw [h] at spelling
    subst spelling
    simp [leaf?, Token.text]
  | word term =>
    obtain ⟨rfl, notOpen, notClose, reserved⟩ := Token.ofText_eq_word h
    simp [leaf?, notOpen, notClose, reserved]

/-! ### Nodes of what is read -/

/-- There are as many nodes with a label as tokens that make it. -/
theorem count_labels_of_parse (h : parse policy text = .ok query) {label : Label} (token : String)
    (made : tokenLabel? policy (Token.ofText token) = some label) :
    query.labels.count label = (spelled text).count token := by
  rw [← (inorder_perm_labels query).count_eq, (parse_eq_ok_iff.mp h).inorder_eq,
    List.count_filterMap, ← count_tokens_ofText, List.count]
  refine List.countP_congr fun other _ => ?_
  rw [beq_iff_eq, beq_iff_eq]
  constructor
  · intro same
    rw [eq_token_of_tokenLabel? same, eq_token_of_tokenLabel? made]
  · rintro rfl
    exact made

/-- **Reading keeps the tokens.**  In the order of reading, the nodes of the query are the tokens
of the text without the parentheses, and its words are those that are not reserved either.  There
are as many nodes of every kind as tokens of that kind, and as many opening parentheses as closing
ones. -/
theorem parse_keeps_tokens (h : parse policy text = .ok query) :
    query.inorder.map (·.token.text) = (spelled text).filter (· ∉ ["(", ")"]) ∧
    query.terms = (spelled text).filter (· ∉ ["(", ")", "and", "or", "not"]) ∧
    query.labels.count (.join .or) = (spelled text).count "or" ∧
    query.labels.count (.join .and) = (spelled text).count "and" ∧
    query.labels.count .not = (spelled text).count "not" ∧
    (spelled text).count "(" = (spelled text).count ")" := by
  have derived := parse_eq_ok_iff.mp h
  refine ⟨?_, ?_, count_labels_of_parse h "or" rfl, count_labels_of_parse h "and" rfl,
    count_labels_of_parse h "not" rfl, ?_⟩
  · rw [derived.inorder_eq, List.map_filterMap]
    exact filterMap_tokens_eq_filter (by simpa using text_tokenLabel?) text
  · rw [terms_eq_map_leaves, derived.leaves_eq_words, List.map_filterMap]
    exact filterMap_tokens_eq_filter (by simpa using fst_leaf?_ofText) text
  · rw [← count_tokens_ofText, ← count_tokens_ofText]
    exact derived.count_lparen

/-- A negated group, a group inside a group, and a word that occurs twice. -/
theorem grouped_words_kept :
    let text := "not (red or blue)and ((red)) or sky"
    let query := join .or (join .and (not (join .or (word "red" .word) (word "blue" .word)))
      (word "red" .word)) (word "sky" .word)
    parse .word text = .ok query ∧
    query.inorder.map (·.token.text) = ["not", "red", "or", "blue", "and", "red", "or", "sky"] ∧
    query.terms = ["red", "blue", "red", "sky"] ∧
    query.labels.count (.join .or) = 2 ∧ query.labels.count (.join .and) = 1 ∧
    query.labels.count .not = 1 ∧ (spelled text).count "(" = (spelled text).count ")" := by
  intro text query
  have read : parse .word text = .ok query := by cbv
  have scanned : spelled text = ["not", "(", "red", "or", "blue", ")", "and", "(", "(", "red", ")",
      ")", "or", "sky"] := by
    decide +kernel
  have kept := parse_keeps_tokens read
  rw [scanned] at kept ⊢
  exact ⟨read, kept⟩

end Query

end KeywordQuery
