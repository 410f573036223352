import KeywordQuery.Proofs.Nodes
import KeywordQuery.Proofs.Reading

/-!
# Reading is derivation

The reader finds the tree of a derivation and nothing else, so a list of tokens has one tree at
most.

* `Derives.read` — the readers follow a derivation, whatever comes after its tokens;
* `ofTokens_eq_ok_iff` — reading all of the tokens is deriving them;
* `derives_rank_iff` — the left-recursive rules of a connective are a repetition, folded from the
  left;
* `Derives.inorder_eq`, `Derives.count_lparen` — every token but the parentheses makes a node, and
  parentheses come in pairs;
* `parse_reads_derivation` — the queries of texts.
-/

namespace KeywordQuery

namespace Query

variable {policy : MatchPolicy}

/-! ### Completeness -/

/-- What the reader of a level does on tokens that spell a query.  A chain may go on, so there the
query becomes the left side of what follows. -/
def Read (policy : MatchPolicy) (tokens : List Token) (query : Query) : Rank → Prop
  | .primary => ∀ rest, outcome (primary policy (tokens ++ rest)) = .ok (query, rest)
  | .negation => ∀ rest, outcome (negation policy (tokens ++ rest)) = .ok (query, rest)
  | .conjunction => ∀ rest, outcome (chain policy .and (tokens ++ rest)) =
      outcome (chainTail policy .and query rest)
  | .disjunction => ∀ rest, rest.head? ≠ some .and →
      outcome (chain policy .or (tokens ++ rest)) = outcome (chainTail policy .or query rest)

theorem Derives.head?_ne_not {tokens : List Token} {query : Query}
    (h : Derives policy .primary tokens query) (rest : List Token) :
    (tokens ++ rest).head? ≠ some .not := by
  cases h with
  | word term => simp
  | group inner => simp

/-- **Completeness.**  The reader of a level follows every derivation at that level. -/
theorem Derives.read {rank : Rank} {tokens : List Token} {query : Query}
    (h : Derives policy rank tokens query) : Read policy tokens query rank := by
  induction h with
  | word term => exact outcome_primary_word term
  | @group tokens query inner ih =>
    intro rest
    -- A closing parenthesis goes on with no connective, so the chain inside stops there.
    have inside : outcome (chain policy .or (tokens ++ .rparen :: rest)) =
        .ok (query, .rparen :: rest) := by
      rw [ih (.rparen :: rest) (by simp)]
      exact outcome_chainTail_stop (by simp [Connective.token]) query
    rw [List.cons_append, List.append_assoc, outcome_primary_lparen, List.singleton_append, inside]
    rfl
  | ofPrimary inner ih =>
    intro rest
    rw [outcome_negation_primary (inner.head?_ne_not rest)]
    exact ih rest
  | not inner ih =>
    intro rest
    rw [List.cons_append, outcome_negation_not, ih rest]
    rfl
  | ofNegation inner ih =>
    intro rest
    rw [outcome_chain, outcome_operand_and, ih rest]
    rfl
  | and first last ihf ihl =>
    intro rest
    rw [List.append_assoc, ihf, List.cons_append]
    refine (outcome_chainTail_token .and _ _).trans ?_
    rw [outcome_operand_and, ihl rest]
    rfl
  | ofConjunction inner ih =>
    intro rest noAnd
    rw [outcome_chain, outcome_operand_or, ih rest, outcome_chainTail_stop noAnd]
    rfl
  | or first last ihf ihl =>
    intro rest noAnd
    rw [List.append_assoc, ihf _ (by simp), List.cons_append]
    refine (outcome_chainTail_token .or _ _).trans ?_
    rw [outcome_operand_or, ihl rest, outcome_chainTail_stop noAnd]
    rfl

theorem ofTokens_of_derives {tokens : List Token} {query : Query}
    (h : Derives policy .disjunction tokens query) : ofTokens policy tokens = .ok query := by
  have whole := h.read [] (by simp)
  rw [List.append_nil, outcome_chainTail_stop (by simp)] at whole
  rw [ofTokens_eq, whole]
  rfl

/-- Reading all of the tokens is deriving them. -/
theorem ofTokens_eq_ok_iff {tokens : List Token} {query : Query} :
    ofTokens policy tokens = .ok query ↔ Derives policy .disjunction tokens query := by
  refine ⟨fun h => ?_, ofTokens_of_derives⟩
  have accounted := ofTokens_accounts policy tokens
  rw [h] at accounted
  exact accounted

theorem parse_eq_ok_iff {text : String} {query : Query} :
    parse policy text = .ok query ↔ Derives policy .disjunction (tokens text) query := by
  rw [← ofTokens_eq_ok_iff, parse]
  rcases ofTokens policy (tokens text) with refusal | found
  · simp
  · simp

/-! ### Repetition -/

/-- More operands, each behind the connective, extend a chain on its left side. -/
theorem Derives.foldl_join {op : Connective} {before : List Token} {left : Query}
    {others : List (List Token × Query)} (start : Derives policy op.rank before left)
    (parts : ∀ part ∈ others, Derives policy op.operandRank part.1 part.2) :
    Derives policy op.rank (before ++ others.flatMap fun part => op.token :: part.1)
      (others.foldl (fun left part => .join op left part.2) left) := by
  induction others generalizing before left with
  | nil => simpa using start
  | cons part others ih =>
    have more := ih (start.join (parts part (by simp))) fun part' h => parts part' (by simp [h])
    simpa using more

theorem Derives.rank_cases {op : Connective} {tokens : List Token} {query : Query}
    (h : Derives policy op.rank tokens query) :
    Derives policy op.operandRank tokens query ∨
      ∃ before after left right, tokens = before ++ op.token :: after ∧
        query = .join op left right ∧ Derives policy op.rank before left ∧
        Derives policy op.operandRank after right := by
  cases op with
  | and =>
    cases h with
    | ofNegation inner => exact .inl inner
    | and first last => exact .inr ⟨_, _, _, _, rfl, rfl, first, last⟩
  | or =>
    cases h with
    | ofConjunction inner => exact .inl inner
    | or first last => exact .inr ⟨_, _, _, _, rfl, rfl, first, last⟩

/-- An operand and any number of further ones, each behind the connective, folded from the left. -/
def Repeats (policy : MatchPolicy) (op : Connective) (tokens : List Token) (query : Query) : Prop :=
  ∃ (first : List Token × Query) (others : List (List Token × Query)),
    (∀ part ∈ first :: others, Derives policy op.operandRank part.1 part.2) ∧
    tokens = first.1 ++ others.flatMap (fun part => op.token :: part.1) ∧
    query = others.foldl (fun left part => .join op left part.2) first.2

theorem Derives.repeats {op : Connective} {tokens : List Token} {query : Query}
    (h : Derives policy op.rank tokens query) : Repeats policy op tokens query := by
  induction query generalizing tokens with
  | word term policy' =>
    rcases h.rank_cases with operand | ⟨_, _, _, _, _, impossible, _⟩
    · exact ⟨(tokens, _), [], by simpa using operand, by simp, rfl⟩
    · exact nomatch impossible
  | not child ih =>
    rcases h.rank_cases with operand | ⟨_, _, _, _, _, impossible, _⟩
    · exact ⟨(tokens, _), [], by simpa using operand, by simp, rfl⟩
    · exact nomatch impossible
  | join op' left right ihl ihr =>
    rcases h.rank_cases with operand | ⟨before, after, left', right', rfl, same, start, last⟩
    · exact ⟨(tokens, _), [], by simpa using operand, by simp, rfl⟩
    · obtain ⟨rfl, rfl, rfl⟩ := Query.join.inj same
      obtain ⟨first, others, parts, rfl, rfl⟩ := ihl start
      refine ⟨first, others ++ [(after, right)], ?_, by simp, by simp⟩
      intro part hp
      rw [← List.cons_append, List.mem_append] at hp
      rcases hp with h | h
      · exact parts part h
      · obtain rfl := List.mem_singleton.mp h
        exact last

/-- The left-recursive rules of a connective derive exactly the repetitions of its operands. -/
theorem derives_rank_iff {op : Connective} {tokens : List Token} {query : Query} :
    Derives policy op.rank tokens query ↔ Repeats policy op tokens query := by
  refine ⟨Derives.repeats, ?_⟩
  rintro ⟨first, others, parts, rfl, rfl⟩
  have start : Derives policy op.rank first.1 first.2 := (parts first (by simp)).ofOperand
  exact start.foldl_join fun part h => parts part (by simp [h])

/-! ### What a derivation keeps -/

/-- The label of the node that a token makes under a policy; parentheses make none. -/
def tokenLabel? (policy : MatchPolicy) : Token → Option Label
  | .word term => some (.word term policy)
  | .not => some .not
  | .and => some (.join .and)
  | .or => some (.join .or)
  | .lparen => none
  | .rparen => none

/-- **Every token but the parentheses makes a node.**  In the order of reading, the nodes of a
derivation are those of its tokens. -/
theorem Derives.inorder_eq {rank : Rank} {tokens : List Token} {query : Query}
    (h : Derives policy rank tokens query) :
    query.inorder = tokens.filterMap (tokenLabel? policy) := by
  induction h with
  | word term => rfl
  | group inner ih => simp [List.filterMap_cons, tokenLabel?, ih]
  | ofPrimary inner ih => exact ih
  | not inner ih => simp [tokenLabel?, inorder, ih]
  | ofNegation inner ih => exact ih
  | and first last ihf ihl => simp [tokenLabel?, inorder, ihf, ihl]
  | ofConjunction inner ih => exact ih
  | or first last ihf ihl => simp [tokenLabel?, inorder, ihf, ihl]

/-- Parentheses come in pairs. -/
theorem Derives.count_lparen {rank : Rank} {tokens : List Token} {query : Query}
    (h : Derives policy rank tokens query) : tokens.count .lparen = tokens.count .rparen := by
  induction h with
  | word term => rfl
  | group inner ih => simp [ih]
  | ofPrimary inner ih => exact ih
  | not inner ih => simpa using ih
  | ofNegation inner ih => exact ih
  | and first last ihf ihl => simp [ihf, ihl]
  | ofConjunction inner ih => exact ih
  | or first last ihf ihl => simp [ihf, ihl]

/-! ### Reading texts -/

/-- **Reading a text is deriving its tokens.**  A query is read exactly if the tokens of the text
spell it as a disjunction, a text is refused exactly if they spell none, and no tokens spell two
queries.  A disjunction repeats conjunctions and a conjunction negations, folded from the left. -/
theorem parse_reads_derivation (policy : MatchPolicy) (text : String) :
    (∀ query, parse policy text = .ok query ↔
      Derives policy .disjunction (tokens text) query) ∧
    ((∃ fault, parse policy text = .error fault) ↔
      ∀ query, ¬Derives policy .disjunction (tokens text) query) ∧
    (∀ spelled query query', Derives policy .disjunction spelled query →
      Derives policy .disjunction spelled query' → query = query') ∧
    ∀ op spelled query, Derives policy op.rank spelled query ↔
      Repeats policy op spelled query := by
  refine ⟨fun query => parse_eq_ok_iff, ?_, ?_, fun op spelled query => derives_rank_iff⟩
  · constructor
    · rintro ⟨fault, refused⟩ query derived
      rw [parse_eq_ok_iff.mpr derived] at refused
      exact nomatch refused
    · intro none
      rcases h : parse policy text with fault | query
      · exact ⟨fault, rfl⟩
      · exact absurd (parse_eq_ok_iff.mp h) (none query)
  · intro spelled query query' h h'
    have same := ofTokens_of_derives h
    rw [ofTokens_of_derives h'] at same
    exact (Except.ok.inj same).symm

/-- Parentheses keep a disjunction under `not`, and no other grouping has these tokens. -/
theorem spelled_not_group :
    Derives .word .disjunction (tokens "not (red or blue)")
      (.not (.join .or (.word "red" .word) (.word "blue" .word))) ∧
    ¬Derives .word .disjunction (tokens "not (red or blue)")
      (.join .or (.not (.word "red" .word)) (.word "blue" .word)) := by
  have spelled : tokens "not (red or blue)" =
      [.not, .lparen, .word "red", .or, .word "blue", .rparen] := by decide +kernel
  have red : Derives .word .disjunction [.word "red"] (.word "red" .word) :=
    .ofConjunction (.ofNegation (.ofPrimary (.word "red")))
  have blue : Derives .word .conjunction [.word "blue"] (.word "blue" .word) :=
    .ofNegation (.ofPrimary (.word "blue"))
  have grouped := Derives.not (.ofPrimary (.group (.or red blue)))
  have derived := Derives.ofConjunction (.ofNegation grouped)
  rw [spelled]
  refine ⟨derived, fun other => ?_⟩
  have unique := (parse_reads_derivation .word "not (red or blue)").2.2.1
  exact nomatch unique _ _ _ derived other

end Query

end KeywordQuery
