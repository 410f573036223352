import KeywordQuery.Query.Check
import KeywordQuery.Query.Grammar
import KeywordQuery.Query.Parser

/-!
# What the readers of the grammar do

Every reader either finds a query of its level at the start of the tokens, or refuses the same
tokens as the pass that keeps only a flag and a depth.

* `outcome` — the result of a reader without the bound on what it leaves, with one equation for
  each way a reader goes on (`outcome_chain`, `outcome_negation_not`, `outcome_primary_lparen`, …);
* `Derives.refusal?_append` — the pass crosses a derivation by clearing its flag;
* `Accounts` — what a reader owes for its tokens; `accountsBelow` says that every reader pays it;
* `ofTokens_accounts`, `refusal?_eq_ofTokens` — the same for all of the tokens: a query is spelled
  by them, and the first refusal of the pass is that of the reader.
-/

namespace KeywordQuery

namespace Connective

/-- The level of the grammar at which chains of a connective stand. -/
def rank : Connective → Query.Rank
  | .and => .conjunction
  | .or => .disjunction

/-- The level of the operands of such a chain. -/
def operandRank : Connective → Query.Rank
  | .and => .negation
  | .or => .conjunction

end Connective

namespace Query

variable {policy : MatchPolicy}

/-! ### Readers without their bounds -/

/-- What a reader finds and what it leaves, without the bound on how much it leaves. -/
def outcome {bound : Nat} : Except Refusal (Reading bound) → Except Refusal (Query × List Token)
  | .error refusal => .error refusal
  | .ok (query, rest) => .ok (query, rest.1)

/-- The end of a group: what stands in parentheses, if the closing one follows. -/
def closeGroup : Query × List Token → Except Refusal (Query × List Token)
  | (query, .rparen :: rest) => .ok (query, rest)
  | (_, rest) => .error ⟨.close, rest⟩

theorem outcome_chain (op : Connective) (tokens : List Token) :
    outcome (chain policy op tokens) =
      (outcome (operand policy op tokens) >>= fun found =>
        outcome (chainTail policy op found.1 found.2)) := by
  rw [chain]
  rcases operand policy op tokens with refusal | ⟨left, rest, shorter⟩
  · rfl
  · show _ = outcome (chainTail policy op left rest)
    rcases h : chainTail policy op left rest with refusal | ⟨query, rest', shorter'⟩
    · simp only [h, outcome]
    · simp only [h, outcome]

theorem outcome_chainTail_token (op : Connective) (left : Query) (after : List Token) :
    outcome (chainTail policy op left (op.token :: after)) =
      (outcome (operand policy op after) >>= fun found =>
        outcome (chainTail policy op (.join op left found.1) found.2)) := by
  rw [chainTail, if_pos rfl]
  rcases operand policy op after with refusal | ⟨right, rest, shorter⟩
  · rfl
  · show _ = outcome (chainTail policy op (.join op left right) rest)
    rcases h : chainTail policy op (.join op left right) rest with
      refusal | ⟨query, rest', shorter'⟩
    · simp only [h, outcome]
    · simp only [h, outcome]

theorem outcome_chainTail_stop {op : Connective} {tokens : List Token}
    (h : tokens.head? ≠ some op.token) (left : Query) :
    outcome (chainTail policy op left tokens) = .ok (left, tokens) := by
  cases tokens with
  | nil => rw [chainTail]; rfl
  | cons token after =>
    rw [chainTail, if_neg (by simpa using h)]
    rfl

theorem outcome_operand_or (tokens : List Token) :
    outcome (operand policy .or tokens) = outcome (chain policy .and tokens) := by
  rw [operand]

theorem outcome_operand_and (tokens : List Token) :
    outcome (operand policy .and tokens) = outcome (negation policy tokens) := by
  rw [operand]

theorem outcome_negation_not (after : List Token) :
    outcome (negation policy (.not :: after)) =
      (outcome (negation policy after) >>= fun found => .ok (.not found.1, found.2)) := by
  rw [negation]
  rcases negation policy after with refusal | ⟨child, rest, shorter⟩
  · rfl
  · rfl

theorem outcome_negation_primary {tokens : List Token} (h : tokens.head? ≠ some .not) :
    outcome (negation policy tokens) = outcome (primary policy tokens) := by
  rw [negation]
  rintro after rfl
  exact h rfl

theorem outcome_primary_word (term : String) (rest : List Token) :
    outcome (primary policy (.word term :: rest)) = .ok (.word term policy, rest) := by
  rw [primary]
  rfl

theorem outcome_primary_lparen (after : List Token) :
    outcome (primary policy (.lparen :: after)) =
      (outcome (chain policy .or after) >>= closeGroup) := by
  rw [primary]
  rcases chain policy .or after with refusal | ⟨query, rest, shorter⟩
  · rfl
  · show _ = closeGroup (query, rest)
    rcases rest with _ | ⟨token, rest⟩
    · rfl
    · cases token <;> rfl

theorem outcome_primary_not (rest : List Token) :
    outcome (primary policy (.not :: rest)) = .ok (.word Token.not.text policy, rest) := by
  rw [primary]
  rfl

theorem outcome_primary_refused {tokens : List Token}
    (h : ∀ token ∈ tokens.head?, token ∈ [.rparen, .or, .and]) :
    outcome (primary policy tokens) = .error ⟨.term, tokens⟩ := by
  rw [primary]
  · rfl
  · rintro after rfl
    exact absurd (h .lparen rfl) (by decide)
  · rintro term rest rfl
    exact absurd (h (.word term) rfl) (by simp)
  · rintro rest rfl
    exact absurd (h .not rfl) (by decide)

/-- The query of all of the tokens, in terms of what the reader of a disjunction leaves. -/
theorem ofTokens_eq (tokens : List Token) :
    ofTokens policy tokens =
      (outcome (chain policy .or tokens) >>= fun found =>
        if found.2 = [] then .ok found.1 else .error (Refusal.mk .finish found.2)) := by
  rw [ofTokens]
  rcases chain policy .or tokens with refusal | ⟨query, rest, shorter⟩
  · rfl
  · show _ = if rest = [] then Except.ok query else .error (Refusal.mk .finish rest)
    cases rest with
    | nil => rfl
    | cons token rest => rfl

/-! ### The pass over a derivation -/

namespace Progress

@[simp]
theorem refusal?_not (depth : Nat) (rest : List Token) :
    refusal? ⟨true, depth⟩ (.not :: rest) = refusal? ⟨true, depth⟩ rest := rfl

@[simp]
theorem refusal?_lparen (depth : Nat) (rest : List Token) :
    refusal? ⟨true, depth⟩ (.lparen :: rest) = refusal? ⟨true, depth + 1⟩ rest := rfl

@[simp]
theorem refusal?_rparen (depth : Nat) (rest : List Token) :
    refusal? ⟨false, depth + 1⟩ (.rparen :: rest) = refusal? ⟨false, depth⟩ rest := rfl

@[simp]
theorem refusal?_token (op : Connective) (depth : Nat) (rest : List Token) :
    refusal? ⟨false, depth⟩ (op.token :: rest) = refusal? ⟨true, depth⟩ rest := by
  cases op <;> rfl

end Progress

/-- **Crossing a derivation.**  Where an operand is needed, tokens that spell one at any level
leave the pass needing none, at the same depth. -/
theorem Derives.refusal?_append {rank : Rank} {used : List Token} {query : Query}
    (h : Derives policy rank used query) (depth : Nat) (rest : List Token) :
    Progress.refusal? ⟨true, depth⟩ (used ++ rest) = Progress.refusal? ⟨false, depth⟩ rest := by
  induction h generalizing depth rest with
  | word term => rfl
  | group inner ih =>
    rw [List.cons_append, List.append_assoc, Progress.refusal?_lparen, ih]
    rfl
  | ofPrimary inner ih => exact ih depth rest
  | not inner ih =>
    rw [List.cons_append, Progress.refusal?_not]
    exact ih depth rest
  | ofNegation inner ih => exact ih depth rest
  | and first last ihf ihl =>
    rw [List.append_assoc, ihf, List.cons_append]
    exact (Progress.refusal?_token .and depth _).trans (ihl depth rest)
  | ofConjunction inner ih => exact ih depth rest
  | or first last ihf ihl =>
    rw [List.append_assoc, ihf, List.cons_append]
    exact (Progress.refusal?_token .or depth _).trans (ihl depth rest)

theorem Derives.ofOperand {op : Connective} {tokens : List Token} {query : Query}
    (h : Derives policy op.operandRank tokens query) : Derives policy op.rank tokens query := by
  cases op with
  | and => exact .ofNegation h
  | or => exact .ofConjunction h

theorem Derives.join {op : Connective} {before after : List Token} {left right : Query}
    (first : Derives policy op.rank before left)
    (last : Derives policy op.operandRank after right) :
    Derives policy op.rank (before ++ op.token :: after) (.join op left right) := by
  cases op with
  | and => exact .and first last
  | or => exact .or first last

/-! ### What each reader owes -/

/-- The tokens do not go on with a connective that binds more tightly than `op`. -/
def TightClosed (op : Connective) (rest : List Token) : Prop :=
  op = .or → rest.head? ≠ some .and

/-- The tokens go on neither with `op` nor with a connective that binds more tightly. -/
def Closed (op : Connective) (rest : List Token) : Prop :=
  rest.head? ≠ some op.token ∧ TightClosed op rest

/-- A result accounts for the tokens it was read from.  A query comes with the tokens that spell
it, and what is left meets the condition; a refusal is that of the pass, at any depth. -/
def Accounts (needsOperand : Bool) (spells : List Token → Query → Prop)
    (left : List Token → Prop) (tokens : List Token) :
    Except Refusal (Query × List Token) → Prop
  | .error refusal => ∀ depth, Progress.refusal? ⟨needsOperand, depth⟩ tokens = some refusal
  | .ok (query, rest) => left rest ∧ ∃ used, tokens = used ++ rest ∧ spells used query

namespace Accounts

variable {needs needs' : Bool} {spells spells' : List Token → Query → Prop}
  {left left' : List Token → Prop} {tokens tokens' : List Token}
  {result : Except Refusal (Query × List Token)}

theorem mono (h : Accounts needs spells left tokens result)
    (spelled : ∀ used query, spells used query → spells' used query)
    (weaken : ∀ rest, left rest → left' rest) : Accounts needs spells' left' tokens result := by
  rcases result with refusal | ⟨query, rest⟩
  · exact h
  · obtain ⟨hl, used, split, hs⟩ := h
    exact ⟨weaken rest hl, used, split, spelled used query hs⟩

/-- Tokens read before, which the pass crosses without a change of depth. -/
theorem prepend {before : List Token} (h : Accounts needs spells left tokens result)
    (crosses : ∀ depth, Progress.refusal? ⟨needs', depth⟩ (before ++ tokens) =
      Progress.refusal? ⟨needs, depth⟩ tokens)
    (spelled : ∀ used query, spells used query → spells' (before ++ used) query) :
    Accounts needs' spells' left (before ++ tokens) result := by
  rcases result with refusal | ⟨query, rest⟩
  · intro depth
    rw [crosses]
    exact h depth
  · obtain ⟨hl, used, rfl, hs⟩ := h
    exact ⟨hl, before ++ used, (List.append_assoc _ _ _).symm, spelled used query hs⟩

/-- One reader after another: the second goes on from what the first has found. -/
theorem bind {next : Query × List Token → Except Refusal (Query × List Token)}
    (h : Accounts needs spells left tokens result)
    (refused : ∀ refusal, (∀ depth, Progress.refusal? ⟨needs, depth⟩ tokens = some refusal) →
      ∀ depth, Progress.refusal? ⟨needs', depth⟩ tokens' = some refusal)
    (found : ∀ query used rest, tokens = used ++ rest → left rest → spells used query →
      Accounts needs' spells' left' tokens' (next (query, rest))) :
    Accounts needs' spells' left' tokens' (result >>= next) := by
  rcases result with refusal | ⟨query, rest⟩
  · exact refused refusal h
  · obtain ⟨hl, used, split, hs⟩ := h
    exact found query used rest split hl hs

end Accounts

/-- A chain that ends inside a group can only be followed by the end of the group. -/
theorem refusal?_close {rest : List Token} (closed : Closed .or rest)
    (h : rest.head? ≠ some .rparen) (depth : Nat) :
    Progress.refusal? ⟨false, depth + 1⟩ rest = some ⟨.close, rest⟩ := by
  obtain ⟨noOr, noAnd⟩ := closed
  match rest, h, noOr, noAnd with
  | [], _, _, _ => rfl
  | .rparen :: _, h, _, _ => exact absurd rfl h
  | .and :: _, _, _, noAnd => exact absurd rfl (noAnd rfl)
  | .or :: _, _, noOr, _ => exact absurd rfl noOr
  | .lparen :: _, _, _, _ | .not :: _, _, _, _ | .word _ :: _, _, _, _ => rfl

/-- A chain that ends outside all groups can only be followed by the end of the tokens. -/
theorem refusal?_finish {rest : List Token} (closed : Closed .or rest) (h : rest ≠ []) :
    Progress.refusal? ⟨false, 0⟩ rest = some ⟨.finish, rest⟩ := by
  obtain ⟨noOr, noAnd⟩ := closed
  match rest, h, noOr, noAnd with
  | [], h, _, _ => exact absurd rfl h
  | .and :: _, _, _, noAnd => exact absurd rfl (noAnd rfl)
  | .or :: _, _, noOr, _ => exact absurd rfl noOr
  | .rparen :: _, _, _, _ => rfl
  | .lparen :: _, _, _, _ | .not :: _, _, _, _ | .word _ :: _, _, _, _ => rfl

theorem closeGroup_of_head?_ne {rest : List Token} (h : rest.head? ≠ some .rparen)
    (query : Query) : closeGroup (query, rest) = .error ⟨.close, rest⟩ := by
  match rest, h with
  | .rparen :: _, h => exact absurd rfl h
  | [], _ | .lparen :: _, _ | .and :: _, _ | .or :: _, _ | .not :: _, _ | .word _ :: _, _ => rfl

/-- The readers of disjunctions account for all lists of fewer than `bound` tokens. -/
def AccountsBelow (policy : MatchPolicy) (bound : Nat) : Prop :=
  ∀ tokens : List Token, tokens.length < bound →
    Accounts true (Derives policy .disjunction) (Closed .or) tokens
      (outcome (chain policy .or tokens))

section

variable {bound : Nat}

theorem AccountsBelow.primary (groups : AccountsBelow policy bound) {tokens : List Token}
    (short : tokens.length ≤ bound) (h : tokens.head? ≠ some .not) :
    Accounts true (Derives policy .primary) (fun _ => True) tokens
      (outcome (primary policy tokens)) := by
  match tokens, short, h with
  | .lparen :: after, short, _ =>
    rw [outcome_primary_lparen]
    have inner := groups after (by simp only [List.length_cons] at short; omega)
    refine inner.bind (fun refusal refused depth => refused (depth + 1)) ?_
    rintro query used rest rfl closed derived
    by_cases hr : rest.head? = some .rparen
    · obtain ⟨rest', rfl⟩ := List.head?_eq_some_iff.mp hr
      exact ⟨trivial, .lparen :: (used ++ [.rparen]), by simp, .group derived⟩
    · rw [closeGroup_of_head?_ne hr]
      intro depth
      rw [Progress.refusal?_lparen, derived.refusal?_append, refusal?_close closed hr]
  | .word term :: rest, _, _ =>
    rw [outcome_primary_word]
    exact ⟨trivial, [.word term], rfl, .word term⟩
  | .not :: _, _, h => exact absurd rfl h
  | [], _, _ | .rparen :: _, _, _ | .and :: _, _, _ | .or :: _, _, _ =>
    rw [outcome_primary_refused (by simp)]
    intro depth
    rfl

theorem AccountsBelow.negation (groups : AccountsBelow policy bound) (tokens : List Token)
    (short : tokens.length ≤ bound) :
    Accounts true (Derives policy .negation) (fun _ => True) tokens
      (outcome (negation policy tokens)) := by
  induction tokens with
  | nil =>
    rw [outcome_negation_primary (by simp)]
    exact (groups.primary short (by simp)).mono (fun _ _ => .ofPrimary) fun _ => id
  | cons token after ih =>
    by_cases hn : token = .not
    · subst hn
      rw [outcome_negation_not]
      have inner := ih (by simp only [List.length_cons] at short; omega)
      refine inner.bind (fun refusal refused depth => refused depth) ?_
      rintro child used rest rfl - derived
      exact ⟨trivial, .not :: used, rfl, .not derived⟩
    · have head : (token :: after).head? ≠ some .not := by simpa using hn
      rw [outcome_negation_primary head]
      exact (groups.primary short head).mono (fun _ _ => .ofPrimary) fun _ => id

/-- The rest of a chain, given its operands: they are read for as long as `op` stands next, and the
chain so far is the left side of each. -/
theorem accounts_chainTail (op : Connective)
    (operands : ∀ tokens : List Token, tokens.length ≤ bound →
      Accounts true (Derives policy op.operandRank) (TightClosed op) tokens
        (outcome (operand policy op tokens)))
    {before tokens : List Token} {left : Query} (short : tokens.length ≤ bound)
    (start : Derives policy op.rank before left) (tight : TightClosed op tokens) :
    Accounts false (fun used => Derives policy op.rank (before ++ used)) (Closed op) tokens
      (outcome (chainTail policy op left tokens)) := by
  -- Every turn of the loop takes the connective, so the bound on the tokens falls.
  induction bound generalizing before tokens left with
  | zero =>
    obtain rfl := List.length_eq_zero_iff.mp (Nat.le_zero.mp short)
    rw [outcome_chainTail_stop (by simp)]
    exact ⟨⟨by simp, tight⟩, [], rfl, by simpa using start⟩
  | succ bound ih =>
    by_cases ht : tokens.head? = some op.token
    · obtain ⟨after, rfl⟩ := List.head?_eq_some_iff.mp ht
      simp only [List.length_cons] at short
      rw [outcome_chainTail_token]
      refine (operands after (by omega)).bind (fun refusal refused depth => ?_) ?_
      · rw [Progress.refusal?_token]
        exact refused depth
      · rintro right used rest rfl tight' derived
        simp only [List.length_append] at short
        have more := ih (fun tokens h => operands tokens (by omega)) (by omega)
          (start.join derived) tight'
        rw [← List.cons_append]
        refine more.prepend (fun depth => ?_) ?_
        · rw [List.cons_append, Progress.refusal?_token, derived.refusal?_append]
        · intro used' query derived'
          simpa using derived'
    · rw [outcome_chainTail_stop ht]
      exact ⟨⟨ht, tight⟩, [], rfl, by simpa using start⟩

theorem accounts_chain (op : Connective)
    (operands : ∀ tokens : List Token, tokens.length ≤ bound →
      Accounts true (Derives policy op.operandRank) (TightClosed op) tokens
        (outcome (operand policy op tokens)))
    (tokens : List Token) (short : tokens.length ≤ bound) :
    Accounts true (Derives policy op.rank) (Closed op) tokens
      (outcome (chain policy op tokens)) := by
  rw [outcome_chain]
  refine (operands tokens short).bind (fun _ refused => refused) ?_
  rintro left used rest rfl tight derived
  have shorter : rest.length ≤ bound := by
    simp only [List.length_append] at short
    omega
  have more := accounts_chainTail op operands shorter derived.ofOperand tight
  exact more.prepend (fun depth => derived.refusal?_append depth rest) fun _ _ => id

theorem AccountsBelow.conjunction (groups : AccountsBelow policy bound) (tokens : List Token)
    (short : tokens.length ≤ bound) :
    Accounts true (Derives policy .conjunction) (Closed .and) tokens
      (outcome (chain policy .and tokens)) := by
  refine accounts_chain .and (fun tokens h => ?_) tokens short
  rw [outcome_operand_and]
  exact (groups.negation tokens h).mono (fun _ _ => id) fun _ _ impossible => nomatch impossible

theorem AccountsBelow.disjunction (groups : AccountsBelow policy bound) (tokens : List Token)
    (short : tokens.length ≤ bound) :
    Accounts true (Derives policy .disjunction) (Closed .or) tokens
      (outcome (chain policy .or tokens)) := by
  refine accounts_chain .or (fun tokens h => ?_) tokens short
  rw [outcome_operand_or]
  exact (groups.conjunction tokens h).mono (fun _ _ => id) fun _ closed _ => closed.1

end

/-- **Every reader accounts for its tokens.**  The induction is on their number, since a group
hands fewer tokens to the reader of a disjunction than it got. -/
theorem accountsBelow (policy : MatchPolicy) (bound : Nat) : AccountsBelow policy bound := by
  induction bound with
  | zero => exact fun tokens h => absurd h (Nat.not_lt_zero _)
  | succ bound ih => exact fun tokens h => ih.disjunction tokens (Nat.le_of_lt_succ h)

theorem accounts_disjunction (policy : MatchPolicy) (tokens : List Token) :
    Accounts true (Derives policy .disjunction) (Closed .or) tokens
      (outcome (chain policy .or tokens)) :=
  accountsBelow policy (tokens.length + 1) tokens (Nat.lt_succ_self _)

/-- **The reader of all tokens.**  A query that is read is spelled by the tokens, and a refusal is
that of the pass. -/
theorem ofTokens_accounts (policy : MatchPolicy) (tokens : List Token) :
    match ofTokens policy tokens with
    | .ok query => Derives policy .disjunction tokens query
    | .error refusal => refusal? tokens = some refusal := by
  have h := accounts_disjunction policy tokens
  rw [ofTokens_eq]
  rcases hout : outcome (chain policy .or tokens) with refusal | ⟨query, rest⟩
  · rw [hout] at h
    exact h 0
  · rw [hout] at h
    obtain ⟨closed, used, rfl, derived⟩ := h
    by_cases hr : rest = []
    · subst hr
      simpa [bind, Except.bind] using derived
    · have stopped : refusal? (used ++ rest) = some ⟨.finish, rest⟩ :=
        (derived.refusal?_append 0 rest).trans (refusal?_finish closed hr)
      simpa [bind, Except.bind, hr] using stopped

/-- **Reading and checking agree.**  The first refusal of the pass is that of the reader. -/
theorem refusal?_eq_ofTokens (policy : MatchPolicy) (tokens : List Token) :
    refusal? tokens =
      match ofTokens policy tokens with
      | .ok _ => none
      | .error refusal => some refusal := by
  have h := ofTokens_accounts policy tokens
  rcases hread : ofTokens policy tokens with refusal | query
  · rw [hread] at h
    exact h
  · rw [hread] at h
    have crossed := h.refusal?_append 0 []
    rw [List.append_nil] at crossed
    exact crossed

end Query

end KeywordQuery
