import KeywordQuery.Query.Eval

/-!
# Queries of the same meaning

An item either answers every word of a query or has the same fault for all of them.  So whether it
matches depends on the query only as a formula of propositional logic, although queries of the same
meaning ask an item for different words.

* `value`, `Equivalent` — queries as formulas over their leaves;
* `value_eq_decisive_iff` — what decides a chain of one connective;
* `Law` — the laws of propositional logic, applied anywhere in a query; `Law.equivalent`;
* `Item.reading` — what an item makes of the leaves;
* `evalM_askOf`, `holds_eq_map_value` — evaluation by that reading;
* `holds_eq_of_equivalent` — queries of the same meaning match the same items.
-/

namespace KeywordQuery

/-- The truth value of a connective. -/
def Connective.apply : Connective → Bool → Bool → Bool
  | .and, left, right => left && right
  | .or, left, right => left || right

/-- The other connective. -/
def Connective.dual : Connective → Connective
  | .and => .or
  | .or => .and

theorem Connective.apply_eq_decisive_iff (op : Connective) (left right : Bool) :
    op.apply left right = op.decisive ↔ left = op.decisive ∨ right = op.decisive := by
  cases op <;> cases left <;> cases right <;> decide

/-- What an item makes of the leaves of a query: an answer to each of them, or one fault. -/
def Item.reading (item : Item) : Except ItemFault (String → MatchPolicy → Bool) :=
  match item.method? with
  | some answer => .ok fun term _ => answer term
  | none => item.searchText.map fun text term policy => policy.occursIn text term

namespace Query

/-! ### Queries as formulas -/

/-- The truth value of a query when its leaves have the given ones. -/
def value (values : String → MatchPolicy → Bool) : Query → Bool
  | .word term policy => values term policy
  | .not child => !child.value values
  | .join op left right => op.apply (left.value values) (right.value values)

/-- The queries have the same truth value, whatever those of their leaves are. -/
def Equivalent (query other : Query) : Prop := ∀ values, query.value values = other.value values

/-- A chain has the value that decides it exactly if one of its operands has. -/
theorem value_eq_decisive_iff (values : String → MatchPolicy → Bool) (op : Connective)
    (query : Query) :
    query.value values = op.decisive ↔
      ∃ operand ∈ operands op query, operand.value values = op.decisive := by
  induction query with
  | word term policy => simp [operands, operandsOnto]
  | not child => simp [operands, operandsOnto]
  | join op' left right ihl ihr =>
    by_cases hop : op' = op
    · subst hop
      rw [value, Connective.apply_eq_decisive_iff, ihl, operands_join_self]
      simp [or_and_right, exists_or]
    · simp [operands, operandsOnto, hop]

/-- One query comes from the other by laws of propositional logic. -/
inductive Law : Query → Query → Prop where
  | refl (query : Query) : Law query query
  | symm {query other : Query} (h : Law query other) : Law other query
  | trans {first second third : Query} (h : Law first second) (h' : Law second third) :
      Law first third
  | not {child child' : Query} (h : Law child child') : Law (.not child) (.not child')
  | join (op : Connective) {left left' right right' : Query} (h : Law left left')
      (h' : Law right right') : Law (.join op left right) (.join op left' right')
  /-- The operands of a chain in another order. -/
  | permute (op : Connective) {query other : Query}
      (h : (operands op query).Perm (operands op other)) : Law query other
  /-- The operands of a chain in other groups. -/
  | regroup (op : Connective) (a b c : Query) :
      Law (.join op (.join op a b) c) (.join op a (.join op b c))
  | notNot (a : Query) : Law (.not (.not a)) a
  | deMorgan (op : Connective) (a b : Query) :
      Law (.not (.join op a b)) (.join op.dual (.not a) (.not b))
  | distribute (op : Connective) (a b c : Query) :
      Law (.join op a (.join op.dual b c)) (.join op.dual (.join op a b) (.join op a c))
  | absorb (op : Connective) (a b : Query) : Law (.join op a (.join op.dual a b)) a
  /-- Tautologies and contradictions over different words. -/
  | complement (op : Connective) (a b : Query) :
      Law (.join op a (.not a)) (.join op b (.not b))

/-- Every law keeps the truth value. -/
theorem Law.equivalent {query other : Query} (h : Law query other) : Equivalent query other := by
  intro values
  induction h with
  | refl => rfl
  | symm _ ih => exact ih.symm
  | trans _ _ ih ih' => exact ih.trans ih'
  | not _ ih => rw [value, value, ih]
  | join op _ _ ih ih' => rw [value, value, ih, ih']
  | @permute op query other h =>
    have same : query.value values = op.decisive ↔ other.value values = op.decisive := by
      rw [value_eq_decisive_iff, value_eq_decisive_iff values op other]
      simp only [h.mem_iff]
    exact Bool.eq_iff_iff.mpr (by cases op <;> simpa [Connective.decisive] using same)
  | regroup op a b c =>
    simp only [value]
    cases op <;> cases a.value values <;> cases b.value values <;> rfl
  | notNot a => exact Bool.not_not _
  | deMorgan op a b =>
    simp only [value]
    cases op <;> cases a.value values <;> cases b.value values <;> rfl
  | distribute op a b c =>
    simp only [value]
    cases op <;> cases a.value values <;> cases b.value values <;> cases c.value values <;> rfl
  | absorb op a b =>
    simp only [value]
    cases op <;> cases a.value values <;> cases b.value values <;> rfl
  | complement op a b =>
    simp only [value]
    cases op <;> cases a.value values <;> cases b.value values <;> rfl

/-! ### Evaluation by a reading of the leaves -/

/-- The answer to a leaf, or the one fault. -/
def askOf {ε : Type} (reading : Except ε (String → MatchPolicy → Bool)) (term : String)
    (policy : MatchPolicy) : Except ε Bool :=
  reading.map fun values => values term policy

/-- A query comes to its truth value, or to the one fault: every query asks for some leaf. -/
theorem evalM_askOf {ε : Type} (reading : Except ε (String → MatchPolicy → Bool))
    (query : Query) :
    query.evalM (askOf reading) = reading.map fun values => query.value values := by
  rw [evalM_eq_evalTreeM]
  induction query with
  | word term policy => rfl
  | not child ih =>
    rw [evalTreeM, ih]
    cases reading with
    | error fault => rfl
    | ok values => rfl
  | join op left right ihl ihr =>
    rw [evalTreeM, ihl, ihr]
    cases reading with
    | error fault => rfl
    | ok values =>
      show (if (left.value values == op.decisive) = true then Except.ok op.decisive else
        Except.ok (right.value values)) =
          Except.ok (op.apply (left.value values) (right.value values))
      cases op <;> cases left.value values <;> rfl

theorem holds_eq_askOf (item : Item) : item.holds = askOf item.reading := by
  funext term policy
  rw [Item.holds, askOf, Item.reading]
  cases item.method? with
  | some answer => rfl
  | none =>
    cases item.searchText with
    | error fault => rfl
    | ok text => rfl

/-- An item matches a query as a formula over what it makes of the leaves. -/
theorem holds_eq_map_value (query : Query) (item : Item) :
    query.holds item = item.reading.map fun values => query.value values := by
  rw [holds, holds_eq_askOf, evalM_askOf]

/-- **Queries of the same meaning match the same items.**  The laws of propositional logic keep the
meaning of a query, and queries of the same meaning have the same outcome for every item, truth
value or fault; so they have for whatever else answers every leaf or has one fault for all. -/
theorem holds_eq_of_equivalent (query other : Query) :
    (Law query other → Equivalent query other) ∧
    (Equivalent query other →
      (∀ item, query.holds item = other.holds item) ∧
      ∀ {ε : Type} (reading : Except ε (String → MatchPolicy → Bool)),
        query.evalM (askOf reading) = other.evalM (askOf reading)) := by
  refine ⟨Law.equivalent, fun same => ⟨fun item => ?_, fun reading => ?_⟩⟩
  · rw [holds_eq_map_value, holds_eq_map_value]
    simp only [same _]
  · rw [evalM_askOf, evalM_askOf]
    simp only [same _]

/-- The two queries ask an item for different words first, and both find what it has. -/
theorem guarded_word_equivalent :
    let red := word "red" .substring
    let blue := word "blue" .word
    let query := join .or red (join .and (.not red) blue)
    let other := join .or blue red
    Equivalent query other ∧
      query.holds (.text "Blue sky") = other.holds (.text "Blue sky") ∧
      query.holds (.value .null) = other.holds (.value .null) := by
  intro red blue query other
  have same : Equivalent query other := by
    intro values
    show (values "red" .substring || (!values "red" .substring && values "blue" .word)) =
      (values "blue" .word || values "red" .substring)
    cases values "red" .substring <;> cases values "blue" .word <;> rfl
  obtain ⟨items, -⟩ := (holds_eq_of_equivalent query other).2 same
  exact ⟨same, items _, items _⟩

end Query

end KeywordQuery
