import KeywordQuery.Proofs.Equivalence

/-!
# The shape of an item does not matter

Of the items that do not answer by themselves only the texts count, however these are kept: as what
the item itself is, as its entry, or as its attribute.

* `Item.Carries` — the items that are searched in a given text; `Item.holds_of_carries`;
* `Item.searchText_of_source` — an item is searched in the plain spelling of its value;
* `Query.shapes_match_alike` — items with the same text match the same queries.
-/

namespace KeywordQuery

namespace Item

/-- The item is searched in the text: it is the text, whatever else it is and offers; or it has the
text as its entry, whatever its attribute is; or it is no mapping and has the text as its
attribute. -/
inductive Carries (text : RawText) (item : Item) : Prop where
  | itself (same : item.asText? = some text)
  | entry (other : item.asText? = none) (silent : item.method? = none)
      (entry : item.entry? = some (some (.str text)))
  | member (other : item.asText? = none) (silent : item.method? = none)
      (unmapped : item.entry? = none) (member : item.member? = some (.str text))

variable {item : Item} {text : RawText}

theorem method?_of_carries (h : item.Carries text) : item.method? = none := by
  cases h with
  | itself same =>
    simp only [method?, same]
  | entry _ silent _ => exact silent
  | member _ silent _ _ => exact silent

theorem searchText_of_carries (h : item.Carries text) : item.searchText = .ok text := by
  cases h with
  | itself same =>
    simp only [searchText, same]
  | entry other _ entry =>
    simp only [searchText, other, source?, entry]
    rfl
  | member other _ unmapped member =>
    simp only [searchText, other, source?, unmapped, member]
    rfl

/-- A term is found in the item exactly if it occurs in the text. -/
theorem holds_of_carries (h : item.Carries text) :
    item.holds = fun term policy => .ok (policy.occursIn text term) := by
  funext term policy
  rw [holds, method?_of_carries h, searchText_of_carries h]
  rfl

/-- What is no text is searched in the plain spelling of its value. -/
theorem searchText_of_source (other : item.asText? = none) {source : Json}
    (found : item.source? = some source) (some_value : source ≠ .null) :
    item.searchText = .ok source.display := by
  simp only [searchText, other, found]

end Item

namespace Query

/-- A query of an item that is searched in a text has the truth value that the occurrences of its
words in the text give it. -/
theorem holds_of_carries {item : Item} {text : RawText} (h : item.Carries text) (query : Query) :
    query.holds item = .ok (query.value fun term policy => policy.occursIn text term) := by
  rw [holds, Item.holds_of_carries h]
  exact evalM_askOf (.ok fun term policy => policy.occursIn text term) query

/-- **Only the text of an item counts.**  A text, a text with a method of its own, a post, a mapping
and a record with the same text have one outcome for a query, which the occurrences of its words in
the text decide.  So it is for all items, whatever they are and offer besides: two of them that do
not answer by themselves have the same outcome if they are searched in the same text, or have the
same fault.  A value that is no text counts as the text of its plain spelling. -/
theorem shapes_match_alike (query : Query) :
    (∀ text : String, ∃ outcome,
      outcome = Except.ok (query.value fun term policy => policy.contains text term) ∧
      query.holds (.text text) = outcome ∧
      (∀ answer, query.holds (.answeringText text answer) = outcome) ∧
      (∀ id author, query.holds (.post ⟨id, author, text⟩) = outcome) ∧
      (∀ fields, Json.field? fields "text" = some (.ofString text) →
        query.holds (.value (.obj fields)) = outcome) ∧
      ∀ kindName note?,
        query.holds (.record kindName (some (.ofString text)) note?) = outcome) ∧
    (∀ (text : RawText) (item : Item), item.Carries text →
      query.holds item = .ok (query.value fun term policy => policy.occursIn text term)) ∧
    (∀ item other : Item, item.method? = none → other.method? = none →
      item.searchText = other.searchText → query.holds item = query.holds other) ∧
    ∀ (item : Item) (source : Json), item.method? = none → item.asText? = none →
      item.source? = some source → source ≠ .null → (∀ text, source ≠ .str text) →
      query.holds item = query.holds (.text source.displayInside) := by
  have alike (item other : Item) (silent : item.method? = none) (silent' : other.method? = none)
      (same : item.searchText = other.searchText) : query.holds item = query.holds other := by
    rw [holds, holds]
    congr 1
    funext term policy
    rw [Item.holds, Item.holds, silent, silent', same]
  refine ⟨fun text => ?_, fun text item => (holds_of_carries · query), alike, ?_⟩
  · refine ⟨_, rfl, ?_⟩
    simp only [← MatchPolicy.occursIn_ofString]
    refine ⟨?_, fun answer => ?_, fun id author => ?_, fun fields entry => ?_,
      fun kindName note? => ?_⟩
    · exact holds_of_carries (.itself rfl) query
    · exact holds_of_carries (.itself rfl) query
    · exact holds_of_carries (.member rfl rfl rfl rfl) query
    · have carries : (Item.value (.obj fields)).Carries (.ofString text) :=
        .entry rfl rfl (congrArg some entry)
      exact holds_of_carries carries query
    · have silent : (Item.record kindName (some (.ofString text)) note?).method? = none := by
        cases note? <;> rfl
      exact holds_of_carries (.member rfl silent rfl rfl) query
  · intro item source silent other found some_value no_text
    have spelled : item.searchText = .ok source.displayInside := by
      rw [Item.searchText_of_source other found some_value]
      cases source with
      | str text => exact absurd rfl (no_text text)
      | null | bool | int | float | arr | obj => rfl
    exact alike item (.text source.displayInside) silent rfl spelled

/-- A mapping with an entry `contains` matches as the text of its other entry, a text does so in
spite of its method, and a list is searched in its spelling. -/
theorem mapping_and_list_match_as_texts :
    let query := join .and (word "red" .word) (not (word "blue" .substring))
    let fields : Json.Fields := [("contains", .bool true), ("text", .str "Red sky")]
    let list : Json := .arr [.int 1, .str "red"]
    let record : Item := .record "Sample" (some list) (some .null)
    Json.field? fields "text" = some (.ofString "Red sky") ∧
    query.holds (.value (.obj fields)) = .ok true ∧
    query.holds (.answeringText "Red sky" fun _ => false) = .ok true ∧
    record.method? = none ∧ record.asText? = none ∧ record.source? = some list ∧
    query.holds record = query.holds (.text "[1, 'red']") := by
  intro query fields list record
  have found : (query.value fun term policy => policy.contains "Red sky" term) = true := by
    decide +kernel
  have spelled : list.displayInside = "[1, 'red']" := by decide +kernel
  obtain ⟨texts, -, -, values⟩ := shapes_match_alike query
  obtain ⟨outcome, rfl, -, answering, -, mappings, -⟩ := texts "Red sky"
  rw [found] at answering mappings
  have lists := values record list rfl rfl rfl (by simp [list]) (by simp [list])
  rw [spelled] at lists
  exact ⟨rfl, mappings fields rfl, answering _, rfl, rfl, rfl, lists⟩

end Query

end KeywordQuery
