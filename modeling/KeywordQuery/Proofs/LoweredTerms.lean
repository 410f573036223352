import KeywordQuery.Proofs.ItemShapes
import KeywordQuery.Proofs.LowerForms

/-!
# Matching does not see lower-casing

A text and a term are lower-cased before they are compared, and what is in lower case stays as it
is.  So it makes no difference whether the text or the term was in lower case before.  Words are
split off after lower-casing, and a query asks an item for one term after another, so the same holds
for both policies and for whole queries, unless the item answers by itself.

* `lower_lower`, `words_lowerText` — texts in lower case, and their words;
* `contains_lowerText`, `occursIn_lowered` — texts and terms, with unpaired surrogates or without;
* `mapTerms` — the query with other terms at its leaves; `evalM_mapTerms` says how it is evaluated;
* `lowering_keeps_matches` — texts, terms, queries and lists of items.
-/

namespace KeywordQuery

open Text (lower lowerText)

/-! ### Texts and terms -/

/-- A text in lower case is its own lower-case form, although what becomes of a capital depends on
the characters around it. -/
theorem Text.lower_lower (cs : List Char) : lower (lower cs) = lower cs :=
  lower_eq_self_of_subset (List.Subset.refl _)

theorem Text.lower_toList_lowerText (text : String) :
    lower (lowerText text).toList = lower text.toList := by
  rw [lowerText, String.toList_ofList, lower_lower]

theorem words_lowerText (text : String) : words (lowerText text) = words text := by
  rw [words, words, Text.lower_toList_lowerText]

namespace MatchPolicy

theorem contains_lowerText (policy : MatchPolicy) (text term : String) :
    policy.contains (lowerText text) term = policy.contains text term ∧
      policy.contains text (lowerText term) = policy.contains text term := by
  cases policy with
  | substring => simp only [contains, Text.lower_toList_lowerText, and_self]
  | word => simp only [contains, words_lowerText, and_self]

end MatchPolicy

/-- The text in lower case.  An unpaired surrogate stays, and no character is seen across it. -/
def RawText.lowered (text : RawText) : RawText :=
  ⟨lowerText text.start, text.broken.map fun (unit, run) => (unit, lowerText run)⟩

theorem RawText.runs_lowered (text : RawText) : text.lowered.runs = text.runs.map lowerText := by
  simp only [runs, lowered, List.map_cons, List.map_map, Function.comp_def]

theorem MatchPolicy.occursIn_lowered (policy : MatchPolicy) (text : RawText) (term : String) :
    policy.occursIn text.lowered term = policy.occursIn text term ∧
      policy.occursIn text (lowerText term) = policy.occursIn text term := by
  cases policy with
  | substring =>
    simp only [occursIn, RawText.runs_lowered, List.any_map, Function.comp_def,
      Text.lower_toList_lowerText, and_self]
  | word =>
    simp only [occursIn, RawText.runs_lowered, List.flatMap_map, words_lowerText, and_self]

/-! ### Items -/

/-- An item that does not answer by itself gives one answer to a term and to its lower-case form. -/
theorem Item.holds_lowerText {item : Item} (silent : item.method? = none) (term : String)
    (policy : MatchPolicy) : item.holds (lowerText term) policy = item.holds term policy := by
  rw [holds, holds, silent]
  show item.searchText.map _ = item.searchText.map _
  congr 1
  funext text
  exact (policy.occursIn_lowered text term).2

namespace Query

/-! ### Queries -/

/-- The query with other terms at the same places. -/
def mapTerms (f : String → String) : Query → Query
  | .word term policy => .word (f term) policy
  | .not child => .not (child.mapTerms f)
  | .join op left right => .join op (left.mapTerms f) (right.mapTerms f)

/-- A query with other terms asks for these where the query itself asks for its own. -/
theorem evalM_mapTerms {m : Type → Type} [Monad m] [LawfulMonad m]
    (ask : String → MatchPolicy → m Bool) (f : String → String) (query : Query) :
    (query.mapTerms f).evalM ask = query.evalM fun term policy => ask (f term) policy := by
  rw [evalM_eq_evalTreeM, evalM_eq_evalTreeM]
  induction query with
  | word term policy => rfl
  | not child ih => rw [mapTerms, evalTreeM, evalTreeM, ih]
  | join op left right ihl ihr => rw [mapTerms, evalTreeM, evalTreeM, ihl, ihr]

theorem holds_lowered {item : Item} (silent : item.method? = none) (query : Query) :
    (query.mapTerms lowerText).holds item = query.holds item := by
  rw [holds, holds, evalM_mapTerms]
  congr 1
  funext term policy
  exact Item.holds_lowerText silent term policy

/-- Queries with the same outcome for every member of a list have the same match of the list. -/
theorem select_congr {α ε : Type} {ask : α → String → MatchPolicy → Except ε Bool}
    {query other : Query} {xs : List α}
    (h : ∀ x ∈ xs, query.evalM (ask x) = other.evalM (ask x)) :
    query.select ask xs = other.select ask xs := by
  induction xs with
  | nil => rfl
  | cons x xs ih =>
    obtain ⟨first, later⟩ := List.forall_mem_cons.mp h
    rw [select, select, first, ih later]

/-- **Lower-casing keeps matches.**  Under both policies a term occurs in a text exactly if it
occurs in the lower-case form of the text, and exactly if its own lower-case form occurs in the
text; so it is for texts with unpaired surrogates.  A query with the lower-case forms of its terms
has the same outcome for every item that does not answer by itself, and keeps the same members of
a list. -/
theorem lowering_keeps_matches :
    (∀ (policy : MatchPolicy) (text term : String),
      policy.contains (lowerText text) term = policy.contains text term ∧
      policy.contains text (lowerText term) = policy.contains text term) ∧
    (∀ (policy : MatchPolicy) (text : RawText) (term : String),
      policy.occursIn text.lowered term = policy.occursIn text term ∧
      policy.occursIn text (lowerText term) = policy.occursIn text term) ∧
    (∀ (query : Query) (item : Item), item.method? = none →
      (query.mapTerms lowerText).holds item = query.holds item) ∧
    ∀ {α : Type} (view : α → Item) (query : Query) (xs : List α),
      (∀ x ∈ xs, (view x).method? = none) →
      (query.mapTerms lowerText).select (fun x => (view x).holds) xs =
        query.select (fun x => (view x).holds) xs := by
  refine ⟨MatchPolicy.contains_lowerText, MatchPolicy.occursIn_lowered, ?_, ?_⟩
  · intro query item silent
    exact holds_lowered silent query
  · intro α view query xs silent
    exact select_congr fun x mem => holds_lowered (silent x mem) query

/-- The sigma at the end of the term becomes a final one, and the dotted capital two characters; the
text is searched in spite of its method. -/
theorem lowered_capitals_match_alike :
    let query := join .and (word "ΟΔΟΣ" .word) (not (word "İz" .substring))
    let lowered := join .and (word "οδος" .word) (not (word "i\u0307z" .substring))
    let item : Item := .answeringText "Οδος, İSTANBUL" fun _ => false
    query.mapTerms lowerText = lowered ∧ item.method? = none ∧
      lowered.holds item = query.holds item ∧ query.holds item = .ok true ∧
      lowered.select Item.holds [item, .value .null] =
        query.select Item.holds [item, .value .null] := by
  intro query lowered item
  have terms : query.mapTerms lowerText = lowered := by
    set_option maxRecDepth 4000 in decide
  have found : (query.value fun term policy => policy.contains "Οδος, İSTANBUL" term) = true := by
    set_option maxRecDepth 4000 in decide
  obtain ⟨-, -, items, lists⟩ := lowering_keeps_matches
  have same := items query item rfl
  have silent : ∀ x ∈ [item, .value .null], (id x).method? = none :=
    List.forall_mem_cons.mpr ⟨rfl, List.forall_mem_singleton.mpr rfl⟩
  have all := lists id query [item, .value .null] silent
  rw [terms] at same all
  have outcome : query.holds item = .ok true := by
    have carries : item.Carries (.ofString "Οδος, İSTANBUL") := .itself rfl
    rw [holds_of_carries carries]
    simp only [MatchPolicy.occursIn_ofString, found]
  exact ⟨terms, rfl, same, outcome, all⟩

end Query

end KeywordQuery
