import Mathlib.Tactic.ByContra
import KeywordQuery.Proofs.Equivalence

/-!
# Items that cannot be searched

Whether an item can be searched does not depend on the query.  Every query asks the item for some
leaf before it comes to a value, and an item that has nothing to be searched has the same fault at
each of them.  So a match of a list stops at its first such item, and keeps what matches before it.

* `Item.isTextless` — the items that have nothing to be searched, by their form;
* `Item.reading_of_textless`, `Item.exists_reading` — what these items and the others make of the
  leaves of a query, and `Query.holds_of_textless`, `Query.exists_holds` of a whole query;
* `Query.select_append`, `Query.select_until_textless` — a match of a list, item by item;
* `Query.textless_items_stop` — the outcome of single items and of lists.
-/

namespace KeywordQuery

/-! ### Single items -/

/-- Whether there is no value for a text to be made from. -/
def lacksText : Option Json → Bool
  | none | some .null => true
  | some _ => false

namespace Item

/-- Whether the item has nothing to be searched and does not answer by itself: it is no text, offers
no method for terms, and has no text or null for it as its entry, if it is a mapping, or else as its
attribute. -/
def isTextless (item : Item) : Bool :=
  item.asText?.isNone && item.method?.isNone && lacksText item.source?

variable {item : Item}

theorem searchText_of_lacksText (other : item.asText? = none)
    (h : lacksText item.source? = true) : item.searchText = .error ⟨item.kindName⟩ := by
  simp only [searchText, other]
  rcases found : item.source? with _ | source
  · rfl
  · rw [found] at h
    cases source with
    | null => rfl
    | bool | int | float | str | arr | obj => cases h

theorem exists_searchText (h : lacksText item.source? = false) :
    ∃ text, item.searchText = .ok text := by
  rcases own : item.asText? with _ | text
  · simp only [searchText, own]
    rcases found : item.source? with _ | source
    · rw [found] at h
      cases h
    · rw [found] at h
      cases source with
      | null => cases h
      | bool | int | float | str | arr | obj => exact ⟨_, rfl⟩
  · exact ⟨text, by simp only [searchText, own]⟩

theorem reading_of_textless (h : item.isTextless = true) :
    item.reading = .error ⟨item.kindName⟩ := by
  simp only [isTextless, Bool.and_eq_true, Option.isNone_iff_eq_none] at h
  obtain ⟨⟨other, silent⟩, lacks⟩ := h
  rw [reading, silent, searchText_of_lacksText other lacks]
  rfl

theorem exists_reading (h : item.isTextless = false) : ∃ answers, item.reading = .ok answers := by
  rw [reading]
  rcases silent : item.method? with _ | answer
  · have found : ∃ text, item.searchText = .ok text := by
      rcases own : item.asText? with _ | text
      · rw [isTextless, own, silent] at h
        exact exists_searchText h
      · exact ⟨text, by simp only [searchText, own]⟩
    obtain ⟨text, found⟩ := found
    rw [found]
    exact ⟨_, rfl⟩
  · exact ⟨_, rfl⟩

end Item

namespace Query

theorem holds_of_textless {item : Item} (h : item.isTextless = true) (query : Query) :
    query.holds item = .error ⟨item.kindName⟩ := by
  rw [holds_eq_map_value, Item.reading_of_textless h]
  rfl

/-- Every other item has an answer to every query. -/
theorem exists_holds {item : Item} (h : item.isTextless = false) :
    ∃ answers, ∀ query : Query, query.holds item = .ok (query.value answers) := by
  obtain ⟨answers, reading⟩ := Item.exists_reading h
  refine ⟨answers, fun query => ?_⟩
  rw [holds_eq_map_value, reading]
  rfl

/-! ### Lists of items -/

/-- Whether the query can be answered for the item and holds of it. -/
def isMatch (query : Query) (item : Item) : Bool :=
  match query.holds item with
  | .ok matched => matched
  | .error _ => false

section

variable {α : Type} {view : α → Item}

theorem select_of_textless {x : α} (h : (view x).isTextless = true) (query : Query)
    (rest : List α) :
    query.select (fun x => (view x).holds) (x :: rest) = ([], some ⟨(view x).kindName⟩) := by
  have fault : query.evalM (view x).holds = .error ⟨(view x).kindName⟩ := holds_of_textless h query
  rw [select, fault]

/-- A match keeps what the query holds of and goes on, as long as the items can be searched. -/
theorem select_append {xs : List α} (h : ∀ x ∈ xs, (view x).isTextless = false) (query : Query)
    (rest : List α) :
    query.select (fun x => (view x).holds) (xs ++ rest) =
      ((xs.filter fun x => query.isMatch (view x)) ++
          (query.select (fun x => (view x).holds) rest).1,
        (query.select (fun x => (view x).holds) rest).2) := by
  induction xs with
  | nil => rfl
  | cons x xs ih =>
    obtain ⟨first, others⟩ := List.forall_mem_cons.mp h
    obtain ⟨answers, holds⟩ := exists_holds first
    have isMatch : query.isMatch (view x) = query.value answers := by
      rw [isMatch, holds]
    have answer : query.evalM (view x).holds = .ok (query.value answers) := holds query
    rw [List.cons_append, select, answer, ih others, List.filter_cons, isMatch]
    cases query.value answers with
    | true => rfl
    | false => rfl

theorem select_of_searchable {xs : List α} (h : ∀ x ∈ xs, (view x).isTextless = false)
    (query : Query) :
    query.select (fun x => (view x).holds) xs =
      (xs.filter fun x => query.isMatch (view x), none) := by
  have all := select_append h query []
  rwa [List.append_nil, select, List.append_nil] at all

theorem select_until_textless {before : List α} {x : α} (after : List α)
    (others : ∀ y ∈ before, (view y).isTextless = false) (h : (view x).isTextless = true)
    (query : Query) :
    query.select (fun x => (view x).holds) (before ++ x :: after) =
      (before.filter fun y => query.isMatch (view y), some ⟨(view x).kindName⟩) := by
  rw [select_append others, select_of_textless h, List.append_nil]

/-- The first of the items that cannot be searched. -/
theorem exists_first_textless {xs : List α} (h : ∃ x ∈ xs, (view x).isTextless = true) :
    ∃ before x after, xs = before ++ x :: after ∧ (view x).isTextless = true ∧
      ∀ y ∈ before, (view y).isTextless = false := by
  rw [← List.find?_isSome (p := fun x => (view x).isTextless)] at h
  obtain ⟨x, found⟩ := Option.isSome_iff_exists.mp h
  obtain ⟨textless, before, after, split, others⟩ := List.find?_eq_some_iff_append.mp found
  exact ⟨before, x, after, split, textless, fun y hy => by simpa using others y hy⟩

end

/-- **Items without a text stop a match.**  An item without a text has one fault for all queries,
and every other item has an answer to all of them.  So a match of a list fails exactly if there is
an item without a text in it.  It keeps what the query holds of, in order, up to the first such
item, whose fault is the fault of the match. -/
theorem textless_items_stop :
    (∀ item : Item, item.isTextless = true → ∃ fault : ItemFault,
      fault.message = "Item of type " ++ item.kindName ++ " has no text to match against" ∧
      ∀ query : Query, query.holds item = .error fault) ∧
    (∀ item : Item, item.isTextless = false →
      ∃ answers, ∀ query : Query, query.holds item = .ok (query.value answers)) ∧
    ∀ {α : Type} (view : α → Item) (query : Query) (xs : List α),
      ((query.select (fun x => (view x).holds) xs).2.isSome = true ↔
        ∃ x ∈ xs, (view x).isTextless = true) ∧
      ((∀ x ∈ xs, (view x).isTextless = false) →
        query.select (fun x => (view x).holds) xs =
          (xs.filter fun x => query.isMatch (view x), none)) ∧
      ∀ (before : List α) (x : α) (after : List α), xs = before ++ x :: after →
        (view x).isTextless = true → (∀ y ∈ before, (view y).isTextless = false) →
        query.select (fun x => (view x).holds) xs =
          (before.filter fun y => query.isMatch (view y), some ⟨(view x).kindName⟩) := by
  refine ⟨fun item textless => ⟨⟨item.kindName⟩, rfl, holds_of_textless textless⟩,
    fun item => exists_holds, fun view query xs => ⟨⟨fun failed => ?_, fun textless => ?_⟩,
      fun all => select_of_searchable all query, ?_⟩⟩
  · by_contra none
    have all : ∀ x ∈ xs, (view x).isTextless = false := by simpa using none
    rw [select_of_searchable all] at failed
    cases failed
  · obtain ⟨before, x, after, rfl, first, others⟩ := exists_first_textless textless
    rw [select_until_textless after others first]
    rfl
  · rintro before x after rfl textless others
    exact select_until_textless after others textless query

/-- A point without a text stops the match, and the object behind it is not reached. -/
theorem bare_point_stops :
    let query := word "red" .substring
    let sky : List Item := [.text "Red sky", .text "sky"]
    let point : Item := .record "Point" none (some (.bool true))
    let object : Item := .value (.obj [("text", .str "red")])
    (∀ item ∈ sky, item.isTextless = false) ∧ point.isTextless = true ∧
      object.isTextless = false ∧
      query.select Item.holds (sky ++ point :: [object]) =
        ([.text "Red sky"], some ⟨"Point"⟩) := by
  intro query sky point object
  have searchable : ∀ item ∈ sky, item.isTextless = false := by
    simp [sky, Item.isTextless, Item.text]
  have holds (text : String) :
      query.holds (.text text) = .ok (MatchPolicy.substring.contains text "red") :=
    (holds_eq_map_value query (.text text)).trans (by rw [← MatchPolicy.occursIn_ofString]; rfl)
  have red : query.isMatch (.text "Red sky") = true := by
    rw [isMatch, holds]
    set_option maxRecDepth 4000 in decide
  have plain : query.isMatch (.text "sky") = false := by
    rw [isMatch, holds]
    set_option maxRecDepth 4000 in decide
  have kept : sky.filter query.isMatch = [.text "Red sky"] := by
    rw [List.filter_cons_of_pos red, List.filter_cons_of_neg (by simp [plain]), List.filter_nil]
  obtain ⟨-, -, lists⟩ := textless_items_stop
  obtain ⟨-, -, stop⟩ := lists id query (sky ++ point :: [object])
  have stopped : query.select Item.holds (sky ++ point :: [object]) =
      (sky.filter query.isMatch, some ⟨"Point"⟩) :=
    stop sky point [object] rfl rfl searchable
  rw [kept] at stopped
  exact ⟨searchable, rfl, rfl, stopped⟩

end Query

end KeywordQuery
