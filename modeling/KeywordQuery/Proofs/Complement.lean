import Mathlib.Data.List.Sigma
import KeywordQuery.Proofs.Composition
import KeywordQuery.Proofs.Outcomes
import KeywordQuery.Proofs.Searchable

/-!
# A query and its negation split a feed

Every item that can be searched matches either a query or its negation.  So the two matches of a
list divide it between them: each keeps its part in order, and merging the parts gives the list.

* `Interleaves` — a list that is merged from two lists in order; `interleaves_filter`;
* `Query.isMatch_not` — the items that a negation holds of;
* `Query.select_not_interleaves` — a query and its negation divide a list;
* `Query.select_map` — a match of the images of a list;
* `Query.negation_splits_feed` — the texts of a query and of its negation split every feed.
-/

namespace KeywordQuery

/-! ### Merged lists -/

/-- The last list is merged from the first two, each of which stays in order. -/
inductive Interleaves {α : Type} : List α → List α → List α → Prop where
  | nil : Interleaves [] [] []
  | left (x : α) {xs ys zs : List α} (rest : Interleaves xs ys zs) :
      Interleaves (x :: xs) ys (x :: zs)
  | right (y : α) {xs ys zs : List α} (rest : Interleaves xs ys zs) :
      Interleaves xs (y :: ys) (y :: zs)

section

variable {α β : Type}

theorem interleaves_filter (p : α → Bool) (xs : List α) :
    Interleaves (xs.filter p) (xs.filter fun x => !p x) xs := by
  induction xs with
  | nil => exact .nil
  | cons x xs ih =>
    rcases hx : p x with _ | _
    · rw [List.filter_cons_of_neg (by simp [hx]), List.filter_cons_of_pos (by simp [hx])]
      exact .right x ih
    · rw [List.filter_cons_of_pos hx, List.filter_cons_of_neg (by simp [hx])]
      exact .left x ih

namespace Interleaves

variable {xs ys zs : List α}

theorem map (f : α → β) (h : Interleaves xs ys zs) :
    Interleaves (xs.map f) (ys.map f) (zs.map f) := by
  induction h with
  | nil => exact .nil
  | left x _ ih => exact .left (f x) ih
  | right y _ ih => exact .right (f y) ih

theorem perm (h : Interleaves xs ys zs) : zs.Perm (xs ++ ys) := by
  induction h with
  | nil => exact .nil
  | left x _ ih => exact ih.cons x
  | right y _ ih => exact (ih.cons y).trans List.perm_middle.symm

theorem length_add (h : Interleaves xs ys zs) : xs.length + ys.length = zs.length := by
  rw [h.perm.length_eq, List.length_append]

/-- Parts of a list without repetitions have nothing in common. -/
theorem disjoint (h : Interleaves xs ys zs) (distinct : zs.Nodup) : xs.Disjoint ys :=
  List.disjoint_of_nodup_append (h.perm.nodup_iff.mp distinct)

end Interleaves

end

namespace Query

/-! ### Matches of a list -/

/-- A negation holds of the items that can be searched and do not match. -/
theorem isMatch_not {item : Item} (h : item.isTextless = false) (query : Query) :
    (not query).isMatch item = !query.isMatch item := by
  obtain ⟨answers, holds⟩ := exists_holds h
  rw [isMatch, isMatch, holds, holds, value]

section

variable {α : Type} {view : α → Item}

/-- A query and its negation divide a list of items that can be searched. -/
theorem select_not_interleaves {xs : List α} (h : ∀ x ∈ xs, (view x).isTextless = false)
    (query : Query) :
    ∃ kept left, query.select (fun x => (view x).holds) xs = (kept, none) ∧
      (not query).select (fun x => (view x).holds) xs = (left, none) ∧
      Interleaves kept left xs := by
  refine ⟨_, _, select_of_searchable h query, select_of_searchable h (not query), ?_⟩
  have others : (xs.filter fun x => (not query).isMatch (view x)) =
      xs.filter fun x => !query.isMatch (view x) :=
    List.filter_congr fun x hx => isMatch_not (h x hx) query
  rw [others]
  exact interleaves_filter _ xs

end

theorem select_map {α β ε : Type} (f : α → β) (ask : β → String → MatchPolicy → Except ε Bool)
    (query : Query) (xs : List α) :
    query.select ask (xs.map f) =
      ((query.select (fun x => ask (f x)) xs).1.map f,
        (query.select (fun x => ask (f x)) xs).2) := by
  induction xs with
  | nil => rfl
  | cons x xs ih =>
    rw [List.map_cons, select, select, ih]
    rcases query.evalM (ask (f x)) with fault | matched
    · rfl
    · cases matched with
      | false => rfl
      | true => rfl

/-! ### Feeds -/

theorem select_placed (query : Query) {posts : List Post} {kept : List (Post × Nat)}
    (h : query.select (fun placed => placed.1.holds) posts.zipIdx = (kept, none)) :
    query.select Post.holds posts = (kept.map Prod.fst, none) := by
  have images : query.select Post.holds (posts.zipIdx.map Prod.fst) =
      ((query.select (fun placed => placed.1.holds) posts.zipIdx).1.map Prod.fst,
        (query.select (fun placed => placed.1.holds) posts.zipIdx).2) :=
    select_map Prod.fst Post.holds query posts.zipIdx
  rwa [List.zipIdx_map_fst, h] at images

/-- A query and its negation divide the posts of a list. -/
theorem split_posts (query : Query) (posts : List Post) :
    ∃ kept left : List (Post × Nat),
      query.select (fun placed => placed.1.holds) posts.zipIdx = (kept, none) ∧
      (not query).select (fun placed => placed.1.holds) posts.zipIdx = (left, none) ∧
      Interleaves kept left posts.zipIdx := by
  have searchable : ∀ placed ∈ posts.zipIdx, (Item.post placed.1).isTextless = false :=
    fun _ _ => rfl
  exact select_not_interleaves searchable query

theorem data_of_select {nesting : Nat} {settings : Command.Settings} {operands : List String}
    {query : Query}
    (read : parse settings.policy (Command.joinOperands operands) = .ok query)
    {lines : List String} (accepted : (Feed.ofLines nesting lines).fault = none) {kept : List Post}
    (selected : query.select Post.holds (Feed.ofLines nesting lines).posts = (kept, none))
    (countOnly : Bool) :
    (Command.matchCommand (m := Id) nesting settings operands countOnly (lines, none)).data =
      .ok (Command.matchData countOnly kept) := by
  rw [select_post] at selected
  obtain rfl : (Feed.ofLines nesting lines).posts.filter query.matchesPost = kept :=
    congrArg Prod.fst selected
  rw [(Command.data_matchCommand_of_query read nesting countOnly (lines, none)).1,
    Command.matchInput_of_posts accepted rfl]

/-- **A query and its negation split a feed.**  If a text is a query, then so is the text behind
`not` and in parentheses.  The posts that the two match stand at different places of a list, and in
the order of their places they are the whole list.  So the numbers that the two matches of an input
report add up to the number of its posts. -/
theorem negation_splits_feed {policy : MatchPolicy} {text : String} {query : Query}
    (read : parse policy text = .ok query) :
    ∃ negated, parse policy ("not (" ++ text ++ ")") = .ok negated ∧
    (∀ posts : List Post, ∃ kept left : List (Post × Nat),
      query.select (fun placed => placed.1.holds) posts.zipIdx = (kept, none) ∧
      negated.select (fun placed => placed.1.holds) posts.zipIdx = (left, none) ∧
      query.select Post.holds posts = (kept.map Prod.fst, none) ∧
      negated.select Post.holds posts = (left.map Prod.fst, none) ∧
      (kept.map Prod.snd).Disjoint (left.map Prod.snd) ∧
      Interleaves kept left posts.zipIdx) ∧
    ∀ (nesting : Nat) (settings : Command.Settings) (operands operands' : List String)
      (countOnly : Bool) (lines : List String), settings.policy = policy →
      Command.joinOperands operands = text →
      Command.joinOperands operands' = "not (" ++ text ++ ")" →
      (Feed.ofLines nesting lines).fault = none →
      let found (operands : List String) :=
        (Command.matchCommand (m := Id) nesting settings operands countOnly (lines, none)).data
      ∃ kept left : List Post,
        found operands = .ok (Command.matchData countOnly kept) ∧
        found operands' = .ok (Command.matchData countOnly left) ∧
        Interleaves kept left (Feed.ofLines nesting lines).posts ∧
        kept.length + left.length = (Feed.ofLines nesting lines).posts.length := by
  have negated : parse policy ("not (" ++ text ++ ")") = .ok (.not query) := by
    have spelled : "not (" ++ text ++ ")" = "not" ++ " " ++ group text := by
      rw [← String.toList_inj]
      simp [group]
    rw [spelled]
    exact parse_not_group read
  refine ⟨.not query, negated, fun posts => ?_, ?_⟩
  · obtain ⟨kept, left, matched, unmatched, merged⟩ := split_posts query posts
    have places : (posts.zipIdx.map Prod.snd).Nodup := List.nodup_zipIdx_map_snd posts
    exact ⟨kept, left, matched, unmatched, select_placed query matched,
      select_placed (.not query) unmatched, (merged.map Prod.snd).disjoint places, merged⟩
  · rintro nesting settings operands operands' countOnly lines rfl rfl joined accepted found
    obtain ⟨kept, left, matched, unmatched, merged⟩ :=
      split_posts query (Feed.ofLines nesting lines).posts
    rw [← joined] at negated
    have posts := merged.map Prod.fst
    rw [List.zipIdx_map_fst] at posts
    exact ⟨_, _, data_of_select read accepted (select_placed query matched) countOnly,
      data_of_select negated accepted (select_placed (.not query) unmatched) countOnly, posts,
      posts.length_add⟩

/-- Two of three posts match a disjunction, its negation matches the one between them, and both
matches of the lines report it. -/
theorem sky_feed_split :
    let text := "red or blue"
    let query := join .or (word "red" .word) (word "blue" .word)
    let lines := ["Red sky", "", "grey sky", "\x7b\"id\": \"x\", \"text\": \"blue sea\"\x7d"]
    let posts : List Post :=
      [{ text := "Red sky" }, { text := "grey sky" },
        { id := some (.name "x"), text := "blue sea" }]
    let found (operands : List String) := (Command.matchCommand (m := Id) 1000
      { policy := .word } operands true (lines, none)).data
    parse .word text = .ok query ∧ Feed.ofLines 1000 lines = { posts, blanks := [2] } ∧
    query.select Post.holds posts = ([posts[0], posts[2]], none) ∧
    ∃ kept left : List Post, kept.length + left.length = 3 ∧
      found ["red or", "blue"] = .ok (Command.matchData true kept) ∧
      found ["not", "(red", "or blue)"] = .ok (Command.matchData true left) := by
  intro text query lines posts found
  have read : parse .word text = .ok query := by cbv
  have feed : Feed.ofLines 1000 lines = { posts, blanks := [2] } := by cbv
  have accepted : (Feed.ofLines 1000 lines).fault = none := by rw [feed]
  have selected : query.select Post.holds posts = ([posts[0], posts[2]], none) := by
    rw [select_post]
    decide +kernel
  have joined : Command.joinOperands ["red or", "blue"] = text := by decide +kernel
  have joined' : Command.joinOperands ["not", "(red", "or blue)"] = "not (" ++ text ++ ")" := by
    decide +kernel
  obtain ⟨negated, -, -, counts⟩ := negation_splits_feed read
  obtain ⟨kept, left, matched, unmatched, -, sum⟩ :=
    counts 1000 { policy := .word } _ _ true lines rfl joined joined' accepted
  rw [feed] at sum
  exact ⟨read, feed, selected, kept, left, sum, matched, unmatched⟩

end Query

end KeywordQuery
