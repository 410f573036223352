import Mathlib
import KeywordQuery.Command.Session
import KeywordQuery.Proofs.Ends
import KeywordQuery.Proofs.Equivalence
import KeywordQuery.Proofs.JsonLine

/-!
# The rows of a match as a feed

The rows that a match reports, each written on a line of its own, are a feed of the matched posts.

* `Post.ofFields_row` — the row of a post is read as the post;
* `Feed.exact_toJson` — the rows of a feed's posts are values that are read back: an identifier is
  an integer that was read, or stands for a truth value or for a number of at most 64 bits;
* `readLine_toJson`, `Feed.ofLinesFrom_rows` — the lines of rows are read as the posts;
* `Query.select_post` — a match keeps the posts that the query holds of, and every post can be
  searched;
* `Query.matched_rows_read_back` — the rows of a match, read as a feed, are the matched posts, and
  the query keeps them all.
-/

namespace KeywordQuery

/-! ### Rows -/

namespace Post

/-- The fields of the row of a post. -/
def row (post : Post) : Json.Fields :=
  [("id", .ofOption PostId.toJson post.id), ("author", .ofOption .str post.author),
    ("text", .str post.text)]

theorem toJson_eq (post : Post) : post.toJson = .obj post.row := rfl

theorem idOfJson_ofOption (id : Option PostId) :
    idOfJson (.ofOption PostId.toJson id) = .ok id := by
  rcases id with _ | ⟨value | value⟩
  · rfl
  · rfl
  · rfl

theorem authorOfJson_ofOption (author : Option RawText) :
    authorOfJson (.ofOption .str author) = .ok author := by
  cases author with
  | none => rfl
  | some author => rfl

/-- The row of a post is the post. -/
theorem ofFields_row (post : Post) : ofFields post.row = .ok post := by
  have id : Json.field? post.row "id" = some (.ofOption PostId.toJson post.id) := rfl
  have author : Json.field? post.row "author" = some (.ofOption .str post.author) := rfl
  have text : Json.field? post.row "text" = some (.str post.text) := rfl
  rw [ofFields, id, author, text]
  simp only [Option.getD_some, idOfJson_ofOption, authorOfJson_ofOption]
  rfl

/-- A report shows the row of a post as it is. -/
theorem reportForm_toJson (post : Post) : post.toJson.reportForm = post.toJson := by
  obtain ⟨id, author, text⟩ := post
  rcases id with _ | ⟨value | value⟩ <;> rcases author with _ | author <;> rfl

theorem exact_toJson {room : Nat} {post : Post}
    (id : Json.Exact room (.ofOption PostId.toJson post.id)) :
    Json.Exact (room + 1) post.toJson := by
  have names : (["id", "author", "text"].map RawText.ofString).Nodup := by decide
  refine .obj names fun field hf => ?_
  simp only [List.mem_cons, List.not_mem_nil, or_false] at hf
  rcases hf with rfl | rfl | rfl
  · exact id
  · cases post.author with
    | none => exact .null
    | some author => exact .str author
  · exact .str post.text

end Post

/-! ### Identifiers -/

namespace Post

theorem length_toDigits_integerOfFloat {number : Binary64} {value : Int}
    (h : integerOfFloat number = .ok value) :
    (Nat.toDigits 10 value.natAbs).length ≤ Json.maxDigits := by
  rw [integerOfFloat] at h
  split at h
  · cases h
  · split at h
    · cases h
    · split at h
      · next value' _ small =>
        obtain rfl : value' = value := by simpa using h
        have : (Nat.toDigits 10 value'.natAbs).length ≤ 19 := by
          rw [Nat.length_toDigits_le_iff (by omega) (by omega)]
          have : Binary64.twoTo 63 < 10 ^ 19 := by decide
          omega
        exact Nat.le_trans this (by decide)
      · cases h

variable {room : Nat}

/-- An identifier that was read can be written and read again. -/
theorem exact_idOfJson {value : Json} {id : Option PostId} (few : Json.HasFewDigits value)
    (h : idOfJson value = .ok id) : Json.Exact room (.ofOption PostId.toJson id) := by
  cases value with
  | null =>
    obtain rfl : none = id := by simpa [idOfJson] using h
    exact .null
  | int value =>
    obtain rfl : some (PostId.number value) = id := by simpa [idOfJson] using h
    cases few with
    | int few => exact .int few
  | str value =>
    obtain rfl : some (PostId.name value) = id := by simpa [idOfJson] using h
    exact .str value
  | bool value =>
    obtain rfl : some (PostId.number (if value then 1 else 0)) = id := by
      simpa [idOfJson] using h
    refine .int ?_
    cases value <;> decide
  | float number =>
    rcases integer : integerOfFloat number with problem | value
    · simp [idOfJson, integer] at h
    · obtain rfl : some (PostId.number value) = id := by simpa [idOfJson, integer] using h
      exact .int (length_toDigits_integerOfFloat integer)
  | arr items => simp [idOfJson] at h
  | obj fields => simp [idOfJson] at h

theorem hasFewDigits_field? {fields : Json.Fields}
    (few : ∀ field ∈ fields, Json.HasFewDigits field.2) (name : String) :
    Json.HasFewDigits ((Json.field? fields name).getD .null) := by
  rw [Json.field?]
  rcases found : fields.find? (·.1 == RawText.ofString name) with _ | field
  · rw [found]
    exact .null
  · rw [found]
    exact few field (List.mem_of_find?_eq_some found)

theorem exact_ofFields {fields : Json.Fields} {post : Post}
    (few : ∀ field ∈ fields, Json.HasFewDigits field.2) (h : ofFields fields = .ok post) :
    Json.Exact (room + 1) post.toJson := by
  rw [ofFields] at h
  split at h
  · next id author text read _ _ =>
    obtain rfl : ⟨id, author, text⟩ = post := by simpa using h
    exact exact_toJson (exact_idOfJson (hasFewDigits_field? few "id") read)
  · cases h

end Post

/-! ### Lines -/

variable {nesting room : Nat}

theorem exact_ofJsonLine {line : RawText} {post : Post}
    (h : Post.ofJsonLine nesting line = .ok post) : Json.Exact (room + 1) post.toJson := by
  rw [Post.ofJsonLine] at h
  split at h
  · cases h
  · next fields read =>
    split at h
    · next post' valid =>
      obtain rfl : post' = post := by simpa using h
      cases Json.hasFewDigits_of_read read with
      | obj few => exact Post.exact_ofFields few valid
    · cases h
  · cases h

theorem exact_readLine {line : RawText} {post : Post}
    (h : readLine nesting line = .ok (some post)) : Json.Exact (room + 1) post.toJson := by
  rw [readLine] at h
  split at h
  · cases h
  · next unit rest _ =>
    simp only at h
    split at h
    · rcases read : Post.ofJsonLine nesting (RawText.ofUnits (unit :: rest)) with cause | post'
      · rw [read] at h
        cases h
      · rw [read] at h
        obtain rfl : post' = post := by simpa [Except.map] using h
        exact exact_ofJsonLine read
    · obtain rfl : { text := RawText.ofUnits (unit :: rest) } = post := by simpa using h
      exact Post.exact_toJson .null

/-- The line of a row is read as the post. -/
theorem readLine_toJson {post : Post} (exact : Json.Exact nesting post.toJson) :
    readLine nesting post.toJson.toLine = .ok (some post) := by
  have line : post.toJson.toLine.toUnits =
      .char '\x7b' :: (Json.encodeFields post.row ++ [.char '\x7d']) :=
    RawText.toUnits_ofUnits _
  have kept : Text.dropEnds isBlankUnit post.toJson.toLine.toUnits =
      .char '\x7b' :: (Json.encodeFields post.row ++ [.char '\x7d']) := by
    rw [line]
    exact Text.dropEnds_cons_concat (by decide) (by decide) _
  have row : Post.ofJsonLine nesting post.toJson.toLine = .ok post := by
    rw [Post.ofJsonLine, Json.read_toLine exact, Post.toJson_eq]
    simp only [Post.ofFields_row]
  rw [readLine, kept]
  simp only [if_pos, ← line, RawText.ofUnits_toUnits, row]
  rfl

namespace Feed

theorem exact_toJson {lines : List RawText} {number : Nat} {post : Post}
    (h : post ∈ (ofLinesFrom nesting number lines).posts) : Json.Exact (room + 1) post.toJson := by
  induction lines generalizing number with
  | nil => cases h
  | cons line lines ih =>
    rw [ofLinesFrom] at h
    rcases read : readLine nesting line with cause | _ | first
    · rw [read] at h
      cases h
    · rw [read] at h
      exact ih h
    · rw [read] at h
      rcases List.mem_cons.mp h with rfl | later
      · exact exact_readLine read
      · exact ih later

/-- The lines of rows are a feed of the posts, without blank lines and without a fault. -/
theorem ofLinesFrom_rows {posts : List Post}
    (exact : ∀ post ∈ posts, Json.Exact nesting post.toJson) (number : Nat) :
    ofLinesFrom nesting number (posts.map fun post => post.toJson.toLine) = { posts } := by
  induction posts generalizing number with
  | nil => rfl
  | cons post posts ih =>
    rw [List.map_cons, ofLinesFrom, readLine_toJson (exact post List.mem_cons_self)]
    simp only [ih fun post hp => exact post (List.mem_cons_of_mem _ hp)]

end Feed

/-! ### Matches -/

namespace Query

/-- Whether the query holds of a post. -/
def matchesPost (query : Query) (post : Post) : Bool :=
  query.value fun term policy => policy.occursIn post.text term

theorem holds_post (query : Query) (post : Post) :
    query.holds (.post post) = .ok (query.matchesPost post) :=
  holds_eq_map_value query (.post post)

/-- Every post can be searched, and a match keeps those that the query holds of. -/
theorem select_post (query : Query) (posts : List Post) :
    query.select Post.holds posts = (posts.filter query.matchesPost, none) := by
  induction posts with
  | nil => rfl
  | cons post posts ih =>
    have answer : query.evalM post.holds = .ok (query.matchesPost post) := holds_post query post
    rw [select, answer, ih, List.filter_cons]

/-- **The rows of a match are a feed of the matched posts.**  If every line of an input can be
read, the match reports a row for each post that the query holds of.  Written one to a line, no row
holds a line end, the lines are read as the same posts in the same order, and the query holds of all
of them.  This needs no more nesting than any line of JSON does. -/
theorem matched_rows_read_back (nesting : Nat) (query : Query) (lines : List String)
    (accepted : (Feed.ofLines (nesting + 1) lines).fault = none) :
    ∃ kept : List Post, ∃ rows : List Json,
      query.select Post.holds (Feed.ofLines (nesting + 1) lines).posts = (kept, none) ∧
      (∀ post ∈ (Feed.ofLines (nesting + 1) lines).posts,
        post ∈ kept ↔ query.holds (.post post) = .ok true) ∧
      (Command.matchInput (nesting + 1) false query (lines, none)).data =
        .ok (.obj [("count", .int kept.length), ("posts", .arr rows)]) ∧
      (∀ row ∈ rows, row.reportForm = row ∧
        ∀ unit ∈ row.toLine.toUnits, unit ≠ .char '\n' ∧ unit ≠ .char '\r') ∧
      Feed.ofRawLines (nesting + 1) (rows.map Json.toLine) = { posts := kept } ∧
      query.select Post.holds kept = (kept, none) := by
  let kept := (Feed.ofLines (nesting + 1) lines).posts.filter query.matchesPost
  have selected : query.select Post.holds (Feed.ofLines (nesting + 1) lines).posts = (kept, none) :=
    select_post query _
  have exact : ∀ post ∈ kept, Json.Exact (nesting + 1) post.toJson := fun post hp =>
    Feed.exact_toJson (List.mem_of_mem_filter hp)
  refine ⟨kept, kept.map Post.toJson, selected, fun post hp => ?_, ?_, ?_, ?_, ?_⟩
  · rw [List.mem_filter, holds_post]
    simp [hp]
  · have input : Command.feedOfInput (nesting + 1) (lines, none) =
        (Feed.ofLines (nesting + 1) lines, .ok (Feed.ofLines (nesting + 1) lines).posts) := by
      rw [Command.feedOfInput, accepted]
    rw [Command.matchInput, input]
    simp only [Command.matchingPosts, selected]
    rfl
  · intro row hr
    obtain ⟨post, -, rfl⟩ := List.mem_map.mp hr
    exact ⟨post.reportForm_toJson, fun unit hu => Json.not_mem_toLine _ hu⟩
  · rw [Feed.ofRawLines, List.map_map]
    exact Feed.ofLinesFrom_rows exact 1
  · rw [select_post, List.filter_filter]
    simp only [Bool.and_self]
    rfl

/-- A row with an identifier that stood for a truth value, a control character and half of a
surrogate pair, and the row of a plain line; a line without the word is left out. -/
theorem coerced_row_reads_back :
    let lines := ["\x7b\"id\": true, \"text\": \"a\\u0001\\ud800\"\x7d", "", "b", " \"A\" text"]
    let kept : List Post :=
      [{ id := some (.number 1), text := ⟨"a\x01", [(0xD800, "")]⟩ }, { text := "\"A\" text" }]
    (Feed.ofLines 1 lines).fault = none ∧
    ∃ rows : List Json,
      (Command.matchInput 1 false (word "a" .word) (lines, none)).data =
        .ok (.obj [("count", .int 2), ("posts", .arr rows)]) ∧
      Feed.ofRawLines 1 (rows.map Json.toLine) = { posts := kept } := by
  intro lines kept
  have feed : Feed.ofLines 1 lines =
      { posts := [kept[0], { text := "b" }, kept[1]], blanks := [2] } := by
    cbv
  have accepted : (Feed.ofLines 1 lines).fault = none := by rw [feed]
  have filtered :
      [kept[0], { text := "b" }, kept[1]].filter (word "a" .word).matchesPost = kept := by
    decide +kernel
  obtain ⟨found, rows, selected, -, data, -, back, -⟩ :=
    matched_rows_read_back 0 (word "a" .word) lines accepted
  rw [select_post, feed, filtered] at selected
  obtain rfl : kept = found := congrArg Prod.fst selected
  exact ⟨accepted, rows, data, back⟩

end Query

end KeywordQuery
