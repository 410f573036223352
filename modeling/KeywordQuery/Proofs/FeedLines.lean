import Mathlib
import KeywordQuery.Log
import KeywordQuery.Proofs.Ends
import KeywordQuery.Proofs.JsonRoundTrip

/-!
# The lines of a feed

A feed takes its lines one by one.  Every line that is not blank gives one post, and what a line
gives does not hang on the lines around it, which only decide its number, nor on the blanks at its
ends.

* `RawText.stripped`, `Post.FromLine` — the post of a line, and `readLine_of_blank`,
  `readLine_of_object`, `readLine_of_plain` what a line holds;
* `Feed.Covers` — the posts and the log of lines that can be read; `Feed.covers_ofLinesFrom` says
  that a feed has them up to the first line that cannot;
* `Feed.andThen`, `Feed.ofLinesFrom_append` — the feed of lines that come after other lines;
* `Respaced` — lines with more blanks between them and around them, which `readLine_surrounded` and
  `Feed.ofLinesFrom_respaced` say make no difference;
* `feed_folds_lines` — the three together.
-/

namespace KeywordQuery

/-! ### Single lines -/

namespace RawText

/-- The line without the blanks at its two ends. -/
def stripped (line : RawText) : RawText := ofUnits (Text.dropEnds isBlankUnit line.toUnits)

/-- Whether the line has nothing but blanks. -/
def isBlankLine (line : RawText) : Bool := line.toUnits.all isBlankUnit

/-- Whether the line starts with a brace, blanks aside. -/
def opensObject (line : RawText) : Bool := line.stripped.toUnits.head? == some (.char '\x7b')

/-- The line with blanks around it. -/
def surrounded (before after : List Char) (line : RawText) : RawText :=
  ofUnits (before.map .char ++ line.toUnits ++ after.map .char)

theorem toUnits_stripped (line : RawText) :
    line.stripped.toUnits = Text.dropEnds isBlankUnit line.toUnits :=
  toUnits_ofUnits _

theorem isBlankLine_iff {line : RawText} :
    line.isBlankLine = true ↔ Text.dropEnds isBlankUnit line.toUnits = [] := by
  rw [Text.dropEnds_eq_nil_iff, isBlankLine, List.all_eq_true]

end RawText

/-- The post of a line: the post of a JSON object, or the line as its text. -/
inductive Post.FromLine (nesting : Nat) (line : RawText) : Post → Prop
  | object {post : Post} (opens : line.opensObject = true)
      (read : Post.ofJsonLine nesting line.stripped = .ok post) : FromLine nesting line post
  | plain (opens : line.opensObject = false) :
      FromLine nesting line { id := none, author := none, text := line.stripped }

section Line

variable {nesting : Nat} {line : RawText}

theorem readLine_of_blank (blank : line.isBlankLine = true) :
    readLine nesting line = .ok none := by
  rw [readLine, RawText.isBlankLine_iff.mp blank]

theorem readLine_of_object (opens : line.opensObject = true) :
    readLine nesting line = (Post.ofJsonLine nesting line.stripped).map some := by
  rw [RawText.opensObject, RawText.toUnits_stripped, beq_iff_eq] at opens
  rw [readLine]
  split
  · next none => rw [none] at opens; cases opens
  · next unit rest units =>
    rw [units, List.head?_cons, Option.some.injEq] at opens
    rw [if_pos opens, RawText.stripped, units]

theorem readLine_of_plain (some : line.isBlankLine = false) (opens : line.opensObject = false) :
    readLine nesting line = .ok (Option.some { text := line.stripped }) := by
  rw [RawText.opensObject, RawText.toUnits_stripped, beq_eq_false_iff_ne] at opens
  have units := mt RawText.isBlankLine_iff.mpr (Bool.eq_false_iff.mp some)
  rw [readLine]
  split
  · next none => exact absurd none units
  · next unit rest units =>
    rw [units, List.head?_cons, ne_eq, Option.some.injEq] at opens
    rw [if_neg opens, RawText.stripped, units]

/-- A line is blank, gives one post, or is an object that is no post. -/
theorem readLine_cases (nesting : Nat) (line : RawText) :
    (line.isBlankLine = true ∧ readLine nesting line = .ok none) ∨
    (line.isBlankLine = false ∧ ∃ post, Post.FromLine nesting line post ∧
      readLine nesting line = .ok (some post)) ∨
    (line.opensObject = true ∧ ∃ cause, Post.ofJsonLine nesting line.stripped = .error cause ∧
      readLine nesting line = .error cause) := by
  by_cases blank : line.isBlankLine = true
  · exact .inl ⟨blank, readLine_of_blank blank⟩
  rw [Bool.not_eq_true] at blank
  by_cases opens : line.opensObject = true
  · have object : readLine nesting line = _ := readLine_of_object opens
    cases read : Post.ofJsonLine nesting line.stripped with
    | ok post =>
      rw [read] at object
      exact .inr (.inl ⟨blank, post, .object opens read, object⟩)
    | error cause =>
      rw [read] at object
      exact .inr (.inr ⟨opens, cause, rfl, object⟩)
  · rw [Bool.not_eq_true] at opens
    exact .inr (.inl ⟨blank, _, .plain opens, readLine_of_plain blank opens⟩)

/-- Blanks around a line make no difference. -/
theorem readLine_surrounded {before after : List Char} (hb : ∀ c ∈ before, Text.isBlank c = true)
    (ha : ∀ c ∈ after, Text.isBlank c = true) (line : RawText) :
    readLine nesting (line.surrounded before after) = readLine nesting line := by
  have blank {cs : List Char} (h : ∀ c ∈ cs, Text.isBlank c = true) :
      ∀ unit ∈ cs.map TextUnit.char, isBlankUnit unit = true := by
    intro unit hu
    obtain ⟨c, hc, rfl⟩ := List.mem_map.mp hu
    exact h c hc
  rw [readLine, RawText.surrounded, RawText.toUnits_ofUnits,
    Text.dropEnds_surrounded (blank hb) (blank ha), readLine]

end Line

/-! ### Feeds -/

/-- The numbers of the blank lines, when the first line has the given number. -/
def blankNumbers (first : Nat) (lines : List RawText) : List Nat :=
  ((lines.zipIdx first).filter fun line => line.1.isBlankLine).map (·.2)

theorem blankNumbers_cons (first : Nat) (line : RawText) (lines : List RawText) :
    blankNumbers first (line :: lines) =
      if line.isBlankLine then first :: blankNumbers (first + 1) lines
      else blankNumbers (first + 1) lines := by
  rw [blankNumbers, List.zipIdx_cons, List.filter_cons]
  split
  · rfl
  · rfl

namespace Feed

/-- The feed has the posts of the lines, one for each line that is not blank, and notes the number
of each blank line, the first line being number `first`. -/
structure Covers (nesting first : Nat) (lines : List RawText) (feed : Feed) : Prop where
  posts : List.Forall₂ (Post.FromLine nesting) (lines.filter fun line => !line.isBlankLine)
    feed.posts
  log : (Event.ofFeed feed).map (fun event => event.record.message) =
    (blankNumbers first lines).map fun number => "Skipping blank line " ++ toString number

/-- The lines that were read are all lines, or those before an object that is no post, and then the
fault is that of the object and has its number. -/
def EndsAfter (nesting first : Nat) (lines read : List RawText) : Option FeedFault → Prop
  | none => read = lines
  | some fault => ∃ line rest, lines = read ++ line :: rest ∧ fault.line = first + read.length ∧
      line.opensObject = true ∧ Post.ofJsonLine nesting line.stripped = .error fault.cause

theorem EndsAfter.cons {nesting first : Nat} {lines read : List RawText}
    {fault : Option FeedFault} (h : EndsAfter nesting (first + 1) lines read fault)
    (line : RawText) : EndsAfter nesting first (line :: lines) (line :: read) fault := by
  cases fault with
  | none => exact congrArg (line :: ·) h
  | some fault =>
    obtain ⟨last, rest, split, place, failed⟩ := h
    refine ⟨last, rest, congrArg (line :: ·) split, ?_, failed⟩
    rw [place, List.length_cons]
    omega

section

variable {nesting : Nat}

theorem ofLinesFrom_of_blank {line : RawText} (h : readLine nesting line = .ok none) (number : Nat)
    (lines : List RawText) :
    ofLinesFrom nesting number (line :: lines) =
      { ofLinesFrom nesting (number + 1) lines with
        blanks := number :: (ofLinesFrom nesting (number + 1) lines).blanks } := by
  rw [ofLinesFrom, h]

theorem ofLinesFrom_of_post {line : RawText} {post : Post}
    (h : readLine nesting line = .ok (some post)) (number : Nat) (lines : List RawText) :
    ofLinesFrom nesting number (line :: lines) =
      { ofLinesFrom nesting (number + 1) lines with
        posts := post :: (ofLinesFrom nesting (number + 1) lines).posts } := by
  rw [ofLinesFrom, h]

theorem ofLinesFrom_of_fault {line : RawText} {cause : LineFault}
    (h : readLine nesting line = .error cause) (number : Nat) (lines : List RawText) :
    ofLinesFrom nesting number (line :: lines) = { fault := some ⟨number, cause⟩ } := by
  rw [ofLinesFrom, h]

/-- A feed has the posts and the log of the lines up to the first one that cannot be read. -/
theorem covers_ofLinesFrom (nesting number : Nat) (lines : List RawText) :
    ∃ read, Covers nesting number read (ofLinesFrom nesting number lines) ∧
      EndsAfter nesting number lines read (ofLinesFrom nesting number lines).fault := by
  induction lines generalizing number with
  | nil => exact ⟨[], ⟨.nil, rfl⟩, rfl⟩
  | cons line lines ih =>
    obtain ⟨read, covers, ended⟩ := ih (number + 1)
    rcases readLine_cases nesting line with
      ⟨blank, h⟩ | ⟨some, post, from', h⟩ | ⟨opens, cause, failed, h⟩
    · rw [ofLinesFrom_of_blank h]
      refine ⟨line :: read, ⟨?_, ?_⟩, ended.cons line⟩
      · rw [List.filter_cons_of_neg (by simp [blank])]
        exact covers.posts
      · rw [blankNumbers_cons, if_pos blank, List.map_cons, ← covers.log]
        rfl
    · rw [ofLinesFrom_of_post h]
      refine ⟨line :: read, ⟨?_, ?_⟩, ended.cons line⟩
      · rw [List.filter_cons_of_pos (by simp [some])]
        exact .cons from' covers.posts
      · rw [blankNumbers_cons, if_neg (by simp [some]), ← covers.log]
        rfl
    · rw [ofLinesFrom_of_fault h]
      exact ⟨[], ⟨.nil, rfl⟩, line, lines, rfl, rfl, opens, failed⟩

/-! ### Lines after lines -/

/-- The feed with its lines counted from a later number on. -/
def shift (count : Nat) (feed : Feed) : Feed where
  posts := feed.posts
  blanks := feed.blanks.map (· + count)
  fault := feed.fault.map fun fault => { fault with line := fault.line + count }

/-- The feed of some lines and of later lines, which are not reached if one of the first cannot be
read. -/
def andThen (feed : Feed) (count : Nat) (later : Feed) : Feed :=
  match feed.fault with
  | some _ => feed
  | none => {
      posts := feed.posts ++ later.posts
      blanks := feed.blanks ++ (later.shift count).blanks
      fault := (later.shift count).fault }

theorem ofLinesFrom_add (number count : Nat) (lines : List RawText) :
    ofLinesFrom nesting (number + count) lines =
      (ofLinesFrom nesting number lines).shift count := by
  induction lines generalizing number with
  | nil => rfl
  | cons line lines ih =>
    have next : number + count + 1 = number + 1 + count := by omega
    rcases h : readLine nesting line with cause | _ | post
    · rw [ofLinesFrom_of_fault h, ofLinesFrom_of_fault h]
      rfl
    · rw [ofLinesFrom_of_blank h, ofLinesFrom_of_blank h, next, ih]
      rfl
    · rw [ofLinesFrom_of_post h, ofLinesFrom_of_post h, next, ih]
      rfl

theorem andThen_shift (feed later : Feed) (count more : Nat) :
    feed.andThen count (later.shift more) = feed.andThen (more + count) later := by
  have shifted : (later.shift more).shift count = later.shift (more + count) := by
    simp [shift, Function.comp_def, Nat.add_assoc]
  rw [andThen, andThen, shifted]
  rfl

theorem andThen_of_blank (feed later : Feed) (number count : Nat) :
    andThen { feed with blanks := number :: feed.blanks } count later =
      { feed.andThen count later with blanks := number :: (feed.andThen count later).blanks } := by
  obtain ⟨posts, blanks, fault⟩ := feed
  cases fault with
  | none => rfl
  | some fault => rfl

theorem andThen_of_post (feed later : Feed) (post : Post) (count : Nat) :
    andThen { feed with posts := post :: feed.posts } count later =
      { feed.andThen count later with posts := post :: (feed.andThen count later).posts } := by
  obtain ⟨posts, blanks, fault⟩ := feed
  cases fault with
  | none => rfl
  | some fault => rfl

theorem ofLinesFrom_append (number : Nat) (xs ys : List RawText) :
    ofLinesFrom nesting number (xs ++ ys) =
      (ofLinesFrom nesting number xs).andThen xs.length (ofLinesFrom nesting number ys) := by
  induction xs generalizing number with
  | nil =>
    show _ = andThen {} 0 (ofLinesFrom nesting number ys)
    rw [List.nil_append, andThen, shift]
    simp
  | cons line xs ih =>
    let first := ofLinesFrom nesting (number + 1) xs
    have later : first.andThen xs.length (ofLinesFrom nesting (number + 1) ys) =
        first.andThen (line :: xs).length (ofLinesFrom nesting number ys) := by
      rw [ofLinesFrom_add number 1 ys, andThen_shift, List.length_cons, Nat.add_comm 1]
    rw [List.cons_append]
    rcases h : readLine nesting line with cause | _ | post
    · rw [ofLinesFrom_of_fault h, ofLinesFrom_of_fault h]
      rfl
    · rw [ofLinesFrom_of_blank h, ofLinesFrom_of_blank h, ih, later, andThen_of_blank]
    · rw [ofLinesFrom_of_post h, ofLinesFrom_of_post h, ih, later, andThen_of_post]

end

end Feed

/-! ### Lines with more blanks -/

/-- The second lines are the first ones with blanks around any of them and with blank lines before
any of them and after the last. -/
inductive Respaced : List RawText → List RawText → Prop
  | nil : Respaced [] []
  | blank {xs ys : List RawText} {line : RawText} (blank : line.isBlankLine = true)
      (h : Respaced xs ys) : Respaced xs (line :: ys)
  | line {xs ys : List RawText} {before after : List Char}
      (hb : ∀ c ∈ before, Text.isBlank c = true) (ha : ∀ c ∈ after, Text.isBlank c = true)
      (line : RawText) (h : Respaced xs ys) :
      Respaced (line :: xs) (line.surrounded before after :: ys)

namespace Feed

theorem ofLinesFrom_respaced {xs ys : List RawText} (h : Respaced xs ys) (nesting m n : Nat) :
    (ofLinesFrom nesting n ys).posts = (ofLinesFrom nesting m xs).posts ∧
      (ofLinesFrom nesting n ys).fault.map FeedFault.cause =
        (ofLinesFrom nesting m xs).fault.map FeedFault.cause := by
  induction h generalizing m n with
  | nil => exact ⟨rfl, rfl⟩
  | blank blank _ ih =>
    rw [ofLinesFrom_of_blank (readLine_of_blank blank)]
    exact ih m (n + 1)
  | line hb ha line _ ih =>
    have same : readLine nesting _ = _ := readLine_surrounded hb ha line
    obtain ⟨posts, faults⟩ := ih (m + 1) (n + 1)
    rcases h : readLine nesting line with cause | _ | post
    · rw [ofLinesFrom_of_fault h, ofLinesFrom_of_fault (same.trans h)]
      exact ⟨rfl, rfl⟩
    · rw [ofLinesFrom_of_blank h, ofLinesFrom_of_blank (same.trans h)]
      exact ⟨posts, faults⟩
    · rw [ofLinesFrom_of_post h, ofLinesFrom_of_post (same.trans h)]
      exact ⟨congrArg (post :: ·) posts, faults⟩

end Feed

/-- **A feed folds its lines.**  It has one post for each line that is not blank and one note for
each blank line, in order and with the numbers of all lines counted, up to the first object that is
no post, which is its fault.  Lines after lines that can be read add theirs with their numbers
shifted, and blanks around lines and between them change nothing but numbers. -/
theorem feed_folds_lines (nesting : Nat) (lines : List RawText) :
    (∃ read, Feed.Covers nesting 1 read (Feed.ofRawLines nesting lines) ∧
      Feed.EndsAfter nesting 1 lines read (Feed.ofRawLines nesting lines).fault) ∧
    (∀ more, Feed.ofRawLines nesting (lines ++ more) =
      (Feed.ofRawLines nesting lines).andThen lines.length (Feed.ofRawLines nesting more)) ∧
    (∀ respaced, Respaced lines respaced →
      (Feed.ofRawLines nesting respaced).posts = (Feed.ofRawLines nesting lines).posts ∧
      (Feed.ofRawLines nesting respaced).fault.map FeedFault.cause =
        (Feed.ofRawLines nesting lines).fault.map FeedFault.cause) := by
  refine ⟨Feed.covers_ofLinesFrom nesting 1 lines, fun more => ?_, fun respaced h => ?_⟩
  · exact Feed.ofLinesFrom_append 1 lines more
  · exact Feed.ofLinesFrom_respaced h nesting 1 1

/-- An object that is not closed has another number behind more lines, and the posts before it are
the same. -/
theorem respaced_feed_alike :
    let lines : List RawText := ["\x7b\"text\": \"a\"\x7d", "", " b", "\x7b"]
    let respaced : List RawText :=
      [RawText.surrounded ['\t'] [] "\x7b\"text\": \"a\"\x7d", "\u3000",
        RawText.surrounded [] [] "", RawText.surrounded [] [' '] " b", " ",
        RawText.surrounded [' '] ['\t'] "\x7b"]
    let posts : List Post := [{ text := "a" }, { text := "b" }]
    Respaced lines respaced ∧
      Feed.ofRawLines 20 lines =
        { posts, blanks := [2], fault := some ⟨4, .notJson .expectingName⟩ } ∧
      (Feed.ofRawLines 20 respaced).posts = posts ∧
      (Feed.ofRawLines 20 respaced).fault.map FeedFault.cause = some (.notJson .expectingName) := by
  intro lines respaced posts
  have tab : ∀ c ∈ ['\t'], Text.isBlank c = true := List.forall_mem_singleton.mpr (by decide)
  have space : ∀ c ∈ [' '], Text.isBlank c = true := List.forall_mem_singleton.mpr (by decide)
  have none : ∀ c ∈ [], Text.isBlank c = true := List.forall_mem_nil _
  have last : Respaced ["\x7b"] [" ", RawText.surrounded [' '] ['\t'] "\x7b"] :=
    .blank (by decide) (.line space tab _ .nil)
  have alike : Respaced lines respaced :=
    .line tab none _ (.blank (by decide) (.line none none _ (.line none space _ last)))
  have feed : Feed.ofRawLines 20 lines =
      { posts, blanks := [2], fault := some ⟨4, .notJson .expectingName⟩ } := by
    cbv
  obtain ⟨-, -, same⟩ := feed_folds_lines 20 lines
  obtain ⟨kept, fault⟩ := same respaced alike
  rw [feed] at kept fault
  exact ⟨alike, feed, kept, fault⟩

end KeywordQuery
