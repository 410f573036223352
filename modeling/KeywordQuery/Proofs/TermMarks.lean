import KeywordQuery.Proofs.Ends
import KeywordQuery.Proofs.Matching

/-!
# Marks in front of a term

Under the word policy the marks of hashtags and mentions in front of a term are disregarded, with
one exception.  Apostrophes are taken off a chunk before marks are, so a mark in front of an
apostrophe keeps the apostrophe in the word.

* `opensQuoted` — the terms with an apostrophe in front of their first word;
* `bareWord_marks_append` — a chunk with marks in front of it;
* `exists_words_marks_append` — the words of a term with marks in front of it;
* `contains_marked_iff` — the terms that match the same texts with and without marks.
-/

namespace KeywordQuery

open Text

/-- Whether the character is an apostrophe. -/
def isQuote (c : Char) : Bool := c == '\''

/-- Whether a chunk goes on after the apostrophes at the start of the text. -/
def goesOn (cs : List Char) : Bool := (cs.dropWhile isQuote).head?.any isChunkChar

/-- Whether the text has apostrophes in front of its first word. -/
def opensQuoted (cs : List Char) : Bool := cs.head?.any isQuote && goesOn cs

theorem goesOn_cons_of_pos {c : Char} (h : isQuote c = true) (cs : List Char) :
    goesOn (c :: cs) = goesOn cs := by
  rw [goesOn, List.dropWhile_cons_of_pos h, goesOn]

theorem goesOn_cons_of_neg {c : Char} (h : ¬isQuote c = true) (cs : List Char) :
    goesOn (c :: cs) = isChunkChar c := by
  rw [goesOn, List.dropWhile_cons_of_neg h]
  rfl

theorem isChunkChar_of_isQuote {c : Char} (h : isQuote c = true) : isChunkChar c = true := by
  rw [isChunkChar, Bool.or_eq_true]
  exact .inr h

/-- Only the first chunk of a text decides whether it opens with apostrophes. -/
theorem opensQuoted_takeWhile (cs : List Char) :
    opensQuoted (cs.takeWhile isChunkChar) = opensQuoted cs := by
  have on : goesOn (cs.takeWhile isChunkChar) = goesOn cs := by
    induction cs with
    | nil => rfl
    | cons c cs ih =>
      by_cases quote : isQuote c = true
      · rw [List.takeWhile_cons_of_pos (isChunkChar_of_isQuote quote), goesOn_cons_of_pos quote,
          goesOn_cons_of_pos quote, ih]
      · rw [goesOn_cons_of_neg quote]
        by_cases chunk : isChunkChar c = true
        · rw [List.takeWhile_cons_of_pos chunk, goesOn_cons_of_neg quote]
        · rw [List.takeWhile_cons_of_neg chunk, Bool.eq_false_iff.mpr chunk]
          rfl
  rw [opensQuoted, on, opensQuoted]
  cases cs with
  | nil => rfl
  | cons c cs =>
    by_cases chunk : isChunkChar c = true
    · rw [List.takeWhile_cons_of_pos chunk]
      rfl
    · have plain : isQuote c = false := Bool.eq_false_iff.mpr (mt isChunkChar_of_isQuote chunk)
      rw [List.takeWhile_cons_of_neg chunk, List.head?_cons, Option.any_some, plain]
      rfl

/-! ### Apostrophes and marks in lower case -/

/-- A character keeps its part in a chunk in lower case. -/
theorem exists_lowerAt_chunk (before after : Bool) (c : Char) :
    ∃ form rest, lowerAt before after c = form :: rest ∧ isQuote form = isQuote c ∧
      isChunkChar form = isChunkChar c ∧ (isQuote c = true → rest = []) := by
  obtain ⟨form, eq, alike⟩ := exists_lowerAt before after c
  have quote : isQuote form = isQuote c := alike.beq_eq (by simp)
  have mark : isMark form = isMark c := by
    rw [isMark, alike.beq_eq (by simp), alike.beq_eq (by simp), isMark]
  refine ⟨form, _, eq, quote, ?_, ?_⟩
  · have parts (d : Char) : isChunkChar d = (isWordChar d || isMark d || isQuote d) := by
      rw [isChunkChar, isMark, isQuote, Bool.or_assoc (isWordChar d)]
    rw [parts, parts, quote, mark, alike.isWordChar_eq]
  · rintro h
    rw [if_neg]
    rintro rfl
    exact absurd h (by decide)

theorem goesOn_lowerPart (before after : Bool) (cs : List Char) :
    goesOn (lowerPart before after cs) = goesOn cs := by
  induction cs generalizing before with
  | nil => rfl
  | cons c cs ih =>
    obtain ⟨form, rest, eq, quote, chunk, alone⟩ :=
      exists_lowerAt_chunk before (seenAhead after cs) c
    rw [lowerPart, eq, List.cons_append]
    by_cases hc : isQuote c = true
    · rw [goesOn_cons_of_pos (quote.trans hc), goesOn_cons_of_pos hc, alone hc]
      exact ih _
    · rw [goesOn_cons_of_neg (by rwa [quote]), goesOn_cons_of_neg hc, chunk]

theorem opensQuoted_lower (cs : List Char) : opensQuoted (lower cs) = opensQuoted cs := by
  rw [lower_eq_lowerPart, opensQuoted, goesOn_lowerPart, opensQuoted]
  cases cs with
  | nil => rfl
  | cons c cs =>
    obtain ⟨form, rest, eq, quote, -⟩ := exists_lowerAt_chunk false (seenAhead false cs) c
    rw [lowerPart, eq]
    exact congrArg (· && _) quote

theorem mark_cases {c : Char} (h : isMark c = true) : c = '#' ∨ c = '@' := by
  simpa [isMark] using h

theorem isChunkChar_of_isMark {c : Char} (h : isMark c = true) : isChunkChar c = true := by
  rw [isChunkChar, Bool.or_assoc (isWordChar c), ← isMark, h, Bool.or_true, Bool.true_or]

theorem lower_marks_append {marks : List Char} (h : marks.all isMark = true) (cs : List Char) :
    lower (marks ++ cs) = marks ++ lower cs := by
  induction marks with
  | nil => rfl
  | cons c marks ih =>
    rw [List.all_cons, Bool.and_eq_true] at h
    have stop : isCased c = false ∧ isCaseIgnorable c = false := by
      rcases mark_cases h.1 with rfl | rfl <;> set_option maxRecDepth 4000 in decide
    rw [List.cons_append, lower_cons stop.1 stop.2, ih h.2, List.cons_append]

/-! ### The ends of a chunk -/

/-- The word of a chunk that has marks in front: its apostrophes are taken off at its end only. -/
def markedWord (chunk : List Char) : List Char := (dropEnd isQuote chunk).dropWhile isMark

theorem bareWord_marks_append {marks : List Char} (some : marks ≠ []) (h : marks.all isMark = true)
    (chunk : List Char) : bareWord (marks ++ chunk) = markedWord chunk := by
  have all : ∀ c ∈ marks, isMark c = true := List.all_eq_true.mp h
  have plain : ∀ c ∈ marks, isQuote c = false := by
    intro c hc
    rcases mark_cases (all c hc) with rfl | rfl <;> decide
  obtain ⟨mark, rest, rfl⟩ := List.exists_cons_of_ne_nil some
  have start : (mark :: rest ++ chunk).dropWhile isQuote = mark :: rest ++ chunk :=
    List.dropWhile_cons_of_neg (by simp [plain mark List.mem_cons_self])
  show (dropEnd isQuote ((mark :: rest ++ chunk).dropWhile isQuote)).dropWhile isMark = _
  rw [start, dropEnd_append_of_neg plain, List.dropWhile_append_of_pos all, markedWord]

theorem bareWord_of_not_opensQuoted {chunk : List Char} (all : chunk.all isChunkChar = true)
    (h : opensQuoted chunk = false) : bareWord chunk = markedWord chunk := by
  show (dropEnd isQuote (chunk.dropWhile isQuote)).dropWhile isMark = _
  cases chunk with
  | nil => rfl
  | cons c rest =>
    by_cases quote : isQuote c = true
    · rw [opensQuoted, List.head?_cons, Option.any_some, quote, Bool.true_and, goesOn] at h
      have gone : (c :: rest).dropWhile isQuote = [] := by
        cases split : (c :: rest).dropWhile isQuote with
        | nil => rfl
        | cons d more =>
          have mem : d ∈ c :: rest :=
            (List.dropWhile_suffix isQuote).subset (by rw [split]; exact List.mem_cons_self)
          rw [split, List.head?_cons, Option.any_some, List.all_eq_true.mp all d mem] at h
          exact Bool.noConfusion h
      have none : dropEnd isQuote (c :: rest) = [] :=
        List.rdropWhile_eq_nil_iff.mpr (List.dropWhile_eq_nil_iff.mp gone)
      rw [gone, markedWord, none]
      rfl
    · rw [List.dropWhile_cons_of_neg quote, markedWord]

/-- Behind a mark the apostrophes in front of a word stay in it. -/
theorem length_bareWord_lt {chunk : List Char} (h : opensQuoted chunk = true) :
    (bareWord chunk).length < (markedWord chunk).length := by
  rw [opensQuoted, Bool.and_eq_true, goesOn] at h
  obtain ⟨opens, on⟩ := h
  have split : chunk.takeWhile isQuote ++ chunk.dropWhile isQuote = chunk :=
    List.takeWhile_append_dropWhile
  have kept : dropEnd isQuote (chunk.dropWhile isQuote) ≠ [] := by
    intro none
    cases tail : chunk.dropWhile isQuote with
    | nil => rw [tail] at on; exact Bool.noConfusion on
    | cons c rest =>
      have quote : isQuote c = true :=
        List.rdropWhile_eq_nil_iff.mp none c (by rw [tail]; exact List.mem_cons_self)
      have stop := List.head?_dropWhile_not isQuote chunk
      rw [tail, List.head?_cons] at stop
      exact absurd quote (by simp [stop])
  have whole : dropEnd isQuote chunk =
      chunk.takeWhile isQuote ++ dropEnd isQuote (chunk.dropWhile isQuote) := by
    rw [← dropEnd_append_of_ne_nil kept, split]
  cases chunk with
  | nil => exact Bool.noConfusion opens
  | cons c rest =>
    have quote : isQuote c = true := opens
    have unmarked : ¬isMark c = true := by
      rw [beq_iff_eq.mp quote]
      decide
    rw [List.takeWhile_cons_of_pos quote, List.cons_append] at whole
    rw [markedWord, whole, List.dropWhile_cons_of_neg unmarked, List.length_cons,
      List.length_append]
    have shorter : (bareWord (c :: rest)).length ≤
        (dropEnd isQuote ((c :: rest).dropWhile isQuote)).length :=
      (List.dropWhile_suffix isMark).length_le
    omega

/-! ### Terms with marks in front -/

/-- The words of a term, and of the term with marks in front, told apart by their first chunk. -/
theorem exists_words_marks_append {marks : String} (some : marks ≠ "")
    (h : marks.toList.all isMark = true) (term : String) :
    let chunk := (lower term.toList).takeWhile isChunkChar
    ∃ others, words term = textsOf (bareWord chunk :: others) ∧
      words (marks ++ term) = textsOf (markedWord chunk :: others) := by
  intro chunk
  obtain ⟨others, split⟩ := exists_chunksBy isChunkChar (lower term.toList)
  have chunkChars : marks.toList.all isChunkChar = true :=
    List.all_eq_true.mpr fun c hc => isChunkChar_of_isMark (List.all_eq_true.mp h c hc)
  have marked : chunksBy isChunkChar (marks.toList ++ lower term.toList) =
      (marks.toList ++ chunk) :: others := by
    rw [chunksBy_append chunkChars, split, List.modifyHead_cons]
  have someMark : marks.toList ≠ [] := mt String.toList_eq_nil_iff.mp some
  refine ⟨others.map bareWord, ?_, ?_⟩
  · rw [words_eq_textsOf, split, List.map_cons]
  · rw [words_eq_textsOf, String.toList_append, lower_marks_append h, marked, List.map_cons,
      bareWord_marks_append someMark h]

/-- **Marks in front of a term.**  A term matches the same texts with marks in front of it as
without, unless apostrophes stand in front of its first word: behind the marks they are part of the
word. -/
theorem contains_marked_iff {marks term : String} (h : marks.toList.all isMark = true) :
    (∀ text, MatchPolicy.word.contains text (marks ++ term) = MatchPolicy.word.contains text term) ↔
      marks = "" ∨ opensQuoted term.toList = false := by
  rw [contains_word_eq_iff]
  by_cases some : marks = ""
  · subst some
    simp
  obtain ⟨others, plain, marked⟩ := exists_words_marks_append some h term
  rw [or_iff_right some, plain, marked, ← opensQuoted_lower, ← opensQuoted_takeWhile]
  generalize chunkEq : (lower term.toList).takeWhile isChunkChar = chunk
  constructor
  · refine fun same => Bool.eq_false_iff.mpr fun opens => ?_
    have shorter := length_bareWord_lt opens
    have word : markedWord chunk ≠ [] := List.ne_nil_of_length_pos (by omega)
    rw [eq_of_textsOf_cons_eq word same] at shorter
    exact Nat.lt_irrefl _ shorter
  · intro opens
    have all : chunk.all isChunkChar = true := by rw [← chunkEq]; exact List.all_takeWhile
    rw [bareWord_of_not_opensQuoted all opens]

/-- The term has an apostrophe within its first word and one behind it. -/
theorem marked_plural_found :
    let marks := "@#"
    let term := "Can't' stop"
    marks.toList.all isMark = true ∧ opensQuoted term.toList = false ∧
      ∀ text, MatchPolicy.word.contains text (marks ++ term) =
        MatchPolicy.word.contains text term := by
  intro marks term
  have all : marks.toList.all isMark = true := by decide
  have opens : opensQuoted term.toList = false := by decide
  exact ⟨all, opens, (contains_marked_iff all).mpr (.inr opens)⟩

/-- Behind a mark the apostrophe in front of a word is looked for. -/
theorem marked_clipped_word_not_found :
    "#".toList.all isMark = true ∧ MatchPolicy.word.contains "'cause" "'cause" = true ∧
      MatchPolicy.word.contains "'cause" ("#" ++ "'cause") = false := by
  set_option maxRecDepth 4000 in decide

end KeywordQuery
