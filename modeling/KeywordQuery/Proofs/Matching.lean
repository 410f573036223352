import KeywordQuery.Policy
import KeywordQuery.Proofs.Lowering

/-!
# Matching as the search for a block

Under both policies a term matches where its lower-case form is a contiguous block: of characters,
or of words.  The words of two texts with a blank between them are those of the first and then those
of the second, so what matches a text matches every text around it.

* `isBlockOf_iff_isInfix`, `isBlockOf_iff_window` — the search for a block;
* `contains_substring_iff`, `contains_word_iff` — the policies as statements about blocks;
* `chunksBy_eq_splitOnP`, `words_append_separator` — words on the two sides of a separator;
* `word_matching_composes` — word matching and blanks.
-/

namespace KeywordQuery

open Text

/-! ### Blocks -/

section Blocks

variable {α : Type} [BEq α] [LawfulBEq α] {needle list : List α}

theorem isBlockOf_iff_isInfix : isBlockOf needle list = true ↔ needle <:+: list := by
  induction list with
  | nil => rw [isBlockOf, List.isEmpty_iff, List.infix_nil]
  | cons x list ih =>
    rw [isBlockOf, Bool.or_eq_true, ih, List.isPrefixOf_iff_prefix, List.infix_cons_iff]

/-- A block is found by comparing with it every window of its length. -/
theorem isBlockOf_iff_window :
    isBlockOf needle list = true ↔
      ∃ i, i + needle.length ≤ list.length ∧ (list.drop i).take needle.length = needle := by
  rw [isBlockOf_iff_isInfix]
  constructor
  · rintro ⟨before, after, rfl⟩
    refine ⟨before.length, ?_, ?_⟩
    · simp only [List.length_append]
      omega
    · rw [List.append_assoc, List.drop_left, List.take_left]
  · rintro ⟨i, -, window⟩
    rw [← window]
    exact (List.take_prefix _ _).isInfix.trans (List.drop_suffix _ _).isInfix

end Blocks

theorem MatchPolicy.contains_substring_iff (text term : String) :
    MatchPolicy.substring.contains text term = true ↔ lower term.toList <:+: lower text.toList :=
  isBlockOf_iff_isInfix

theorem MatchPolicy.contains_word_iff (text term : String) :
    MatchPolicy.word.contains text term = true ↔ words term ≠ [] ∧ words term <:+: words text := by
  rw [contains, Bool.and_eq_true, Bool.not_eq_true', List.isEmpty_eq_false_iff,
    isBlockOf_iff_isInfix]

/-- Terms match the same texts exactly if they have the same words. -/
theorem contains_word_eq_iff (term other : String) :
    (∀ text, MatchPolicy.word.contains text term = MatchPolicy.word.contains text other) ↔
      words term = words other := by
  constructor
  · intro alike
    have self (s : String) : MatchPolicy.word.contains s s = true ↔ words s ≠ [] := by
      rw [MatchPolicy.contains_word_iff]
      exact and_iff_left List.infix_rfl
    by_cases none : words term = []
    · have unfound : ¬MatchPolicy.word.contains other other = true := by
        rw [← alike, MatchPolicy.contains_word_iff]
        exact fun found => found.1 none
      rw [none, Classical.not_not.mp (mt (self other).mpr unfound)]
    · have found := (self term).mpr none
      rw [alike, MatchPolicy.contains_word_iff] at found
      have found' := (self other).mpr found.1
      rw [← alike, MatchPolicy.contains_word_iff] at found'
      exact found'.2.eq_of_length (Nat.le_antisymm found'.2.length_le found.2.length_le)
  · intro same text
    rw [MatchPolicy.contains, MatchPolicy.contains, same]

/-! ### Chunks -/

theorem chunksBy_eq_splitOnP (p : Char → Bool) (cs : List Char) :
    chunksBy p cs = cs.splitOnP fun c => !p c := by
  induction cs with
  | nil => rfl
  | cons c cs ih =>
    obtain ⟨chunk, chunks, split⟩ :=
      List.exists_cons_of_ne_nil (List.splitOnP_ne_nil (fun c => !p c) cs)
    rw [chunksBy, ih, List.splitOnP_cons_eq_if_modifyHead, split]
    by_cases hc : p c = true <;> simp [hc]

theorem chunksBy_congr {p q : Char → Bool} {cs : List Char} (h : ∀ c ∈ cs, p c = q c) :
    chunksBy p cs = chunksBy q cs := by
  induction cs with
  | nil => rfl
  | cons c cs ih =>
    obtain ⟨first, later⟩ := List.forall_mem_cons.mp h
    rw [chunksBy, chunksBy, ih later, first]

section Chunks

variable {p : Char → Bool} {c : Char} {cs : List Char}

theorem chunksBy_cons_of_pos (h : p c = true) :
    chunksBy p (c :: cs) = (chunksBy p cs).modifyHead (c :: ·) := by
  rw [chunksBy_eq_splitOnP, chunksBy_eq_splitOnP, List.splitOnP_cons_eq_if_modifyHead,
    if_neg (by simp [h])]

theorem chunksBy_cons_of_neg (h : ¬p c = true) : chunksBy p (c :: cs) = [] :: chunksBy p cs := by
  rw [chunksBy_eq_splitOnP, chunksBy_eq_splitOnP, List.splitOnP_cons_eq_if_modifyHead,
    if_pos (by simp [h])]

/-- The first chunk of a text. -/
theorem exists_chunksBy (p : Char → Bool) (cs : List Char) :
    ∃ others, chunksBy p cs = cs.takeWhile p :: others := by
  induction cs with
  | nil => exact ⟨[], rfl⟩
  | cons c cs ih =>
    obtain ⟨others, split⟩ := ih
    by_cases hc : p c = true
    · exact ⟨others, by rw [chunksBy_cons_of_pos hc, split, List.takeWhile_cons_of_pos hc]; rfl⟩
    · exact ⟨_, by rw [chunksBy_cons_of_neg hc, List.takeWhile_cons_of_neg hc]⟩

/-- A chunk that begins in front of a text goes on with the first chunk of the text. -/
theorem chunksBy_append {xs : List Char} (h : xs.all p = true) (cs : List Char) :
    chunksBy p (xs ++ cs) = (chunksBy p cs).modifyHead (xs ++ ·) := by
  obtain ⟨others, split⟩ := exists_chunksBy p cs
  rw [split, List.modifyHead_cons]
  induction xs with
  | nil => exact split
  | cons x xs ih =>
    rw [List.all_cons, Bool.and_eq_true] at h
    rw [List.cons_append, chunksBy_cons_of_pos h.1, ih h.2]
    rfl

/-- A chunk has no characters but those of the text that are in the class. -/
theorem mem_of_mem_chunksBy {chunk : List Char} (h : chunk ∈ chunksBy p cs) (hc : c ∈ chunk) :
    c ∈ cs ∧ p c = true := by
  induction cs generalizing chunk with
  | nil =>
    obtain rfl := List.mem_singleton.mp h
    exact absurd hc List.not_mem_nil
  | cons d cs ih =>
    have later {chunk : List Char} (h : chunk ∈ chunksBy p cs) (hc : c ∈ chunk) :
        c ∈ d :: cs ∧ p c = true :=
      ⟨List.mem_cons_of_mem d (ih h hc).1, (ih h hc).2⟩
    by_cases hd : p d = true
    · obtain ⟨others, split⟩ := exists_chunksBy p cs
      rw [chunksBy_cons_of_pos hd, split, List.modifyHead_cons, List.mem_cons] at h
      rw [split] at later
      rcases h with rfl | h
      · rcases List.mem_cons.mp hc with rfl | hc
        · exact ⟨List.mem_cons_self, hd⟩
        · exact later List.mem_cons_self hc
      · exact later (List.mem_cons_of_mem _ h) hc
    · rw [chunksBy_cons_of_neg hd, List.mem_cons] at h
      rcases h with rfl | h
      · exact absurd hc List.not_mem_nil
      · exact later h hc

end Chunks

/-- The strings of those lists that hold any character. -/
def textsOf (chunks : List (List Char)) : List String :=
  (chunks.filter (!·.isEmpty)).map String.ofList

theorem words_eq_textsOf (text : String) :
    words text = textsOf ((chunksBy isChunkChar (lower text.toList)).map bareWord) :=
  rfl

theorem textsOf_nil : textsOf [] = [] :=
  rfl

theorem textsOf_cons_of_ne_nil {chunk : List Char} (h : chunk ≠ []) (chunks : List (List Char)) :
    textsOf (chunk :: chunks) = String.ofList chunk :: textsOf chunks := by
  obtain ⟨c, rest, rfl⟩ := List.exists_cons_of_ne_nil h
  rfl

/-- A list with a character in it can be read off the strings. -/
theorem eq_of_textsOf_cons_eq {chunk other : List Char} {chunks : List (List Char)} (h : chunk ≠ [])
    (same : textsOf (chunk :: chunks) = textsOf (other :: chunks)) : chunk = other := by
  rw [textsOf_cons_of_ne_nil h] at same
  cases other with
  | nil => exact absurd (congrArg List.length same) (Nat.succ_ne_self _)
  | cons c rest =>
    rw [textsOf_cons_of_ne_nil (List.cons_ne_nil c rest)] at same
    exact String.ofList_injective (List.cons.inj same).1

theorem wordsOfLower_append_separator {c : Char} (h : isChunkChar c = false) (xs ys : List Char) :
    wordsOfLower (xs ++ c :: ys) = wordsOfLower xs ++ wordsOfLower ys := by
  simp only [wordsOfLower, chunksBy_eq_splitOnP]
  rw [List.splitOnP_append_cons xs ys (by simp [h]), List.map_append, List.filter_append]

/-! ### Words on two sides of a separator -/

/-- A character that is no part of a chunk and that a sigma does not see across divides the words of
a text. -/
theorem words_append_separator {c : Char} (chunk : isChunkChar c = false)
    (uncased : isCased c = false) (stops : isCaseIgnorable c = false) (a b : String) :
    words (a ++ String.singleton c ++ b) = words a ++ words b := by
  have chars : (a ++ String.singleton c ++ b).toList = a.toList ++ c :: b.toList := by simp
  rw [words, chars, lower_append_cons uncased stops, wordsOfLower_append_separator chunk,
    List.map_append]
  rfl

/-- Blanks are no word characters, have no case, and are not passed over by a sigma. -/
theorem disjoint_blankTable :
    [wordTable, casedTable, caseIgnorableTable].all blankTable.disjoint = true := by
  set_option maxRecDepth 4000 in decide

theorem not_covers_of_isBlank {c : Char} (h : isBlank c = true) {table : RangeTable}
    (mem : table ∈ [wordTable, casedTable, caseIgnorableTable]) : table.covers c.toNat = false :=
  RangeTable.not_covers_of_disjoint (List.all_eq_true.mp disjoint_blankTable table mem) h

theorem isChunkChar_of_isBlank {c : Char} (h : isBlank c = true) : isChunkChar c = false := by
  have word : isWordChar c = false := by
    rw [isWordChar_eq_covers]
    exact not_covers_of_isBlank h (by simp)
  have other : ∀ d : Char, isBlank d = false → c ≠ d := by
    rintro _ hd rfl
    exact absurd h (by simp [hd])
  simp [isChunkChar, word, other '#' (by decide), other '@' (by decide), other '\'' (by decide)]

theorem words_append_blank {c : Char} (h : isBlank c = true) (a b : String) :
    words (a ++ String.singleton c ++ b) = words a ++ words b :=
  words_append_separator (isChunkChar_of_isBlank h) (not_covers_of_isBlank h (by simp))
    (not_covers_of_isBlank h (by simp)) a b

/-- **Word matching composes over blanks.**  A blank divides the words of a text, and a term matches
where its words, of which there must be one, are a contiguous block of those of the text.  So a term
with words matches where it stands between blanks, and what matches a piece between blanks matches
the whole. -/
theorem word_matching_composes {c d : Char} (hc : isBlank c = true) (hd : isBlank d = true) :
    (∀ a b : String, words (a ++ String.singleton c ++ b) = words a ++ words b) ∧
    (∀ text term : String, MatchPolicy.word.contains text term = true ↔
      words term ≠ [] ∧ words term <:+: words text) ∧
    (∀ a t b : String, words t ≠ [] → MatchPolicy.word.contains
      (a ++ String.singleton c ++ t ++ String.singleton d ++ b) t = true) ∧
    (∀ a t b u : String, MatchPolicy.word.contains t u = true → MatchPolicy.word.contains
      (a ++ String.singleton c ++ t ++ String.singleton d ++ b) u = true) := by
  have between (a t b : String) :
      words t <:+: words (a ++ String.singleton c ++ t ++ String.singleton d ++ b) := by
    rw [words_append_blank hd, words_append_blank hc]
    exact List.infix_append _ _ _
  refine ⟨words_append_blank hc, MatchPolicy.contains_word_iff, fun a t b some => ?_,
    fun a t b u found => ?_⟩
  · exact (MatchPolicy.contains_word_iff _ _).mpr ⟨some, between a t b⟩
  · obtain ⟨some, block⟩ := (MatchPolicy.contains_word_iff t u).mp found
    exact (MatchPolicy.contains_word_iff _ _).mpr ⟨some, block.trans (between a t b)⟩

/-- The sigma at the end of the first text keeps its final form, and the hyphen divides the term. -/
theorem divided_term_between_blanks :
    let text := "ΟΔΟΣ" ++ String.singleton ' ' ++ "e-mail" ++ String.singleton '\u3000' ++ "'now'"
    isBlank ' ' = true ∧ isBlank '\u3000' = true ∧ words "e-mail" ≠ [] ∧
      words ("ΟΔΟΣ" ++ String.singleton ' ' ++ "'now'") = words "ΟΔΟΣ" ++ words "'now'" ∧
      MatchPolicy.word.contains text "e-mail" = true := by
  intro text
  have some : words "e-mail" ≠ [] := by set_option maxRecDepth 4000 in decide
  obtain ⟨divides, -, found, -⟩ :=
    word_matching_composes (c := ' ') (d := '\u3000') (by decide) (by decide)
  exact ⟨by decide, by decide, some, divides "ΟΔΟΣ" "'now'", found "ΟΔΟΣ" "e-mail" "'now'" some⟩

end KeywordQuery
