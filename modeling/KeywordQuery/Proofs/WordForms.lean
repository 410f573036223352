import Mathlib.Data.List.Infix
import KeywordQuery.Proofs.LowerForms
import KeywordQuery.Proofs.TermMarks

/-!
# Words in normal form

A word of a text is a chunk from which apostrophes were taken off at both ends and marks after that
at the start.  Nothing is taken off twice, so an apostrophe behind a mark stays at the start of the
word, and only then is the word not found when it is looked for as a term.

* `IsWordForm` — the strings that are words;
* `head?_bareWord`, `getLast?_bareWord` — what a bare word does not begin and end with;
* `words_chunk` — the words of a chunk in lower case;
* `isWordForm_of_mem_words`, `IsWordForm.mem_words_marked` — the words of texts are just these
  strings;
* `words_normal_form` — which of them are words of themselves, and are found in their texts.
-/

namespace KeywordQuery

open Text

/-- The normal form of words. -/
structure IsWordForm (word : String) : Prop where
  nonempty : word ≠ ""
  chars : ∀ c ∈ word.toList, isWordChar c = true ∨ c ∈ ['#', '@', '\'']
  unmarked : ∀ c ∈ word.toList.head?, c ≠ '#' ∧ c ≠ '@'
  unquoted : ∀ c ∈ word.toList.getLast?, c ≠ '\''
  lowered : lowerText word = word

theorem isChunkChar_iff {c : Char} :
    isChunkChar c = true ↔ isWordChar c = true ∨ c ∈ ['#', '@', '\''] := by
  simp [isChunkChar, or_assoc]

theorem not_isMark_iff {c : Char} : isMark c = false ↔ c ≠ '#' ∧ c ≠ '@' := by
  simp [isMark]

/-! ### The ends of a bare word -/

theorem bareWord_suffix (chunk : List Char) :
    bareWord chunk <:+ dropEnd isQuote (chunk.dropWhile isQuote) :=
  List.dropWhile_suffix isMark

theorem bareWord_subset (chunk : List Char) : bareWord chunk ⊆ chunk := by
  have start : bareWord chunk ⊆ dropEnd isQuote (chunk.dropWhile isQuote) :=
    (bareWord_suffix chunk).subset
  exact List.Subset.trans start (dropEnds_isInfix isQuote chunk).subset

theorem head?_bareWord {chunk : List Char} {c : Char} (h : (bareWord chunk).head? = some c) :
    isMark c = false := by
  have stop := List.head?_dropWhile_not isMark (dropEnd isQuote (chunk.dropWhile isQuote))
  have head : ((dropEnd isQuote (chunk.dropWhile isQuote)).dropWhile isMark).head? = some c := h
  rw [head] at stop
  exact stop

theorem getLast?_bareWord {chunk : List Char} {c : Char}
    (h : (bareWord chunk).getLast? = some c) : isQuote c = false := by
  obtain ⟨front, whole⟩ := bareWord_suffix chunk
  have last : (dropEnd isQuote (chunk.dropWhile isQuote)).getLast? = some c := by
    rw [← whole, List.getLast?_append, h]
    rfl
  have stop := List.head?_dropWhile_not isQuote (chunk.dropWhile isQuote).reverse
  rw [dropEnd, List.getLast?_reverse] at last
  rw [last] at stop
  exact stop

/-- Nothing is taken off a chunk without a mark or an apostrophe in front and an apostrophe
behind. -/
theorem bareWord_of_ends {chunk : List Char} (mark : ∀ c ∈ chunk.head?, isMark c = false)
    (front : ∀ c ∈ chunk.head?, isQuote c = false)
    (behind : ∀ c ∈ chunk.getLast?, isQuote c = false) : bareWord chunk = chunk := by
  show (dropEnds isQuote chunk).dropWhile isMark = chunk
  rw [dropEnds_eq_self front behind, dropWhile_eq_self mark]

/-- A chunk with an apostrophe in front loses it. -/
theorem length_bareWord_lt_of_quote {chunk : List Char} (h : chunk.head? = some '\'') :
    (bareWord chunk).length < chunk.length := by
  cases chunk with
  | nil => cases h
  | cons c chunk =>
    obtain rfl : c = '\'' := by simpa using h
    have front : ('\'' :: chunk).dropWhile isQuote = chunk.dropWhile isQuote :=
      List.dropWhile_cons_of_pos (by decide)
    have bare := (bareWord_suffix ('\'' :: chunk)).length_le
    have ends : (dropEnd isQuote (chunk.dropWhile isQuote)).length ≤
        (chunk.dropWhile isQuote).length :=
      (dropEnd_isPrefix isQuote _).length_le
    have rest : (chunk.dropWhile isQuote).length ≤ chunk.length :=
      (List.dropWhile_suffix isQuote).length_le
    rw [front] at bare
    rw [List.length_cons]
    omega

/-! ### The words of a chunk -/

/-- A chunk in lower case has its bare word, if that holds any character, as its only word. -/
theorem words_chunk {cs : List Char} (all : ∀ c ∈ cs, isChunkChar c = true)
    (lowered : lower cs = cs) : words (String.ofList cs) = textsOf [bareWord cs] := by
  have single := chunksBy_append (List.all_eq_true.mpr all) []
  rw [List.append_nil, chunksBy, List.modifyHead_cons, List.append_nil] at single
  rw [words_eq_textsOf, String.toList_ofList, lowered, single]
  rfl

theorem textsOf_singleton_eq_iff {chunk cs : List Char} (some : cs ≠ []) :
    textsOf [chunk] = [String.ofList cs] ↔ chunk = cs := by
  have own : textsOf [cs] = [String.ofList cs] := by
    rw [textsOf_cons_of_ne_nil some, textsOf_nil]
  rw [← own]
  constructor
  · intro same
    exact (eq_of_textsOf_cons_eq some same.symm).symm
  · rintro rfl
    rfl

/-! ### The words of texts -/

theorem mem_words_iff {text word : String} :
    word ∈ words text ↔
      word ≠ "" ∧ ∃ chunk ∈ chunksBy isChunkChar (lower text.toList),
        bareWord chunk = word.toList := by
  rw [words_eq_textsOf, textsOf, List.mem_map]
  constructor
  · rintro ⟨cs, mem, rfl⟩
    obtain ⟨mem, some⟩ := List.mem_filter.mp mem
    obtain ⟨chunk, hc, rfl⟩ := List.mem_map.mp mem
    refine ⟨?_, chunk, hc, String.toList_ofList.symm⟩
    intro none
    have none : bareWord chunk = [] := String.ofList_injective none
    rw [none] at some
    exact Bool.noConfusion some
  · rintro ⟨some, chunk, hc, eq⟩
    have kept : (!word.toList.isEmpty) = true := by
      rw [Bool.not_eq_true', List.isEmpty_eq_false_iff]
      exact mt String.toList_eq_nil_iff.mp some
    exact ⟨word.toList, List.mem_filter.mpr ⟨List.mem_map.mpr ⟨chunk, hc, eq⟩, kept⟩,
      String.ofList_toList⟩

/-- A word of a text is in normal form. -/
theorem isWordForm_of_mem_words {text word : String} (h : word ∈ words text) : IsWordForm word := by
  obtain ⟨some, chunk, mem, bare⟩ := mem_words_iff.mp h
  have inChunk : ∀ c ∈ word.toList, c ∈ lower text.toList ∧ isChunkChar c = true := by
    intro c hc
    rw [← bare] at hc
    exact mem_of_mem_chunksBy mem (bareWord_subset chunk hc)
  have lowered : lower word.toList = word.toList :=
    lower_eq_self_of_subset fun c hc => (inChunk c hc).1
  refine ⟨some, fun c hc => isChunkChar_iff.mp (inChunk c hc).2, fun c hc => ?_, fun c hc => ?_, ?_⟩
  · rw [← bare] at hc
    exact not_isMark_iff.mp (head?_bareWord hc)
  · rw [← bare] at hc
    exact beq_eq_false_iff_ne.mp (getLast?_bareWord hc)
  · rw [lowerText, lowered, String.ofList_toList]

namespace IsWordForm

variable {word : String} (h : IsWordForm word)
include h

theorem toList_ne_nil : word.toList ≠ [] := mt String.toList_eq_nil_iff.mp h.nonempty

theorem isChunkChar : ∀ c ∈ word.toList, KeywordQuery.isChunkChar c = true :=
  fun c hc => isChunkChar_iff.mpr (h.chars c hc)

theorem lower_eq : lower word.toList = word.toList := by
  have eq := congrArg String.toList h.lowered
  rwa [lowerText, String.toList_ofList] at eq

theorem not_isMark : ∀ c ∈ word.toList.head?, isMark c = false :=
  fun c hc => not_isMark_iff.mpr (h.unmarked c hc)

theorem not_isQuote : ∀ c ∈ word.toList.getLast?, isQuote c = false :=
  fun c hc => beq_eq_false_iff_ne.mpr (h.unquoted c hc)

theorem bareWord_eq_iff : bareWord word.toList = word.toList ↔ word.toList.head? ≠ some '\'' := by
  constructor
  · intro same quote
    have shorter := length_bareWord_lt_of_quote quote
    rw [same] at shorter
    exact Nat.lt_irrefl _ shorter
  · intro plain
    refine bareWord_of_ends h.not_isMark (fun c hc => ?_) h.not_isQuote
    rw [isQuote, beq_eq_false_iff_ne]
    rintro rfl
    exact plain hc

/-- A word in normal form is its own only word, unless it begins with an apostrophe. -/
theorem words_eq_singleton_iff : words word = [word] ↔ word.toList.head? ≠ some '\'' := by
  have own := words_chunk h.isChunkChar h.lower_eq
  have iff : textsOf [bareWord word.toList] = [String.ofList word.toList] ↔
      bareWord word.toList = word.toList := textsOf_singleton_eq_iff h.toList_ne_nil
  rw [String.ofList_toList] at own iff
  rw [own, iff, h.bareWord_eq_iff]

/-- Behind a mark every string in normal form is a word. -/
theorem mem_words_marked : word ∈ words ("#" ++ word) := by
  have marks : "#".toList.all isMark = true := by decide
  have chars : ("#" ++ word).toList = '#' :: word.toList := String.toList_append
  have low : lower ('#' :: word.toList) = '#' :: word.toList := by
    have append := lower_marks_append marks word.toList
    rwa [h.lower_eq] at append
  have all : ∀ c ∈ '#' :: word.toList, KeywordQuery.isChunkChar c = true :=
    List.forall_mem_cons.mpr ⟨isChunkChar_of_isMark (by decide), h.isChunkChar⟩
  have bare : bareWord ('#' :: word.toList) = word.toList := by
    have marked : bareWord ('#' :: word.toList) = markedWord word.toList :=
      bareWord_marks_append (by decide) marks word.toList
    rw [marked, markedWord, dropEnd_eq_self h.not_isQuote, dropWhile_eq_self h.not_isMark]
  have own := words_chunk all low
  rw [← chars, String.ofList_toList, chars, bare, textsOf_cons_of_ne_nil h.toList_ne_nil,
    String.ofList_toList] at own
  rw [own]
  exact List.mem_cons_self

end IsWordForm

/-- **Words in normal form.**  The words of texts are the strings in normal form.  A word is its own
only word exactly if it does not begin with an apostrophe, and then it is found in its text. -/
theorem words_normal_form (word : String) :
    (∀ text, word ∈ words text →
      IsWordForm word ∧
      (words word = [word] ↔ word.toList.head? ≠ some '\'') ∧
      (word.toList.head? ≠ some '\'' → MatchPolicy.word.contains text word = true)) ∧
    (IsWordForm word → ∃ text, word ∈ words text) := by
  refine ⟨fun text mem => ?_, fun form => ⟨"#" ++ word, form.mem_words_marked⟩⟩
  have form := isWordForm_of_mem_words mem
  refine ⟨form, form.words_eq_singleton_iff, fun plain => ?_⟩
  have own : words word = [word] := form.words_eq_singleton_iff.mpr plain
  rw [MatchPolicy.contains_word_iff, own]
  exact ⟨List.cons_ne_nil _ _, (List.singleton_infix_iff word _).mpr mem⟩

/-- The apostrophe within a word and its final sigma stay; an apostrophe behind a mark is not looked
for. -/
theorem clipped_word_not_own :
    let text := "#'ΝΑΙ' @Δ'ΟΔΟΣ'"
    "δ'οδος" ∈ words text ∧ words "δ'οδος" = ["δ'οδος"] ∧
      MatchPolicy.word.contains text "δ'οδος" = true ∧
      "'ναι" ∈ words text ∧ words "'ναι" ≠ ["'ναι"] := by
  intro text
  have all : words text = ["'ναι", "δ'οδος"] := by
    set_option maxRecDepth 4000 in decide
  have inner : "δ'οδος" ∈ words text := by
    rw [all]
    simp
  have clipped : "'ναι" ∈ words text := by
    rw [all]
    simp
  obtain ⟨-, own, found⟩ := (words_normal_form "δ'οδος").1 text inner
  obtain ⟨-, lost, -⟩ := (words_normal_form "'ναι").1 text clipped
  have plain : "δ'οδος".toList.head? ≠ some '\'' := by decide
  refine ⟨inner, own.mpr plain, found plain, clipped, fun same => ?_⟩
  exact lost.mp same (by decide)

end KeywordQuery
