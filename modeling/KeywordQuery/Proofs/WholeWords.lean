import KeywordQuery.Proofs.Ends
import KeywordQuery.Proofs.Matching

/-!
# Whole words

A text of word characters is one word, and the word policy compares it as a whole, with one
exception.  A text is lower-cased before it is divided into words, and the capital `İ` becomes `i`
with a combining dot, which is no word character: it divides the word in which it stands.

* `dotPieces` — the pieces between the dots;
* `words_eq_dotPieces` — they are the words of a text of word characters;
* `words_eq_singleton` — without an `İ` there is one;
* `contains_word_of_word_chars` — word matching between texts of word characters.
-/

namespace KeywordQuery

open Text

/-- The pieces into which combining dots divide the lower-case form of a text. -/
def dotPieces (text : String) : List String :=
  textsOf (chunksBy (· != '\u0307') (lower text.toList))

/-! ### Word characters in lower case -/

/-- The combining dot, the apostrophe and the marks are no word characters. -/
theorem not_isWordChar_of_mem {c : Char} (h : c ∈ ['\u0307', '\'', '#', '@']) :
    isWordChar c = false := by
  simp only [List.mem_cons, List.not_mem_nil, or_false] at h
  rcases h with rfl | rfl | rfl | rfl <;> set_option maxRecDepth 4000 in decide

/-- In lower case a text of word characters has these and the dots of `İ`. -/
theorem isWordChar_or_dot_of_mem_lower {cs : List Char} (word : cs.all isWordChar = true) {d : Char}
    (h : d ∈ lower cs) : isWordChar d = true ∨ (d = '\u0307' ∧ 'İ' ∈ cs) := by
  rw [lower_eq_lowerPart] at h
  rcases exists_of_mem_lowerPart h with dot | ⟨c, mem, alike⟩
  · exact .inr dot
  · exact .inl (alike.isWordChar_eq.trans (List.all_eq_true.mp word c mem))

theorem isChunkChar_of_isWordChar {c : Char} (h : isWordChar c = true) : isChunkChar c = true := by
  rw [isChunkChar, h]
  rfl

theorem isChunkChar_of_mem_lower {cs : List Char} (word : cs.all isWordChar = true) {d : Char}
    (h : d ∈ lower cs) : isChunkChar d = (d != '\u0307') := by
  rcases isWordChar_or_dot_of_mem_lower word h with char | ⟨rfl, -⟩
  · have other : d ≠ '\u0307' := by
      rintro rfl
      rw [not_isWordChar_of_mem (by simp)] at char
      exact Bool.noConfusion char
    rw [isChunkChar_of_isWordChar char, bne_iff_ne.mpr other]
  · rw [isChunkChar, not_isWordChar_of_mem (by simp)]
    decide

/-! ### Words of word characters -/

/-- A chunk of word characters has nothing at its ends to be taken off. -/
theorem bareWord_eq_self {chunk : List Char} (h : ∀ c ∈ chunk, isWordChar c = true) :
    bareWord chunk = chunk := by
  have apart {d : Char} (hd : d ∈ ['\u0307', '\'', '#', '@']) : ∀ c ∈ chunk, (c == d) = false := by
    intro c hc
    rw [beq_eq_false_iff_ne]
    rintro rfl
    have word := h c hc
    rw [not_isWordChar_of_mem hd] at word
    exact Bool.noConfusion word
  have quote : ∀ c ∈ chunk, (c == '\'') = false := apart (by simp)
  have mark : ∀ c ∈ chunk, isMark c = false := fun c hc => by
    have plain : (c == '#') = false ∧ (c == '@') = false :=
      ⟨apart (by simp) c hc, apart (by simp) c hc⟩
    rw [isMark, plain.1, plain.2, Bool.or_false]
  rw [bareWord, dropEnds_eq_self (fun c hc => quote c (List.mem_of_head? hc))
    (fun c hc => quote c (List.mem_of_getLast? hc)),
    dropWhile_eq_self fun c hc => mark c (List.mem_of_head? hc)]

theorem words_eq_dotPieces {text : String} (h : text.toList.all isWordChar = true) :
    words text = dotPieces text := by
  have chunks := chunksBy_congr fun d hd => isChunkChar_of_mem_lower h hd
  have bare : (chunksBy isChunkChar (lower text.toList)).map bareWord =
      chunksBy isChunkChar (lower text.toList) := by
    refine (List.map_congr_left fun chunk hc => bareWord_eq_self fun c mem => ?_).trans
      (List.map_id _)
    obtain ⟨inText, inChunk⟩ := mem_of_mem_chunksBy hc mem
    rcases isWordChar_or_dot_of_mem_lower h inText with char | ⟨rfl, -⟩
    · exact char
    · rw [isChunkChar_of_mem_lower h inText] at inChunk
      exact absurd inChunk (by decide)
  rw [words_eq_textsOf, bare, chunks, dotPieces]

theorem exists_lower_of_ne {text : String} (some : text ≠ "")
    (h : text.toList.all isWordChar = true) :
    ∃ form rest, lower text.toList = form :: rest ∧ isWordChar form = true := by
  obtain ⟨c, cs, split⟩ := List.exists_cons_of_ne_nil (mt String.toList_eq_nil_iff.mp some)
  obtain ⟨form, rest, eq, alike⟩ := exists_lower_cons c cs
  rw [split, List.all_cons, Bool.and_eq_true] at h
  exact ⟨form, rest, split ▸ eq, alike.isWordChar_eq.trans h.1⟩

theorem dotPieces_ne_nil {text : String} (some : text ≠ "")
    (h : text.toList.all isWordChar = true) : dotPieces text ≠ [] := by
  obtain ⟨form, rest, eq, word⟩ := exists_lower_of_ne some h
  have other : (form != '\u0307') = true := by
    rw [← isChunkChar_of_mem_lower h (by rw [eq]; exact List.mem_cons_self)]
    exact isChunkChar_of_isWordChar word
  obtain ⟨others, split⟩ := exists_chunksBy (· != '\u0307') (form :: rest)
  have first : (form :: rest).takeWhile (· != '\u0307') = form :: rest.takeWhile (· != '\u0307') :=
    List.takeWhile_cons_of_pos other
  rw [dotPieces, eq, split, first, textsOf_cons_of_ne_nil (List.cons_ne_nil _ _)]
  exact List.cons_ne_nil _ _

theorem words_eq_singleton {text : String} (some : text ≠ "")
    (h : text.toList.all isWordChar = true) (dotless : 'İ' ∉ text.toList) :
    words text = [lowerText text] := by
  have plain : (lower text.toList).all (· != '\u0307') = true := by
    refine List.all_eq_true.mpr fun d hd => ?_
    rw [← isChunkChar_of_mem_lower h hd]
    rcases isWordChar_or_dot_of_mem_lower h hd with char | ⟨-, mem⟩
    · exact isChunkChar_of_isWordChar char
    · exact absurd mem dotless
  have single := chunksBy_append plain []
  obtain ⟨form, rest, eq, -⟩ := exists_lower_of_ne some h
  rw [List.append_nil, chunksBy, List.modifyHead_cons, List.append_nil] at single
  rw [words_eq_dotPieces h, dotPieces, single, lowerText, eq,
    textsOf_cons_of_ne_nil (List.cons_ne_nil _ _), textsOf_nil]

/-! ### Word matching between words -/

/-- **Word matching between texts of word characters.**  A term matches where its pieces are a block
of those of the text.  So a text of the same lower-case form matches, and no other one unless an `İ`
divides the text or the term. -/
theorem contains_word_of_word_chars {text term : String}
    (someText : text ≠ "") (textWord : text.toList.all isWordChar = true)
    (someTerm : term ≠ "") (termWord : term.toList.all isWordChar = true) :
    (MatchPolicy.word.contains text term = true ↔ dotPieces term <:+: dotPieces text) ∧
    (lowerText text = lowerText term → MatchPolicy.word.contains text term = true) ∧
    ('İ' ∉ text.toList → 'İ' ∉ term.toList →
      (MatchPolicy.word.contains text term = true ↔ lowerText text = lowerText term)) := by
  have pieces : MatchPolicy.word.contains text term = true ↔
      dotPieces term <:+: dotPieces text := by
    rw [MatchPolicy.contains_word_iff, words_eq_dotPieces textWord, words_eq_dotPieces termWord]
    exact and_iff_right (dotPieces_ne_nil someTerm termWord)
  have same (alike : lowerText text = lowerText term) :
      MatchPolicy.word.contains text term = true := by
    have lowered : lower text.toList = lower term.toList := String.ofList_injective alike
    have divided : dotPieces text = dotPieces term := by rw [dotPieces, dotPieces, lowered]
    exact pieces.mpr (divided ▸ List.infix_rfl)
  refine ⟨pieces, same, fun textDotless termDotless => ⟨fun found => ?_, same⟩⟩
  obtain ⟨-, block⟩ := (MatchPolicy.contains_word_iff text term).mp found
  rw [words_eq_singleton someText textWord textDotless,
    words_eq_singleton someTerm termWord termDotless] at block
  exact (List.singleton_inj.mp (block.eq_of_length rfl)).symm

/-- The capital sigma of the text becomes the final sigma that the term has. -/
theorem capital_word_found :
    let text := "ΟΔΌΣ_2"
    let term := "Οδός_2"
    text ≠ "" ∧ text.toList.all isWordChar = true ∧ term ≠ "" ∧ term.toList.all isWordChar = true ∧
      'İ' ∉ text.toList ∧ 'İ' ∉ term.toList ∧ MatchPolicy.word.contains text term = true := by
  intro text term
  obtain ⟨textWord, termWord, same⟩ : text.toList.all isWordChar = true ∧
      term.toList.all isWordChar = true ∧ lower text.toList = lower term.toList := by
    set_option maxRecDepth 4000 in decide
  obtain ⟨-, found, -⟩ :=
    @contains_word_of_word_chars text term (by decide) textWord (by decide) termWord
  have alike : lowerText text = lowerText term := congrArg String.ofList same
  exact ⟨by decide, textWord, by decide, termWord, by decide, by decide, found alike⟩

/-- A word that holds an `İ` is found by what follows the `İ`. -/
theorem part_of_dotted_word_found :
    let text := "İstanbul"
    let term := "stanbul"
    text ≠ "" ∧ text.toList.all isWordChar = true ∧ term ≠ "" ∧ term.toList.all isWordChar = true ∧
      MatchPolicy.word.contains text term = true ∧ lowerText text ≠ lowerText term := by
  set_option maxRecDepth 4000 in decide

end KeywordQuery
