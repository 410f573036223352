import Mathlib.Logic.Function.Iterate
import KeywordQuery.Proofs.Scanning

/-!
# Tokens partition their text

The tokens of a text are the only way to cut it up: parentheses alone, words as long as they can
be, and nothing but blanks between them.  Scanning from token to token runs through them in order
and stays at the end of the text.

* `Partitions` — a list of tokens with their places cuts up a text;
* `Partitions.exists_cons`, `Partitions.text_eq`, `Partitions.tail`, `Partitions.cons` — the first
  token of a partition, what it can be, and partitions without it and with it;
* `partitions_iff` — the tokens found by scanning are the only partition;
* `Cursor.iterate_advance` — the place after a number of advances;
* `scanning_partitions` — the run of a cursor, with reads between its advances.
-/

namespace KeywordQuery

open Text (isBlank)

/-! ### Partitions -/

/-- A single parenthesis, or a run of characters that are neither blank nor parentheses. -/
def IsTokenText (text : String) : Prop := text = "(" ∨ text = ")" ∨ IsUnbroken text

/-- The position after the last character of a token. -/
def Lexeme.stop (lexeme : Lexeme) : Nat := lexeme.start + lexeme.text.length

/-- The tokens cut up the characters, the first of which has position `pos`. -/
structure Partitions (pos : Nat) (cs : List Char) (found : List Lexeme) : Prop where
  /-- Every token is what stands in the text at its place. -/
  spelled : ∀ l ∈ found, pos ≤ l.start ∧
    l.text.toList = (cs.drop (l.start - pos)).take l.text.length
  shaped : ∀ l ∈ found, IsTokenText l.text
  /-- The tokens do not overlap, and they are listed from left to right. -/
  ordered : found.Pairwise fun l l' => l.stop ≤ l'.start
  /-- What lies outside the tokens is blank. -/
  covered : ∀ i c, cs[i]? = some c → isBlank c = false →
    ∃ l ∈ found, l.start ≤ pos + i ∧ pos + i < l.stop
  /-- No word ends where another one starts. -/
  apart : ∀ l ∈ found, ∀ l' ∈ found, IsUnbroken l.text → IsUnbroken l'.text → l.stop ≠ l'.start

theorem IsTokenText.length_pos {text : String} (h : IsTokenText text) : 0 < text.length := by
  rcases h with rfl | rfl | h
  · decide
  · decide
  · exact Nat.pos_of_ne_zero fun zero => h.ne_empty (String.length_eq_zero_iff.mp zero)

theorem IsTokenText.not_blank {text : String} (h : IsTokenText text) {c : Char}
    (hc : c ∈ text.toList) : isBlank c = false := by
  rcases h with rfl | rfl | h
  · obtain rfl : c = '(' := by simpa using hc
    decide
  · obtain rfl : c = ')' := by simpa using hc
    decide
  · exact h.not_blank c hc

theorem IsTokenText.isUnbroken {text : String} (h : IsTokenText text) {c : Char}
    (hc : c ∈ text.toList) (part : isWordPart c = true) : IsUnbroken text := by
  rcases h with rfl | rfl | h
  · obtain rfl : c = '(' := by simpa using hc
    exact absurd part (by decide)
  · obtain rfl : c = ')' := by simpa using hc
    exact absurd part (by decide)
  · exact h

theorem IsTokenText.eq_of_paren {text : String} (h : IsTokenText text) {c : Char}
    (hc : c ∈ text.toList) (paren : isParen c = true) : text = String.singleton c := by
  rcases h with rfl | rfl | h
  · obtain rfl : c = '(' := by simpa using hc
    rfl
  · obtain rfl : c = ')' := by simpa using hc
    rfl
  · exact absurd paren (by simp [h.not_paren c hc])

/-- What stands behind a token, at a position after it. -/
theorem drop_text_append {pos start : Nat} {text : String} {rest : List Char}
    (h : pos + text.length ≤ start) :
    (text.toList ++ rest).drop (start - pos) = rest.drop (start - (pos + text.length)) := by
  rw [List.drop_append, List.drop_eq_nil_of_le (by rw [String.length_toList]; omega),
    String.length_toList, List.nil_append, Nat.sub_add_eq]

namespace Partitions

variable {pos : Nat} {cs rest : List Char} {found later : List Lexeme} {l : Lexeme} {text : String}

/-- A character of a token stands in the text at its place. -/
theorem getElem?_text (h : Partitions pos cs found) (hl : l ∈ found) {k : Nat}
    (hk : k < l.text.length) : l.text.toList[k]? = cs[l.start - pos + k]? := by
  rw [(h.spelled l hl).2, List.getElem?_take_of_lt hk, List.getElem?_drop]

/-- The first character of a token is the one at its place. -/
theorem mem_text_of_start (h : Partitions pos cs found) (hl : l ∈ found) {i : Nat} {c : Char}
    (start : l.start = pos + i) (hc : cs[i]? = some c) : c ∈ l.text.toList := by
  have first := h.getElem?_text hl (h.shaped l hl).length_pos
  rw [start, Nat.add_sub_cancel_left, Nat.add_zero, hc] at first
  exact List.mem_of_getElem? first

/-- A text that starts with no blank starts with a token, which is the first one. -/
theorem exists_cons (h : Partitions pos cs found) {c : Char} (hc : cs.head? = some c)
    (notBlank : isBlank c = false) : ∃ l later, found = l :: later ∧ l.start = pos := by
  obtain ⟨l, hl, before, after⟩ := h.covered 0 c (by rwa [← List.head?_eq_getElem?]) notBlank
  have start : l.start = pos := Nat.le_antisymm before (h.spelled l hl).1
  match found, hl with
  | first :: later, hl =>
    rcases List.mem_cons.mp hl with rfl | hl
    · exact ⟨l, later, rfl, start⟩
    · have earlier := (List.pairwise_cons.mp h.ordered).1 l hl
      have lower := (h.spelled first (by simp)).1
      have positive := (h.shaped first (by simp)).length_pos
      rw [Lexeme.stop] at earlier
      omega

/-- A token at the start of the text starts with its first character. -/
theorem exists_head (h : Partitions pos cs found) (hl : l ∈ found) (start : l.start = pos) :
    ∃ c ∈ cs.head?, c ∈ l.text.toList := by
  have positive := (h.shaped l hl).length_pos
  have first := h.getElem?_text hl positive
  rw [start, Nat.sub_self, Nat.add_zero, List.getElem?_eq_getElem (by rwa [String.length_toList]),
    ← List.head?_eq_getElem?] at first
  exact ⟨_, first.symm, List.getElem_mem _⟩

/-- A word that a partition starts with does not stop short: its next character would be the start
of another word. -/
theorem not_length_lt (h : Partitions pos (text.toList ++ rest) (l :: later))
    (start : l.start = pos) (unbroken : IsUnbroken text) (unbroken' : IsUnbroken l.text) :
    ¬l.text.length < text.length := by
  intro shorter
  have inside : l.text.length < text.toList.length := by rwa [String.length_toList]
  have next : (text.toList ++ rest)[l.text.length]? = some text.toList[l.text.length] := by
    rw [List.getElem?_append_left inside, List.getElem?_eq_getElem]
  have part := unbroken.isWordPart (List.getElem_mem inside)
  obtain ⟨l', hl', before, after⟩ := h.covered _ _ next (isWordPart_iff.mp part).1
  rcases List.mem_cons.mp hl' with rfl | hl'
  · rw [Lexeme.stop, start] at after
    omega
  · have follows : l.stop ≤ l'.start := (List.pairwise_cons.mp h.ordered).1 l' hl'
    have adjacent : l'.start = pos + l.text.length := by
      rw [Lexeme.stop, start] at follows
      omega
    have hl'' := List.mem_cons_of_mem l hl'
    have mem := h.mem_text_of_start hl'' adjacent next
    have stops : l.stop = l'.start := by rw [Lexeme.stop, start, adjacent]
    exact h.apart l (by simp) l' hl'' unbroken' ((h.shaped l' hl'').isUnbroken mem part) stops

/-- Nor does it go on after the characters of the word. -/
theorem not_lt_length (h : Partitions pos (text.toList ++ rest) (l :: later))
    (start : l.start = pos) (ends : ∀ next ∈ rest.head?, isWordPart next = false)
    (unbroken' : IsUnbroken l.text) : ¬text.length < l.text.length := by
  intro longer
  have inside : text.length < l.text.toList.length := by rwa [String.length_toList]
  have next : rest.head? = some l.text.toList[text.length] := by
    have crossing := h.getElem?_text (l := l) (by simp) longer
    rw [start, Nat.sub_self, Nat.zero_add, ← String.length_toList,
      List.getElem?_append_right (Nat.le_refl _), Nat.sub_self, String.length_toList,
      List.getElem?_eq_getElem inside] at crossing
    rw [List.head?_eq_getElem?, ← crossing]
  have part := unbroken'.isWordPart (List.getElem_mem inside)
  simp [ends _ next] at part

/-- The first token is the longest that the text allows: a parenthesis, or a word that goes on for
as long as there are characters of words. -/
theorem text_eq (h : Partitions pos (text.toList ++ rest) (l :: later)) (start : l.start = pos)
    (isToken : IsTokenText text)
    (ends : IsUnbroken text → ∀ next ∈ rest.head?, isWordPart next = false) : l.text = text := by
  have shaped : IsTokenText l.text := h.shaped l (by simp)
  obtain ⟨c, others, hcs⟩ : ∃ c others, text.toList = c :: others :=
    List.exists_cons_of_length_pos (by rw [String.length_toList]; exact isToken.length_pos)
  have memText : c ∈ text.toList := by simp [hcs]
  have mem : c ∈ l.text.toList := h.mem_text_of_start (i := 0) (by simp) start (by simp [hcs])
  rcases char_cases c with blank | paren | part
  · simp [isToken.not_blank memText] at blank
  · rw [shaped.eq_of_paren mem paren, isToken.eq_of_paren memText paren]
  · have unbroken := isToken.isUnbroken memText part
    have unbroken' := shaped.isUnbroken mem part
    have same : l.text.length = text.length := Nat.le_antisymm
      (Nat.le_of_not_lt (h.not_lt_length start (ends unbroken) unbroken'))
      (Nat.le_of_not_lt (h.not_length_lt start unbroken unbroken'))
    have spelled := (h.spelled l (by simp)).2
    rw [start, Nat.sub_self, List.drop_zero, same, ← String.length_toList, List.take_left]
      at spelled
    exact String.toList_injective spelled

/-- A partition without its first token cuts up what follows that token. -/
theorem tail (h : Partitions pos (text.toList ++ rest) (⟨text, pos⟩ :: later)) :
    Partitions (pos + text.length) rest later := by
  have follow : ∀ l ∈ later, pos + text.length ≤ l.start := (List.pairwise_cons.mp h.ordered).1
  refine ⟨fun l hl => ⟨follow l hl, ?_⟩, fun l hl => h.shaped l (List.mem_cons_of_mem _ hl),
    (List.pairwise_cons.mp h.ordered).2, ?_, ?_⟩
  · have spelled := (h.spelled l (List.mem_cons_of_mem _ hl)).2
    rwa [drop_text_append (follow l hl)] at spelled
  · intro i c hc notBlank
    have whole : (text.toList ++ rest)[text.length + i]? = some c := by
      rw [← String.length_toList, List.getElem?_append_right (Nat.le_add_right _ _),
        Nat.add_sub_cancel_left]
      exact hc
    obtain ⟨l, hl, before, after⟩ := h.covered _ c whole notBlank
    rcases List.mem_cons.mp hl with rfl | hl
    · simp only [Lexeme.stop] at after
      omega
    · exact ⟨l, hl, by omega, by omega⟩
  · intro l hl l' hl'
    exact h.apart l (List.mem_cons_of_mem _ hl) l' (List.mem_cons_of_mem _ hl')

/-- A token in front of what a partition cuts up extends the partition, as long as no word goes on
after it. -/
theorem cons (h : Partitions (pos + text.length) rest later) (isToken : IsTokenText text)
    (ends : IsUnbroken text → ∀ next ∈ rest.head?, isWordPart next = false) :
    Partitions pos (text.toList ++ rest) (⟨text, pos⟩ :: later) := by
  have shaped : ∀ l ∈ (⟨text, pos⟩ : Lexeme) :: later, IsTokenText l.text :=
    List.forall_mem_cons.mpr ⟨isToken, h.shaped⟩
  refine ⟨List.forall_mem_cons.mpr ⟨⟨Nat.le_refl _, ?_⟩, fun l hl => ?_⟩, shaped,
    List.pairwise_cons.mpr ⟨fun l hl => (h.spelled l hl).1, h.ordered⟩, ?_, ?_⟩
  · rw [Nat.sub_self, List.drop_zero, ← String.length_toList, List.take_left]
  · obtain ⟨start, spelled⟩ := h.spelled l hl
    rw [drop_text_append start]
    exact ⟨by omega, spelled⟩
  · intro i c hc notBlank
    by_cases inside : i < text.length
    · exact ⟨⟨text, pos⟩, by simp, Nat.le_add_right _ _, Nat.add_lt_add_left inside pos⟩
    · rw [List.getElem?_append_right (by rw [String.length_toList]; omega),
        String.length_toList] at hc
      obtain ⟨l, hl, before, after⟩ := h.covered _ c hc notBlank
      exact ⟨l, List.mem_cons_of_mem _ hl, by omega, by omega⟩
  · intro l hl l' hl' unbroken unbroken' adjacent
    rcases List.mem_cons.mp hl' with rfl | hl'
    · -- No token ends where the first one starts.
      have lower : pos ≤ l.start := by
        rcases List.mem_cons.mp hl with rfl | hl
        · exact Nat.le_refl _
        · exact Nat.le_trans (Nat.le_add_right _ _) (h.spelled l hl).1
      have positive := (shaped l hl).length_pos
      simp only [Lexeme.stop] at adjacent
      omega
    · rcases List.mem_cons.mp hl with rfl | hl
      · obtain ⟨c, hc, mem⟩ := h.exists_head hl' adjacent.symm
        have part := unbroken'.isWordPart mem
        simp [ends unbroken c hc] at part
      · exact h.apart l hl l' hl' unbroken unbroken' adjacent

/-- Nothing lies in an empty text. -/
theorem nil_iff : Partitions pos [] found ↔ found = [] := by
  constructor
  · intro h
    refine List.eq_nil_iff_forall_not_mem.mpr fun l hl => ?_
    have nothing := (h.spelled l hl).2
    rw [List.drop_nil, List.take_nil, String.toList_eq_nil_iff] at nothing
    have positive := (h.shaped l hl).length_pos
    rw [nothing] at positive
    exact absurd positive (by decide)
  · rintro rfl
    exact ⟨by simp, by simp, .nil, by simp, by simp⟩

/-- A blank at the start belongs to no token. -/
theorem blank_iff {c : Char} (blank : isBlank c = true) :
    Partitions pos (c :: rest) found ↔ Partitions (pos + 1) rest found := by
  have shift (start : Nat) (h : pos + 1 ≤ start) :
      (c :: rest).drop (start - pos) = rest.drop (start - (pos + 1)) := by
    rw [show start - pos = start - (pos + 1) + 1 by omega, List.drop_succ_cons]
  constructor
  · intro h
    have follow : ∀ l ∈ found, pos + 1 ≤ l.start := by
      intro l hl
      refine Nat.lt_of_le_of_ne (h.spelled l hl).1 fun start => ?_
      have mem := h.mem_text_of_start (i := 0) (c := c) hl start.symm rfl
      simp [(h.shaped l hl).not_blank mem] at blank
    refine ⟨fun l hl => ⟨follow l hl, ?_⟩, h.shaped, h.ordered, fun i d hd notBlank => ?_, h.apart⟩
    · rw [← shift _ (follow l hl)]
      exact (h.spelled l hl).2
    · obtain ⟨l, hl, before, after⟩ := h.covered (i + 1) d hd notBlank
      exact ⟨l, hl, by omega, by omega⟩
  · intro h
    refine ⟨fun l hl => ?_, h.shaped, h.ordered, fun i d hd notBlank => ?_, h.apart⟩
    · obtain ⟨start, spelled⟩ := h.spelled l hl
      rw [shift _ start]
      exact ⟨by omega, spelled⟩
    · cases i with
      | zero =>
        obtain rfl : c = d := by simpa using hd
        simp [notBlank] at blank
      | succ i =>
        obtain ⟨l, hl, before, after⟩ := h.covered i d hd notBlank
        exact ⟨l, hl, by omega, by omega⟩

/-- A token at the start, if no word goes on after it, is the first token of every partition. -/
theorem token_iff (isToken : IsTokenText text)
    (ends : IsUnbroken text → ∀ next ∈ rest.head?, isWordPart next = false) :
    Partitions pos (text.toList ++ rest) found ↔
      ∃ later, found = ⟨text, pos⟩ :: later ∧ Partitions (pos + text.length) rest later := by
  constructor
  · intro h
    obtain ⟨c, others, hcs⟩ : ∃ c others, text.toList = c :: others :=
      List.exists_cons_of_length_pos (by rw [String.length_toList]; exact isToken.length_pos)
    obtain ⟨l, later, rfl, start⟩ := h.exists_cons (c := c) (by simp [hcs])
      (isToken.not_blank (by simp [hcs]))
    have same : l = ⟨text, pos⟩ := by rw [← h.text_eq start isToken ends, ← start]
    rw [same] at h ⊢
    exact ⟨later, rfl, h.tail⟩
  · rintro ⟨later, rfl, h⟩
    exact h.cons isToken ends

end Partitions

theorem isTokenText_singleton {c : Char} (paren : isParen c = true) :
    IsTokenText (String.singleton c) := by
  simp only [isParen, Bool.or_eq_true, beq_iff_eq] at paren
  rcases paren with rfl | rfl
  · exact .inl rfl
  · exact .inr (.inl rfl)

theorem isUnbroken_run {c : Char} (part : isWordPart c = true) (rest : List Char) :
    IsUnbroken (String.ofList (c :: rest.takeWhile isWordPart)) := by
  refine isUnbroken_of_isWordPart (by simp) fun d hd => ?_
  rw [String.toList_ofList] at hd
  rcases List.mem_cons.mp hd with rfl | hd
  · exact part
  · exact List.mem_takeWhile_imp hd

/-- **Scanning is the only way to cut up a text.**  The induction is along the scanner: a blank is
left out, and a parenthesis or a longest word is the first token. -/
theorem partitions_iff {pos : Nat} {cs : List Char} {found : List Lexeme} :
    Partitions pos cs found ↔ found = lexemesFrom pos cs := by
  induction cs using scan_induction generalizing pos found with
  | nil => rw [lexemesFrom_nil, Partitions.nil_iff]
  | blank c rest blank ih => rw [lexemesFrom_blank blank, Partitions.blank_iff blank, ih]
  | paren c rest paren ih =>
    have first : Partitions pos ((String.singleton c).toList ++ rest) found ↔ _ :=
      Partitions.token_iff (isTokenText_singleton paren) fun unbroken =>
        absurd (unbroken.not_paren c (by simp)) (by simp [paren])
    rw [lexemesFrom_paren paren]
    simpa [ih] using first
  | word c rest part ih =>
    have ends : ∀ next ∈ (rest.dropWhile isWordPart).head?, isWordPart next = false := by
      intro next hn
      have stops := List.head?_dropWhile_not isWordPart rest
      rwa [Option.mem_def.mp hn] at stops
    have first : Partitions pos _ found ↔ _ :=
      Partitions.token_iff (.inr (.inr (isUnbroken_run part rest))) fun _ => ends
    rw [String.toList_ofList, List.cons_append, List.takeWhile_append_dropWhile,
      String.length_ofList] at first
    rw [lexemesFrom_word part, first]
    simp only [ih, exists_eq_right]

/-! ### Places between tokens -/

namespace Cursor

theorem seek_blank {c : Char} (blank : isBlank c = true) (pos : Nat) (rest : List Char) :
    seek pos (c :: rest) = seek (pos + 1) rest := by
  rw [seek, if_pos blank]

theorem advance_seek_paren {c : Char} (paren : isParen c = true) (pos : Nat) (rest : List Char) :
    (seek pos (c :: rest)).advance = seek (pos + 1) rest := by
  rw [seek, if_neg (by simp [isBlank_of_isParen paren]), if_pos paren]
  simp only [advance, String.length_singleton]

theorem advance_seek_word {c : Char} (part : isWordPart c = true) (pos : Nat) (rest : List Char) :
    (seek pos (c :: rest)).advance =
      seek (pos + (c :: rest.takeWhile isWordPart).length) (rest.dropWhile isWordPart) := by
  obtain ⟨blank, paren⟩ := isWordPart_iff.mp part
  rw [seek, if_neg (by simp [blank]), if_neg (by simp [paren])]
  simp only [advance, String.length_ofList]

/-- The end of a text is not left. -/
theorem iterate_advance_nil (n pos : Nat) : advance^[n] (seek pos []) = seek pos [] := by
  induction n with
  | zero => rfl
  | succ n ih => rw [Function.iterate_succ_apply]; exact ih

/-- A place shows the token with the given number, or the end of the text. -/
def Shows (found : List Lexeme) (stop n : Nat) (cursor : Cursor) : Prop :=
  cursor.current = found[n]?.map (·.text) ∧
    cursor.position = (found[n]?.map (·.start)).getD stop

/-- After `n` advances the cursor is at the token with number `n`, and from the last token on at
the end of the text. -/
theorem iterate_advance_seek (n pos : Nat) (cs : List Char) :
    (advance^[n] (seek pos cs)).Shows (lexemesFrom pos cs) (pos + cs.length) n := by
  induction cs using scan_induction generalizing n pos with
  | nil =>
    rw [iterate_advance_nil, lexemesFrom_nil]
    exact ⟨rfl, rfl⟩
  | blank c rest blank ih =>
    rw [seek_blank blank, lexemesFrom_blank blank, List.length_cons, Nat.add_comm rest.length,
      ← Nat.add_assoc]
    exact ih n (pos + 1)
  | paren c rest paren ih =>
    rw [lexemesFrom_paren paren]
    cases n with
    | zero =>
      rw [Function.iterate_zero, id_eq, seek, if_neg (by simp [isBlank_of_isParen paren]),
        if_pos paren]
      exact ⟨rfl, rfl⟩
    | succ n =>
      rw [Function.iterate_succ_apply, advance_seek_paren paren, List.length_cons,
        Nat.add_comm rest.length, ← Nat.add_assoc]
      exact ih n (pos + 1)
  | word c rest part ih =>
    rw [lexemesFrom_word part]
    cases n with
    | zero =>
      obtain ⟨blank, paren⟩ := isWordPart_iff.mp part
      rw [Function.iterate_zero, id_eq, seek, if_neg (by simp [blank]), if_neg (by simp [paren])]
      exact ⟨rfl, rfl⟩
    | succ n =>
      have whole : pos + (c :: rest).length = pos + (c :: rest.takeWhile isWordPart).length +
          (rest.dropWhile isWordPart).length := by
        rw [Nat.add_assoc, ← List.length_append, List.cons_append,
          List.takeWhile_append_dropWhile]
      rw [Function.iterate_succ_apply, advance_seek_word part, whole]
      exact ih n _

theorem iterate_advance (text : String) (n : Nat) :
    (advance^[n] (start text)).Shows (lexemes text) text.length n := by
  have run := iterate_advance_seek n 0 text.toList
  rwa [Nat.zero_add, String.length_toList] at run

/-! ### Reads between advances -/

/-- What a cursor can be asked for, one call after another. -/
inductive Call where
  | current
  | position
  | advance
  deriving Repr, DecidableEq

/-- What a call answers: a token, if there is one, or a position. -/
inductive Reply where
  | token (text : Option String)
  | place (position : Nat)
  deriving Repr, DecidableEq

/-- The answer to a call, and the place that it leaves the cursor in. -/
def reply (cursor : Cursor) : Call → Reply × Cursor
  | .current => (.token cursor.current, cursor)
  | .position => (.place cursor.position, cursor)
  | .advance => (.token cursor.advance.current, cursor.advance)

/-- The answers to calls that follow one another. -/
def replies (cursor : Cursor) : List Call → List Reply
  | [] => []
  | call :: calls => (cursor.reply call).1 :: (cursor.reply call).2.replies calls

/-- The answers told from the tokens alone, after `n` advances: only an advance makes the number
grow. -/
def expected (found : List Lexeme) (stop n : Nat) : List Call → List Reply
  | [] => []
  | .current :: calls => .token (found[n]?.map (·.text)) :: expected found stop n calls
  | .position :: calls =>
    .place ((found[n]?.map (·.start)).getD stop) :: expected found stop n calls
  | .advance :: calls =>
    .token (found[n + 1]?.map (·.text)) :: expected found stop (n + 1) calls

theorem replies_iterate_advance (text : String) (n : Nat) (calls : List Call) :
    (advance^[n] (start text)).replies calls = expected (lexemes text) text.length n calls := by
  induction calls generalizing n with
  | nil => rfl
  | cons call calls ih =>
    obtain ⟨current, position⟩ := iterate_advance text n
    cases call with
    | current => rw [replies, reply, current, ih, expected]
    | position => rw [replies, reply, position, ih, expected]
    | advance =>
      rw [replies, reply, ← Function.iterate_succ_apply' advance, (iterate_advance text (n + 1)).1,
        ih, expected]

end Cursor

/-- **Scanning partitions the text.**  The tokens of a text are its only partition.  A cursor shows
them one after the other, then the end of the text for as long as it is advanced, and reads between
the advances change nothing. -/
theorem scanning_partitions (text : String) :
    (∀ found, Partitions 0 text.toList found ↔ found = lexemes text) ∧
    (∀ n, (Cursor.advance^[n] (.start text)).Shows (lexemes text) text.length n) ∧
    ∀ calls, (Cursor.start text).replies calls =
      Cursor.expected (lexemes text) text.length 0 calls :=
  ⟨fun _ => partitions_iff, Cursor.iterate_advance text, Cursor.replies_iterate_advance text 0⟩

/-- A word that touches a parenthesis ends there, and the blanks between words are left out. -/
example : lexemes "red(not  blue)" =
    [⟨"red", 0⟩, ⟨"(", 3⟩, ⟨"not", 4⟩, ⟨"blue", 9⟩, ⟨")", 13⟩] := by
  decide +kernel

end KeywordQuery
