import Mathlib.Data.List.TakeWhile
import KeywordQuery.Token

/-!
# Scanning texts in pieces

Texts scan piece by piece wherever no word runs across the seam, and the only tokens are single
parentheses and unbroken words.

* `lexemesFrom_blank`, `lexemesFrom_paren`, `lexemesFrom_word` — the three ways scanning goes on;
* `Separated`, `lexemesFrom_append` — scanning two texts that stand next to each other;
* `lexemeTexts`, `spelled` — the tokens without their positions, with the same laws;
* `IsUnbroken`, `lexemeTexts_unbroken` — a term that is scanned as one word;
* `isTerm_of_word_mem_tokens` — what a word of a text can be.
-/

namespace KeywordQuery

open Text (isBlank)

/-! ### One step of the scanner -/

theorem isWordPart_iff {c : Char} :
    isWordPart c = true ↔ isBlank c = false ∧ isParen c = false := by
  simp [isWordPart]

theorem lexemesFrom_nil (pos : Nat) : lexemesFrom pos [] = [] := by
  rw [lexemesFrom]

theorem lexemesFrom_blank {c : Char} (h : isBlank c = true) (pos : Nat) (rest : List Char) :
    lexemesFrom pos (c :: rest) = lexemesFrom (pos + 1) rest := by
  rw [lexemesFrom, if_pos h]

theorem isBlank_of_isParen {c : Char} (h : isParen c = true) : isBlank c = false := by
  simp only [isParen, Bool.or_eq_true, beq_iff_eq] at h
  rcases h with rfl | rfl <;> decide

theorem lexemesFrom_paren {c : Char} (h : isParen c = true) (pos : Nat) (rest : List Char) :
    lexemesFrom pos (c :: rest) = ⟨String.singleton c, pos⟩ :: lexemesFrom (pos + 1) rest := by
  rw [lexemesFrom, if_neg (by simp [isBlank_of_isParen h]), if_pos h]

theorem lexemesFrom_word {c : Char} (h : isWordPart c = true) (pos : Nat) (rest : List Char) :
    lexemesFrom pos (c :: rest) =
      ⟨String.ofList (c :: rest.takeWhile isWordPart), pos⟩ ::
        lexemesFrom (pos + (c :: rest.takeWhile isWordPart).length) (rest.dropWhile isWordPart) := by
  obtain ⟨blank, paren⟩ := isWordPart_iff.mp h
  rw [lexemesFrom, if_neg (by simp [blank]), if_neg (by simp [paren])]

/-- The three kinds of characters, as the cases of scanning. -/
theorem char_cases (c : Char) : isBlank c = true ∨ isParen c = true ∨ isWordPart c = true := by
  by_cases hb : isBlank c = true
  · exact .inl hb
  · by_cases hp : isParen c = true
    · exact .inr (.inl hp)
    · exact .inr (.inr (isWordPart_iff.mpr ⟨by simpa using hb, by simpa using hp⟩))

/-- Induction along the scanner: a blank, a parenthesis, or a run of word characters comes first. -/
theorem scan_induction {motive : List Char → Prop} (nil : motive [])
    (blank : ∀ c rest, isBlank c = true → motive rest → motive (c :: rest))
    (paren : ∀ c rest, isParen c = true → motive rest → motive (c :: rest))
    (word : ∀ c rest, isWordPart c = true → motive (rest.dropWhile isWordPart) →
      motive (c :: rest)) (cs : List Char) : motive cs := by
  induction hlen : cs.length using Nat.strong_induction_on generalizing cs with
  | _ len ih =>
    cases cs with
    | nil => exact nil
    | cons c rest =>
      simp only [List.length_cons] at hlen
      rcases char_cases c with hb | hp | hw
      · exact blank c rest hb (ih _ (by omega) rest rfl)
      · exact paren c rest hp (ih _ (by omega) rest rfl)
      · have shorter := (List.dropWhile_suffix (l := rest) isWordPart).length_le
        exact word c rest hw (ih _ (by omega) _ rfl)

/-! ### Seams -/

/-- No word runs from the end of one text into the start of the next. -/
def Separated (before after : List Char) : Prop :=
  ∀ last ∈ before.getLast?, isWordPart last = true → ∀ next ∈ after.head?, isWordPart next = false

theorem Separated.of_suffix {xs tail ys : List Char} (h : Separated xs ys) (sub : tail <:+ xs) :
    Separated tail ys := by
  obtain ⟨start, rfl⟩ := sub
  intro last hl
  exact h last (by simp [List.getLast?_append, Option.mem_def.mp hl])

theorem Separated.of_head {xs ys : List Char} (h : ∀ next ∈ ys.head?, isWordPart next = false) :
    Separated xs ys :=
  fun _ _ _ => h

/-- A run of word characters stops at a seam. -/
theorem Separated.run {c : Char} {rest ys : List Char} (h : Separated (c :: rest) ys)
    (hc : isWordPart c = true) :
    (rest ++ ys).takeWhile isWordPart = rest.takeWhile isWordPart ∧
      (rest ++ ys).dropWhile isWordPart = rest.dropWhile isWordPart ++ ys := by
  induction rest generalizing c with
  | nil =>
    cases ys with
    | nil => exact ⟨rfl, rfl⟩
    | cons next ys =>
      have stop : isWordPart next = false := h c rfl hc next rfl
      simp [stop]
  | cons d rest ih =>
    by_cases hd : isWordPart d = true
    · obtain ⟨take, drop⟩ := ih (h.of_suffix (List.suffix_cons c _)) hd
      simp [hd, take, drop]
    · simp [hd]

/-- **Scanning across a seam.**  The tokens of two texts next to each other are those of the first
and then those of the second, as long as no word runs across. -/
theorem lexemesFrom_append {xs ys : List Char} (h : Separated xs ys) (pos : Nat) :
    lexemesFrom pos (xs ++ ys) = lexemesFrom pos xs ++ lexemesFrom (pos + xs.length) ys := by
  induction xs using scan_induction generalizing pos with
  | nil => simp [lexemesFrom_nil]
  | blank c rest hb ih =>
    rw [List.cons_append, lexemesFrom_blank hb, lexemesFrom_blank hb,
      ih (h.of_suffix (List.suffix_cons c rest)), List.length_cons, Nat.add_right_comm, Nat.add_assoc]
  | paren c rest hp ih =>
    rw [List.cons_append, lexemesFrom_paren hp, lexemesFrom_paren hp,
      ih (h.of_suffix (List.suffix_cons c rest)), List.length_cons, List.cons_append,
      Nat.add_right_comm, Nat.add_assoc]
  | word c rest hw ih =>
    obtain ⟨take, drop⟩ := h.run hw
    have tail := (List.dropWhile_suffix isWordPart).trans (List.suffix_cons c rest)
    have whole : (rest.takeWhile isWordPart).length + (rest.dropWhile isWordPart).length =
        rest.length := by
      rw [← List.length_append, List.takeWhile_append_dropWhile]
    rw [List.cons_append, lexemesFrom_word hw, lexemesFrom_word hw, take, drop, ih (h.of_suffix tail),
      List.cons_append, List.length_cons, List.length_cons]
    congr 3
    omega

/-! ### Tokens without positions -/

/-- The tokens of the characters, without their positions. -/
def lexemeTexts (cs : List Char) : List String := (lexemesFrom 0 cs).map (·.text)

/-- Where the characters start has no influence on what the tokens are. -/
theorem map_text_lexemesFrom (pos : Nat) (cs : List Char) :
    (lexemesFrom pos cs).map (·.text) = lexemeTexts cs := by
  have shift : ∀ pos pos', (lexemesFrom pos cs).map (·.text) =
      (lexemesFrom pos' cs).map (·.text) := by
    induction cs using scan_induction with
    | nil => simp [lexemesFrom_nil]
    | blank c rest hb ih =>
      intro pos pos'
      rw [lexemesFrom_blank hb, lexemesFrom_blank hb]
      exact ih _ _
    | paren c rest hp ih =>
      intro pos pos'
      rw [lexemesFrom_paren hp, lexemesFrom_paren hp, List.map_cons, List.map_cons, ih]
    | word c rest hw ih =>
      intro pos pos'
      rw [lexemesFrom_word hw, lexemesFrom_word hw, List.map_cons, List.map_cons, ih]
  exact shift pos 0

theorem tokens_eq_map (text : String) :
    tokens text = (lexemeTexts text.toList).map Token.ofText := by
  rw [tokens, lexemes, lexemeTexts, List.map_map]
  rfl

/-- The tokens of a text, without their positions. -/
def spelled (text : String) : List String := (lexemes text).map (·.text)

theorem spelled_eq (text : String) : spelled text = lexemeTexts text.toList := rfl

theorem tokens_eq_map_spelled (text : String) : tokens text = (spelled text).map Token.ofText :=
  tokens_eq_map text

@[simp]
theorem lexemeTexts_nil : lexemeTexts [] = [] := by
  simp [lexemeTexts, lexemesFrom_nil]

theorem lexemeTexts_blank {c : Char} (h : isBlank c = true) (rest : List Char) :
    lexemeTexts (c :: rest) = lexemeTexts rest := by
  rw [lexemeTexts, lexemesFrom_blank h, map_text_lexemesFrom]

theorem lexemeTexts_paren {c : Char} (h : isParen c = true) (rest : List Char) :
    lexemeTexts (c :: rest) = String.singleton c :: lexemeTexts rest := by
  rw [lexemeTexts, lexemesFrom_paren h, List.map_cons, map_text_lexemesFrom]

theorem lexemeTexts_word {c : Char} (h : isWordPart c = true) (rest : List Char) :
    lexemeTexts (c :: rest) =
      String.ofList (c :: rest.takeWhile isWordPart) ::
        lexemeTexts (rest.dropWhile isWordPart) := by
  rw [lexemeTexts, lexemesFrom_word h, List.map_cons, map_text_lexemesFrom]

theorem lexemeTexts_append {xs ys : List Char} (h : Separated xs ys) :
    lexemeTexts (xs ++ ys) = lexemeTexts xs ++ lexemeTexts ys := by
  rw [lexemeTexts, lexemesFrom_append h, List.map_append, map_text_lexemesFrom,
    map_text_lexemesFrom]

theorem lexemeTexts_append_blank {c : Char} (h : isBlank c = true) (xs ys : List Char) :
    lexemeTexts (xs ++ c :: ys) = lexemeTexts xs ++ lexemeTexts ys := by
  have seam : Separated xs (c :: ys) := Separated.of_head (by simp [isWordPart, h])
  rw [lexemeTexts_append seam, lexemeTexts_blank h]

theorem lexemeTexts_append_paren {c : Char} (h : isParen c = true) (xs ys : List Char) :
    lexemeTexts (xs ++ c :: ys) = lexemeTexts xs ++ String.singleton c :: lexemeTexts ys := by
  have seam : Separated xs (c :: ys) := Separated.of_head (by simp [isWordPart, h])
  rw [lexemeTexts_append seam, lexemeTexts_paren h]

/-! ### Words -/

/-- A term without blanks and parentheses. -/
structure IsUnbroken (term : String) : Prop where
  ne_empty : term ≠ ""
  not_blank : ∀ c ∈ term.toList, isBlank c = false
  not_paren : ∀ c ∈ term.toList, isParen c = false

/-- An unbroken term that is no reserved word. -/
structure IsTerm (term : String) : Prop extends IsUnbroken term where
  not_reserved : term ≠ "and" ∧ term ≠ "or" ∧ term ≠ "not"

theorem IsUnbroken.isWordPart {term : String} (h : IsUnbroken term) {c : Char}
    (hc : c ∈ term.toList) : isWordPart c = true :=
  isWordPart_iff.mpr ⟨h.not_blank c hc, h.not_paren c hc⟩

theorem isUnbroken_of_isWordPart {term : String} (ne : term ≠ "")
    (parts : ∀ c ∈ term.toList, KeywordQuery.isWordPart c = true) : IsUnbroken term := by
  refine ⟨ne, ?_, ?_⟩
  · intro c hc
    exact (isWordPart_iff.mp (parts c hc)).1
  · intro c hc
    exact (isWordPart_iff.mp (parts c hc)).2

theorem IsUnbroken.ne_paren {term : String} (h : IsUnbroken term) : term ≠ "(" ∧ term ≠ ")" := by
  constructor
  · rintro rfl
    exact absurd (h.not_paren '(' (by simp)) (by decide)
  · rintro rfl
    exact absurd (h.not_paren ')' (by simp)) (by decide)

/-- An unbroken term is scanned as one word. -/
theorem lexemeTexts_unbroken {term : String} (h : IsUnbroken term) :
    lexemeTexts term.toList = [term] := by
  rcases hcs : term.toList with _ | ⟨c, rest⟩
  · exact absurd (String.toList_eq_nil_iff.mp hcs) h.ne_empty
  · have all : ∀ d ∈ rest, KeywordQuery.isWordPart d = true := fun d hd =>
      h.isWordPart (by simp [hcs, hd])
    rw [lexemeTexts_word (h.isWordPart (by simp [hcs])), List.takeWhile_eq_self_iff.mpr all,
      List.dropWhile_eq_nil_iff.mpr all, lexemeTexts_nil, ← hcs, String.ofList_toList]

/-- **What a text is made of.**  Every token of a text is a parenthesis or unbroken. -/
theorem mem_lexemeTexts {cs : List Char} {text : String} (h : text ∈ lexemeTexts cs) :
    text = "(" ∨ text = ")" ∨ IsUnbroken text := by
  induction cs using scan_induction with
  | nil => simp at h
  | blank c rest hb ih =>
    rw [lexemeTexts_blank hb] at h
    exact ih h
  | paren c rest hp ih =>
    rw [lexemeTexts_paren hp, List.mem_cons] at h
    rcases h with rfl | h
    · simp only [isParen, Bool.or_eq_true, beq_iff_eq] at hp
      rcases hp with rfl | rfl
      · exact .inl rfl
      · exact .inr (.inl rfl)
    · exact ih h
  | word c rest hw ih =>
    rw [lexemeTexts_word hw, List.mem_cons] at h
    rcases h with rfl | h
    · have all : ∀ d ∈ c :: rest.takeWhile isWordPart, isWordPart d = true := by
        intro d hd
        rcases List.mem_cons.mp hd with rfl | hd
        · exact hw
        · exact List.mem_takeWhile_imp hd
      refine .inr (.inr (isUnbroken_of_isWordPart (by simp) ?_))
      intro d hd
      exact all d (by simpa using hd)
    · exact ih h

@[simp]
theorem Token.ofText_lparen : Token.ofText "(" = .lparen := rfl

@[simp]
theorem Token.ofText_rparen : Token.ofText ")" = .rparen := rfl

@[simp]
theorem Token.ofText_not : Token.ofText "not" = .not := rfl

theorem Token.ofText_eq_word {text term : String} (h : Token.ofText text = .word term) :
    term = text ∧ text ≠ "(" ∧ text ≠ ")" ∧ text ≠ "and" ∧ text ≠ "or" ∧ text ≠ "not" := by
  unfold Token.ofText at h
  split_ifs at h with h₁ h₂ h₃ h₄ h₅
  exact ⟨(Token.word.inj h).symm, h₁, h₂, h₃, h₄, h₅⟩

/-- The words of a text are terms. -/
theorem isTerm_of_word_mem_tokens {text term : String} (h : .word term ∈ tokens text) :
    IsTerm term := by
  rw [tokens_eq_map, List.mem_map] at h
  obtain ⟨found, hm, hw⟩ := h
  obtain ⟨rfl, notOpen, notClose, reserved⟩ := Token.ofText_eq_word hw
  rcases mem_lexemeTexts hm with h | h | h
  · exact absurd h notOpen
  · exact absurd h notClose
  · exact ⟨h, reserved⟩

theorem IsTerm.ofText {term : String} (h : IsTerm term) : Token.ofText term = .word term := by
  obtain ⟨notOpen, notClose⟩ := h.ne_paren
  obtain ⟨notAnd, notOr, notNot⟩ := h.not_reserved
  simp only [Token.ofText, notOpen, notClose, notAnd, notOr, notNot, if_false]

end KeywordQuery
