import KeywordQuery.Proofs.LetterCase

/-!
# Lower-casing in context

The form of a capital sigma hangs on the letters around it, so a piece that is cut out of a text
need not be lower-cased as it is inside the text.  All that a piece takes from its surroundings is
whether a letter with a case comes before it and whether one comes after it.

* `seenBehind`, `seenAhead` — what a sigma sees when it looks across a piece of text;
* `lowerPart` — the lower-case form of a piece in its surroundings, with `lower_eq_lowerPart` and
  `lowerPart_append`;
* `exists_lowerAt`, `exists_of_mem_lowerPart` — the form of a character stays in the classes that
  disregard case;
* `lower_append_cons` — nothing is seen across a character that has no case and is not passed over;
* `lowerPart_eq_iff` — surroundings in which a piece has the same form.
-/

namespace KeywordQuery.Text

/-! ### Pieces of a text -/

/-- What a sigma sees that looks at the character: whether it has a case, or what is `beyond` it if
it is passed over. -/
def caseSeen (beyond : Bool) (c : Char) : Bool := if isCaseIgnorable c then beyond else isCased c

/-- What a sigma sees that looks back across the characters, with `before` in front of them. -/
def seenBehind (before : Bool) (cs : List Char) : Bool := cs.foldl caseSeen before

/-- What a sigma sees that looks ahead across the characters, with `after` behind them. -/
def seenAhead (after : Bool) (cs : List Char) : Bool :=
  cs.foldr (fun c beyond => caseSeen beyond c) after

/-- The lower-case form of a character, given what a sigma in its place would see. -/
def lowerAt (before after : Bool) (c : Char) : List Char :=
  if c = 'Σ' then [if before && !after then 'ς' else 'σ'] else lowerChar c

/-- The lower-case form of a piece of a text, given what a sigma sees beyond its two ends. -/
def lowerPart (before after : Bool) : List Char → List Char
  | [] => []
  | c :: rest =>
    lowerAt before (seenAhead after rest) c ++ lowerPart (caseSeen before c) after rest

theorem startsCased_eq_seenAhead (cs : List Char) : startsCased cs = seenAhead false cs := by
  induction cs with
  | nil => rfl
  | cons c cs ih =>
    rw [startsCased, ih]
    rfl

theorem lowerFrom_eq_lowerPart (before : Bool) (cs : List Char) :
    lowerFrom before cs = lowerPart before false cs := by
  induction cs generalizing before with
  | nil => rfl
  | cons c cs ih =>
    rw [lowerFrom, lowerPart, ih, lowerSigma, startsCased_eq_seenAhead]
    rfl

/-- A whole text has nothing around it. -/
theorem lower_eq_lowerPart (cs : List Char) : lower cs = lowerPart false false cs :=
  lowerFrom_eq_lowerPart false cs

/-- Two pieces that stand next to each other see each other. -/
theorem lowerPart_append (before after : Bool) (xs ys : List Char) :
    lowerPart before after (xs ++ ys) =
      lowerPart before (seenAhead after ys) xs ++ lowerPart (seenBehind before xs) after ys := by
  induction xs generalizing before with
  | nil => rfl
  | cons c xs ih =>
    have ahead : seenAhead after (xs ++ ys) = seenAhead (seenAhead after ys) xs := List.foldr_append
    rw [List.cons_append, lowerPart, lowerPart, ih, ahead, List.append_assoc]
    rfl

/-! ### Single characters -/

theorem lowerAt_sigma (before after : Bool) :
    lowerAt before after 'Σ' = [if before && !after then 'ς' else 'σ'] :=
  if_pos rfl

theorem lowerAt_of_ne {c : Char} (h : c ≠ 'Σ') (before after : Bool) :
    lowerAt before after c = lowerChar c :=
  if_neg h

/-- The form of a character begins with a character of the same classes, and nothing follows but the
dot of `İ`. -/
theorem exists_lowerAt (before after : Bool) (c : Char) :
    ∃ form, lowerAt before after c = form :: (if c = 'İ' then ['\u0307'] else []) ∧
      CaseAlike form c := by
  by_cases sigma : c = 'Σ'
  · subst sigma
    rw [lowerAt_sigma]
    by_cases final : (before && !after) = true
    · refine ⟨'ς', by rw [if_pos final, if_neg (by decide)], fun table h => ?_⟩
      exact table.covers_finalSigma h
    · refine ⟨'σ', by rw [if_neg final, if_neg (by decide)], fun table h => ?_⟩
      exact table.covers_lowerPoint h 'Σ'.toNat
  rw [lowerAt_of_ne sigma, lowerChar]
  by_cases dotted : c = 'İ'
  · subst dotted
    exact ⟨'i', by rw [if_pos rfl, if_pos rfl], fun table h => table.covers_dottedCapital h⟩
  · refine ⟨_, by rw [if_neg dotted, if_neg dotted], fun table h => ?_⟩
    rw [toNat_ofNat_lowerPoint, table.covers_lowerPoint h]

theorem lowerAt_of_not_isCased {c : Char} (h : isCased c = false) (before after : Bool) :
    lowerAt before after c = [c] := by
  have sigma : c ≠ 'Σ' := by
    rintro rfl
    exact absurd h (by decide)
  rw [lowerAt_of_ne sigma, lowerChar_of_not_isCased h]

/-- How long the form of a piece is does not hang on its surroundings. -/
theorem length_lowerPart (before after before' after' : Bool) (cs : List Char) :
    (lowerPart before after cs).length = (lowerPart before' after' cs).length := by
  induction cs generalizing before before' with
  | nil => rfl
  | cons c cs ih =>
    obtain ⟨form, eq, -⟩ := exists_lowerAt before (seenAhead after cs) c
    obtain ⟨form', eq', -⟩ := exists_lowerAt before' (seenAhead after' cs) c
    rw [lowerPart, lowerPart, eq, eq', List.length_append, List.length_append, ih]
    rfl

/-- The lower-case form of a text begins with the form of its first character. -/
theorem exists_lower_cons (c : Char) (cs : List Char) :
    ∃ form rest, lower (c :: cs) = form :: rest ∧ CaseAlike form c := by
  obtain ⟨form, eq, alike⟩ := exists_lowerAt false (seenAhead false cs) c
  rw [lower_eq_lowerPart, lowerPart, eq, List.cons_append]
  exact ⟨form, _, rfl, alike⟩

/-- Every character of a lower-case form is the dot of an `İ`, or is of the classes of some
character of the text. -/
theorem exists_of_mem_lowerPart {before after : Bool} {cs : List Char} {d : Char}
    (h : d ∈ lowerPart before after cs) :
    (d = '\u0307' ∧ 'İ' ∈ cs) ∨ ∃ c ∈ cs, CaseAlike d c := by
  induction cs generalizing before with
  | nil => exact absurd h List.not_mem_nil
  | cons c cs ih =>
    obtain ⟨form, eq, alike⟩ := exists_lowerAt before (seenAhead after cs) c
    rw [lowerPart, eq, List.cons_append, List.mem_cons, List.mem_append] at h
    rcases h with rfl | dot | h
    · exact .inr ⟨c, List.mem_cons_self, alike⟩
    · by_cases dotted : c = 'İ'
      · subst dotted
        exact .inl ⟨List.mem_singleton.mp (by simpa using dot), List.mem_cons_self⟩
      · rw [if_neg dotted] at dot
        exact absurd dot List.not_mem_nil
    · rcases ih h with ⟨rfl, mem⟩ | ⟨c', mem, alike'⟩
      · exact .inl ⟨rfl, List.mem_cons_of_mem c mem⟩
      · exact .inr ⟨c', List.mem_cons_of_mem c mem, alike'⟩

/-! ### Characters that stop the look -/

section Stop

variable {c : Char} (uncased : isCased c = false) (stops : isCaseIgnorable c = false)
include uncased stops

theorem caseSeen_of_stop (beyond : Bool) : caseSeen beyond c = false := by
  rw [caseSeen, if_neg (by simp [stops]), uncased]

/-- A character that stops the look stays as it is and divides a text into two. -/
theorem lower_append_cons (xs ys : List Char) :
    lower (xs ++ c :: ys) = lower xs ++ c :: lower ys := by
  have ahead : seenAhead false (c :: ys) = false := caseSeen_of_stop uncased stops _
  have behind := caseSeen_of_stop uncased stops (seenBehind false xs)
  rw [lower_eq_lowerPart, lowerPart_append, ahead, lowerPart, behind,
    lowerAt_of_not_isCased uncased, ← lower_eq_lowerPart, ← lower_eq_lowerPart,
    List.singleton_append]

theorem lower_cons (ys : List Char) : lower (c :: ys) = c :: lower ys :=
  lower_append_cons uncased stops [] ys

end Stop

/-! ### Surroundings that make no difference -/

/-- Whether a sigma between the two parts of a piece has the final form. -/
def isFinal (before after : Bool) (xs ys : List Char) : Bool :=
  seenBehind before xs && !seenAhead after ys

/-- Surroundings make no difference to a piece exactly if they make none to its capital sigmas. -/
theorem lowerPart_eq_iff {before after before' after' : Bool} {cs : List Char} :
    lowerPart before after cs = lowerPart before' after' cs ↔
      ∀ xs ys, cs = xs ++ 'Σ' :: ys →
        isFinal before after xs ys = isFinal before' after' xs ys := by
  constructor
  · rintro same xs ys rfl
    rw [lowerPart_append, lowerPart_append before'] at same
    obtain ⟨-, tails⟩ := List.append_inj same (length_lowerPart ..)
    rw [lowerPart, lowerPart, lowerAt_sigma, lowerAt_sigma] at tails
    have forms := (List.cons.inj tails).1
    change (if isFinal before after xs ys then 'ς' else 'σ') =
      if isFinal before' after' xs ys then 'ς' else 'σ' at forms
    cases hl : isFinal before after xs ys <;> cases hr : isFinal before' after' xs ys <;>
      simp [hl, hr] at forms ⊢
  · intro alike
    induction cs generalizing before before' with
    | nil => rfl
    | cons c cs ih =>
      have first : lowerAt before (seenAhead after cs) c =
          lowerAt before' (seenAhead after' cs) c := by
        by_cases sigma : c = 'Σ'
        · subst sigma
          have final : (before && !seenAhead after cs) = (before' && !seenAhead after' cs) :=
            alike [] cs rfl
          rw [lowerAt_sigma, lowerAt_sigma, final]
        · rw [lowerAt_of_ne sigma, lowerAt_of_ne sigma]
      have later := ih fun xs ys split => alike (c :: xs) ys (by rw [split]; rfl)
      rw [lowerPart, lowerPart, first, later]

end KeywordQuery.Text
