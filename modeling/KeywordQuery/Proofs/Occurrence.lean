import KeywordQuery.Proofs.Matching

/-!
# Terms that stand in a text

A term that stands in a text letter for letter need not match it under the substring policy: a
capital sigma at an edge of the term is lower-cased by what is next to the term, and in the term
alone there is nothing next to it.  No other letter does this.

* `LeadsWithSigma`, `TrailsWithSigma` — the two edges at which a sigma takes its form from outside;
* `lowerPart_eq_lower` and its converses `lowerPart_ne_of_leads`, `lowerPart_ne_of_trails` — when a
  piece of a text is lower-cased as it would be alone;
* `contains_surrounded` — when a term matches the texts in which it stands.
-/

namespace KeywordQuery

namespace Text

/-! ### What a sigma sees across characters that it passes over -/

theorem seenBehind_of_all {xs : List Char} (h : xs.all isCaseIgnorable = true) (before : Bool) :
    seenBehind before xs = before := by
  induction xs with
  | nil => rfl
  | cons c xs ih =>
    rw [List.all_cons, Bool.and_eq_true] at h
    rw [seenBehind, List.foldl_cons, caseSeen, if_pos h.1]
    exact ih h.2

theorem seenBehind_of_not_all {xs : List Char} (h : ¬xs.all isCaseIgnorable = true)
    (before before' : Bool) : seenBehind before xs = seenBehind before' xs := by
  induction xs generalizing before before' with
  | nil => exact absurd rfl h
  | cons c xs ih =>
    rw [seenBehind, seenBehind, List.foldl_cons, List.foldl_cons, caseSeen, caseSeen]
    by_cases hc : isCaseIgnorable c = true
    · rw [if_pos hc, if_pos hc]
      exact ih (fun all => h (by rw [List.all_cons, hc, all]; rfl)) before before'
    · rw [if_neg hc, if_neg hc]

theorem seenAhead_eq_seenBehind (after : Bool) (ys : List Char) :
    seenAhead after ys = seenBehind after ys.reverse :=
  List.foldl_reverse.symm

theorem seenAhead_of_all {ys : List Char} (h : ys.all isCaseIgnorable = true) (after : Bool) :
    seenAhead after ys = after := by
  rw [seenAhead_eq_seenBehind, seenBehind_of_all (List.all_reverse.trans h)]

theorem seenAhead_of_not_all {ys : List Char} (h : ¬ys.all isCaseIgnorable = true)
    (after after' : Bool) : seenAhead after ys = seenAhead after' ys := by
  rw [← List.all_reverse] at h
  rw [seenAhead_eq_seenBehind, seenAhead_eq_seenBehind, seenBehind_of_not_all h after after']

/-! ### Sigmas at the edges -/

/-- The text has a capital sigma that has no letter behind it within the text, and none ahead of
it: a letter in front of the text makes it final. -/
def LeadsWithSigma (cs : List Char) : Prop :=
  ∃ xs ys, cs = xs ++ 'Σ' :: ys ∧ xs.all isCaseIgnorable = true ∧ seenAhead false ys = false

/-- The text has a capital sigma that has a letter behind it, and nothing ahead of it within the
text that is not passed over: a letter after the text keeps it from being final. -/
def TrailsWithSigma (cs : List Char) : Prop :=
  ∃ xs ys, cs = xs ++ 'Σ' :: ys ∧ seenBehind false xs = true ∧ ys.all isCaseIgnorable = true

/-- A piece is lower-cased as it would be alone unless a letter next to it meets a sigma. -/
theorem lowerPart_eq_lower {before after : Bool} {cs : List Char}
    (leads : LeadsWithSigma cs → before = false) (trails : TrailsWithSigma cs → after = false) :
    lowerPart before after cs = lower cs := by
  rw [lower_eq_lowerPart, lowerPart_eq_iff]
  intro xs ys split
  rw [isFinal, isFinal]
  -- What stands outside is seen only across an end that is passed over as a whole.
  by_cases hx : xs.all isCaseIgnorable = true
  · rw [seenBehind_of_all hx, seenBehind_of_all hx, Bool.false_and]
    by_cases hy : ys.all isCaseIgnorable = true
    · rw [leads ⟨xs, ys, split, hx, seenAhead_of_all hy false⟩, Bool.false_and]
    · rw [seenAhead_of_not_all hy after false]
      cases seen : seenAhead false ys with
      | true => exact Bool.and_false before
      | false => rw [leads ⟨xs, ys, split, hx, seen⟩, Bool.false_and]
  · rw [seenBehind_of_not_all hx before false]
    by_cases hy : ys.all isCaseIgnorable = true
    · cases seen : seenBehind false xs with
      | true => rw [trails ⟨xs, ys, split, seen, hy⟩]
      | false => rfl
    · rw [seenAhead_of_not_all hy after false]

/-- A letter in front makes the leading sigma final. -/
theorem lowerPart_ne_of_leads {cs : List Char} (h : LeadsWithSigma cs) :
    lowerPart true false cs ≠ lower cs := by
  obtain ⟨xs, ys, split, passed, none⟩ := h
  rw [lower_eq_lowerPart]
  intro same
  have final := lowerPart_eq_iff.mp same xs ys split
  rw [isFinal, isFinal, seenBehind_of_all passed, seenBehind_of_all passed, none] at final
  exact absurd final (by decide)

/-- A letter behind keeps the trailing sigma from being final. -/
theorem lowerPart_ne_of_trails {cs : List Char} (h : TrailsWithSigma cs) :
    lowerPart false true cs ≠ lower cs := by
  obtain ⟨xs, ys, split, some, passed⟩ := h
  rw [lower_eq_lowerPart]
  intro same
  have final := lowerPart_eq_iff.mp same xs ys split
  rw [isFinal, isFinal, seenAhead_of_all passed, seenAhead_of_all passed, some] at final
  exact absurd final (by decide)

/-! ### A letter next to a piece -/

theorem not_isCaseIgnorable_letter : isCaseIgnorable 'a' = false := by
  set_option maxRecDepth 4000 in decide

theorem not_isCaseIgnorable_dotted : isCaseIgnorable 'İ' = false := by
  set_option maxRecDepth 4000 in decide

/-- What is passed over and a sigma have one character in lower case, and it is not the letter
`a`. -/
theorem exists_lowerAt_edge {c : Char} (h : isCaseIgnorable c = true ∨ c = 'Σ')
    (before after : Bool) : ∃ form, lowerAt before after c = [form] ∧ form ≠ 'a' := by
  rcases h with passed | rfl
  · obtain ⟨form, eq, alike⟩ := exists_lowerAt before after c
    have kept : isCaseIgnorable form = true := alike.isCaseIgnorable_eq.trans passed
    have dotless : c ≠ 'İ' := by
      rintro rfl
      rw [not_isCaseIgnorable_dotted] at passed
      exact Bool.noConfusion passed
    refine ⟨form, by rw [eq, if_neg dotless], ?_⟩
    rintro rfl
    rw [not_isCaseIgnorable_letter] at kept
    exact Bool.noConfusion kept
  · exact ⟨_, lowerAt_sigma before after, by split <;> decide⟩

theorem caseSeen_letter (beyond : Bool) : caseSeen beyond 'a' = true := by
  have cased : isCased 'a' = true := by decide
  rw [caseSeen, not_isCaseIgnorable_letter, cased]
  rfl

theorem lowerAt_letter (before after : Bool) : lowerAt before after 'a' = ['a'] := by
  rw [lowerAt_of_ne (by decide)]
  decide

theorem lower_letter_cons (cs : List Char) :
    lower ('a' :: cs) = 'a' :: lowerPart true false cs := by
  rw [lower_eq_lowerPart, lowerPart, lowerAt_letter, caseSeen_letter, List.singleton_append]

theorem lower_concat_letter (cs : List Char) :
    lower (cs ++ ['a']) = lowerPart false true cs ++ ['a'] := by
  have seen : seenAhead false ['a'] = true := by
    rw [seenAhead, List.foldr_cons, caseSeen_letter]
  rw [lower_eq_lowerPart, lowerPart_append, seen, lowerPart, lowerAt_letter, lowerPart,
    List.append_nil]

theorem length_lowerPart_eq (before after : Bool) (cs : List Char) :
    (lower cs).length = (lowerPart before after cs).length := by
  rw [lower_eq_lowerPart]
  exact length_lowerPart ..

/-- A text that leads with a sigma is not found after a letter. -/
theorem not_isInfix_of_leads {cs : List Char} (h : LeadsWithSigma cs) :
    ¬lower cs <:+: lower ('a' :: cs) := by
  rw [lower_letter_cons, List.infix_cons_iff]
  rintro (start | inside)
  · obtain ⟨xs, ys, split, passed, -⟩ := h
    have first : ∃ c rest, cs = c :: rest ∧ (isCaseIgnorable c = true ∨ c = 'Σ') := by
      cases xs with
      | nil => exact ⟨'Σ', ys, split, .inr rfl⟩
      | cons c xs =>
        rw [List.all_cons, Bool.and_eq_true] at passed
        exact ⟨c, xs ++ 'Σ' :: ys, split, .inl passed.1⟩
    obtain ⟨c, rest, rfl, edge⟩ := first
    obtain ⟨form, eq, other⟩ := exists_lowerAt_edge edge false (seenAhead false rest)
    rw [lower_eq_lowerPart, lowerPart, eq, List.cons_append, List.cons_prefix_cons] at start
    exact other start.1
  · exact lowerPart_ne_of_leads h (inside.eq_of_length (length_lowerPart_eq ..)).symm

/-- A text that trails with a sigma is not found before a letter. -/
theorem not_isInfix_of_trails {cs : List Char} (h : TrailsWithSigma cs) :
    ¬lower cs <:+: lower (cs ++ ['a']) := by
  rw [lower_concat_letter, List.infix_concat_iff]
  rintro (stop | inside)
  · obtain ⟨xs, ys, split, -, passed⟩ := h
    have last : ∃ rest c, cs = rest ++ [c] ∧ (isCaseIgnorable c = true ∨ c = 'Σ') := by
      rcases List.eq_nil_or_concat ys with rfl | ⟨ys, c, rfl⟩
      · exact ⟨xs, 'Σ', split, .inr rfl⟩
      · refine ⟨xs ++ 'Σ' :: ys, c, by rw [split]; simp, .inl ?_⟩
        exact List.all_eq_true.mp passed c (by simp)
    obtain ⟨rest, c, rfl, edge⟩ := last
    obtain ⟨form, eq, other⟩ := exists_lowerAt_edge edge (seenBehind false rest) false
    have whole : lower (rest ++ [c]) = lowerPart false (seenAhead false [c]) rest ++ [form] := by
      rw [lower_eq_lowerPart, lowerPart_append, lowerPart, lowerPart, List.append_nil]
      exact congrArg _ eq
    obtain ⟨before, joined⟩ := stop
    rw [whole, ← List.append_assoc] at joined
    exact other (List.singleton_inj.mp (List.append_inj' joined rfl).2)
  · exact lowerPart_ne_of_trails h (inside.eq_of_length (length_lowerPart_eq ..)).symm

end Text

open Text

/-! ### Terms in their surroundings -/

theorem contains_of_lowerPart_eq {before term after : String}
    (h : lowerPart (seenBehind false before.toList) (seenAhead false after.toList) term.toList =
      lower term.toList) :
    MatchPolicy.substring.contains (before ++ term ++ after) term = true := by
  rw [MatchPolicy.contains_substring_iff, String.toList_append, String.toList_append,
    lower_eq_lowerPart (_ ++ _), lowerPart_append, lowerPart_append, ← h]
  exact List.infix_append _ _ _

/-- **When a term matches the texts in which it stands.**  It matches unless it has a letter in
front of a sigma that leads it, or a letter behind a sigma that trails it.  So the terms that match
wherever they stand are those that neither lead nor trail with a capital sigma. -/
theorem contains_surrounded (term : String) :
    (∀ before after : String,
      (LeadsWithSigma term.toList → seenBehind false before.toList = false) →
      (TrailsWithSigma term.toList → seenAhead false after.toList = false) →
      MatchPolicy.substring.contains (before ++ term ++ after) term = true) ∧
    ((∀ before after : String,
      MatchPolicy.substring.contains (before ++ term ++ after) term = true) ↔
      ¬LeadsWithSigma term.toList ∧ ¬TrailsWithSigma term.toList) := by
  have apart (before after : String)
      (leads : LeadsWithSigma term.toList → seenBehind false before.toList = false)
      (trails : TrailsWithSigma term.toList → seenAhead false after.toList = false) :
      MatchPolicy.substring.contains (before ++ term ++ after) term = true :=
    contains_of_lowerPart_eq (lowerPart_eq_lower leads trails)
  refine ⟨apart, fun found => ⟨fun leads => ?_, fun trails => ?_⟩, fun ⟨first, last⟩ => ?_⟩
  · have block := (MatchPolicy.contains_substring_iff _ _).mp (found "a" "")
    simp only [String.toList_append] at block
    exact not_isInfix_of_leads leads (by simpa using block)
  · have block := (MatchPolicy.contains_substring_iff _ _).mp (found "" "a")
    simp only [String.toList_append] at block
    exact not_isInfix_of_trails trails (by simpa using block)
  · exact fun before after => apart before after (absurd · first) (absurd · last)

/-- The final sigma of the term is no final sigma of the longer word. -/
theorem trailing_sigma_not_found :
    MatchPolicy.substring.contains ("" ++ "ΟΔΟΣ" ++ "ΤΡΩΜΑ") "ΟΔΟΣ" = false := by
  set_option maxRecDepth 4000 in decide

end KeywordQuery
