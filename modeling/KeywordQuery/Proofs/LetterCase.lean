import KeywordQuery.Text.Lower
import KeywordQuery.Text.WordChar

/-!
# Classes of characters and their lower-case forms

The lower-case forms of single characters come from a table of runs of capitals, fourteen hundred in
all, and a class of characters has up to seven hundred ranges.  Packed into one number, a bit for
each code point, a class is compared with a whole run of capitals at once.

* `RangeTable.mask`, `testBit_mask` — a class as a number;
* `LowerRun.bits`, `lowerPoint_cases` — the capitals of a run as a pattern of bits;
* `lowerChar_of_not_isCased`, `toNat_ofNat_lowerPoint` — single characters in lower case;
* `RangeTable.ignoresCase`, `covers_lowerPoint` — classes that have a character exactly if they have
  its lower-case form;
* `CaseAlike` — characters that these classes do not tell apart;
* `RangeTable.disjoint`, `not_covers_of_disjoint` — classes without a common character.
-/

namespace KeywordQuery.Text

namespace RangeTable

/-! ### Packed classes -/

/-- The class as a number that has the bits of its code points. -/
def mask : RangeTable → Nat
  | [] => 0
  | (first, last) :: table => ((1 <<< (last + 1 - first)) - 1) <<< first ||| mask table

theorem testBit_mask (table : RangeTable) (n : Nat) : table.mask.testBit n = table.covers n := by
  induction table with
  | nil => rw [mask, Nat.zero_testBit, covers, List.any_nil]
  | cons range table ih =>
    obtain ⟨first, last⟩ := range
    have block : (((1 <<< (last + 1 - first)) - 1) <<< first).testBit n =
        (decide (first ≤ n) && decide (n ≤ last)) := by
      rw [Nat.testBit_shiftLeft, Nat.one_shiftLeft, Nat.testBit_two_pow_sub_one, Bool.eq_iff_iff]
      simp only [Bool.and_eq_true, decide_eq_true_eq]
      omega
    rw [mask, Nat.testBit_or, block, ih]
    rfl

/-- Whether no code point is in both classes. -/
def disjoint (table other : RangeTable) : Bool := table.mask &&& other.mask == 0

theorem not_covers_of_disjoint {table other : RangeTable} (h : table.disjoint other = true)
    {n : Nat} (hn : table.covers n = true) : other.covers n = false := by
  have bit := congrArg (Nat.testBit · n) (beq_iff_eq.mp h)
  simpa [testBit_mask, hn] using bit

/-- A class of one character. -/
theorem covers_singleton (c d : Char) :
    RangeTable.covers [(d.toNat, d.toNat)] c.toNat = (c == d) := by
  rw [Bool.eq_iff_iff, covers_iff, beq_iff_eq]
  constructor
  · rintro ⟨range, hr, low, high⟩
    obtain rfl := List.mem_singleton.mp hr
    have same : c.toNat = d.toNat := by omega
    rw [← Char.ofNat_toNat c, same, Char.ofNat_toNat]
  · rintro rfl
    exact ⟨_, List.mem_singleton_self _, Nat.le_refl _, Nat.le_refl _⟩

end RangeTable

/-- The word characters as a class. -/
def wordTable : RangeTable := (0x5F, 0x5F) :: alphanumericTable

theorem isWordChar_eq_covers (c : Char) : isWordChar c = wordTable.covers c.toNat := by
  have underscore := RangeTable.covers_singleton c '_'
  rw [RangeTable.covers, List.any_cons, List.any_nil, Bool.or_false] at underscore
  rw [wordTable, RangeTable.covers, List.any_cons, isWordChar, Bool.or_comm, ← underscore]
  rfl

/-! ### Capitals and their forms -/

namespace LowerRun

/-- The number of the run's capitals. -/
def count (run : LowerRun) : Nat := (run.last - run.first) / run.step + 1

/-- The number with a bit at every multiple of `step`, as many as are asked for. -/
def bitsEvery (step : Nat) : Nat → Nat
  | 0 => 0
  | count + 1 => 1 ||| bitsEvery step count <<< step

/-- The places of the run's capitals behind the first of them. -/
def bits (run : LowerRun) : Nat := bitsEvery run.step run.count

theorem testBit_bitsEvery (step : Nat) {k count : Nat} (h : k < count) :
    (bitsEvery step count).testBit (k * step) = true := by
  induction count generalizing k with
  | zero => exact absurd h (Nat.not_lt_zero k)
  | succ count ih =>
    rw [bitsEvery, Nat.testBit_or]
    cases k with
    | zero => rw [Nat.zero_mul, Nat.testBit_one_zero, Bool.true_or]
    | succ k =>
      rw [Nat.testBit_shiftLeft, Nat.succ_mul, Nat.add_sub_cancel, ih (Nat.lt_of_succ_lt_succ h),
        decide_eq_true (Nat.le_add_left step _), Bool.true_and, Bool.or_true]

theorem exists_of_covers {run : LowerRun} {n : Nat} (h : run.covers n = true) :
    ∃ k < run.count, n = run.first + k * run.step := by
  simp only [covers, Bool.and_eq_true, decide_eq_true_eq, beq_iff_eq] at h
  obtain ⟨⟨low, high⟩, whole⟩ := h
  refine ⟨(n - run.first) / run.step, ?_, ?_⟩
  · exact Nat.lt_succ_of_le (Nat.div_le_div_right (Nat.sub_le_sub_right high _))
  · rw [Nat.div_mul_cancel (Nat.dvd_of_mod_eq_zero whole)]
    omega

end LowerRun

/-- A code point is its own lower-case form, or both have the same place in a run and its image. -/
theorem lowerPoint_cases (n : Nat) :
    lowerPoint n = n ∨ ∃ run ∈ lowerRuns, ∃ k < run.count,
      n = run.first + k * run.step ∧ lowerPoint n = run.image + k * run.step := by
  rw [lowerPoint]
  split
  · next run found =>
    have covered := List.find?_some found
    obtain ⟨k, hk, rfl⟩ := LowerRun.exists_of_covers covered
    refine .inr ⟨run, List.mem_of_find?_eq_some found, k, hk, rfl, ?_⟩
    rw [Nat.add_sub_cancel_left]
  · exact .inl rfl

/-- Whether the run has letters with a case only, and their forms are characters. -/
def LowerRun.isSound (run : LowerRun) : Bool :=
  ((casedTable.mask >>> run.first) &&& run.bits == run.bits) &&
    (decide (run.image + run.count * run.step < 0xD800) ||
      (decide (0xDFFF < run.image) && decide (run.image + run.count * run.step < 0x110000)))

theorem isSound_lowerRuns : lowerRuns.all LowerRun.isSound = true := by
  set_option maxRecDepth 4000 in decide

theorem isValidChar_lowerPoint (c : Char) : (lowerPoint c.toNat).isValidChar := by
  rcases lowerPoint_cases c.toNat with same | ⟨run, mem, k, hk, -, form⟩
  · rw [same]
    exact c.valid
  · have sound := List.all_eq_true.mp isSound_lowerRuns run mem
    simp only [LowerRun.isSound, Bool.and_eq_true, Bool.or_eq_true, decide_eq_true_eq] at sound
    have within : k * run.step ≤ run.count * run.step := Nat.mul_le_mul_right _ (Nat.le_of_lt hk)
    rw [form, Nat.isValidChar]
    omega

theorem toNat_ofNat_lowerPoint (c : Char) :
    (Char.ofNat (lowerPoint c.toNat)).toNat = lowerPoint c.toNat := by
  rw [Char.ofNat, dif_pos (isValidChar_lowerPoint c)]
  rfl

/-- Only letters that have a case have a lower-case form of their own. -/
theorem lowerChar_of_not_isCased {c : Char} (h : isCased c = false) : lowerChar c = [c] := by
  have dotted : c ≠ 'İ' := by
    rintro rfl
    exact absurd h (by decide)
  have uncased : casedTable.covers c.toNat = false := h
  rw [lowerChar, if_neg dotted]
  rcases lowerPoint_cases c.toNat with same | ⟨run, mem, k, hk, capital, -⟩
  · rw [same, Char.ofNat_toNat]
  · have sound := List.all_eq_true.mp isSound_lowerRuns run mem
    simp only [LowerRun.isSound, Bool.and_eq_true, beq_iff_eq] at sound
    have bit := congrArg (Nat.testBit · (k * run.step)) sound.1
    simp only [Nat.testBit_and, Nat.testBit_shiftRight, LowerRun.bits,
      LowerRun.testBit_bitsEvery run.step hk, ← capital, RangeTable.testBit_mask, uncased] at bit
    exact Bool.noConfusion bit

/-! ### Classes that disregard case -/

namespace RangeTable

/-- Whether the class has a character exactly if it has the first character of each of its
lower-case forms. -/
def ignoresCase (table : RangeTable) : Bool :=
  (lowerRuns.all fun run =>
    ((table.mask >>> run.first) ^^^ (table.mask >>> run.image)) &&& run.bits == 0) &&
    table.mask.testBit 'Σ'.toNat == table.mask.testBit 'ς'.toNat &&
    table.mask.testBit 'İ'.toNat == table.mask.testBit 'i'.toNat

variable {table : RangeTable} (h : table.ignoresCase = true)
include h

theorem covers_lowerPoint (n : Nat) : table.covers (lowerPoint n) = table.covers n := by
  simp only [ignoresCase, Bool.and_eq_true] at h
  rcases lowerPoint_cases n with same | ⟨run, mem, k, hk, capital, form⟩
  · rw [same]
  · have alike := beq_iff_eq.mp (List.all_eq_true.mp h.1.1 run mem)
    have bit := congrArg (Nat.testBit · (k * run.step)) alike
    simp only [Nat.testBit_and, Nat.testBit_xor, Nat.testBit_shiftRight, LowerRun.bits,
      LowerRun.testBit_bitsEvery run.step hk, ← capital, ← form, testBit_mask, Nat.zero_testBit,
      Bool.and_true, bne_eq_false_iff_eq] at bit
    exact bit.symm

theorem covers_finalSigma : table.covers 'ς'.toNat = table.covers 'Σ'.toNat := by
  simp only [ignoresCase, Bool.and_eq_true, beq_iff_eq, testBit_mask] at h
  exact h.1.2.symm

theorem covers_dottedCapital : table.covers 'i'.toNat = table.covers 'İ'.toNat := by
  simp only [ignoresCase, Bool.and_eq_true, beq_iff_eq, testBit_mask] at h
  exact h.2.symm

end RangeTable

/-- Word characters, what a sigma passes over, apostrophes, and the marks of hashtags and mentions
are classes that disregard case. -/
theorem ignoresCase_classes :
    (wordTable :: caseIgnorableTable :: ['\'', '#', '@'].map fun c => [(c.toNat, c.toNat)]).all
      RangeTable.ignoresCase = true := by
  set_option maxRecDepth 4000 in decide

/-- Two characters that are in the same ones of the classes that disregard case. -/
def CaseAlike (c d : Char) : Prop :=
  ∀ table : RangeTable, table.ignoresCase = true → table.covers c.toNat = table.covers d.toNat

namespace CaseAlike

variable {c d : Char} (h : CaseAlike c d)
include h

theorem isWordChar_eq : isWordChar c = isWordChar d := by
  rw [isWordChar_eq_covers, isWordChar_eq_covers]
  exact h _ (List.all_eq_true.mp ignoresCase_classes _ List.mem_cons_self)

theorem isCaseIgnorable_eq : isCaseIgnorable c = isCaseIgnorable d :=
  h _ (List.all_eq_true.mp ignoresCase_classes _ (List.mem_cons_of_mem _ List.mem_cons_self))

theorem beq_eq {e : Char} (he : e ∈ ['\'', '#', '@']) : (c == e) = (d == e) := by
  have table := List.mem_cons_of_mem wordTable (List.mem_cons_of_mem caseIgnorableTable
    (List.mem_map_of_mem (f := fun c => [(c.toNat, c.toNat)]) he))
  rw [← RangeTable.covers_singleton, ← RangeTable.covers_singleton]
  exact h _ (List.all_eq_true.mp ignoresCase_classes _ table)

end CaseAlike

end KeywordQuery.Text
