import KeywordQuery.Proofs.Lowering

/-!
# Lower-case forms of lower-case forms

A text in lower case has no letters left that have another lower-case form, and neither has any
piece of it.  So it is its own lower-case form, and so is everything that is cut out of it, although
what is cut out of a text need not be lower-cased as it is inside the text.

* `capitals`, `lowerPoint_of_testBit` — the characters with another lower-case form, packed into one
  number;
* `lowerPoint_eq_or_testBit` — no form of a character is one of them;
* `IsLowerForm` — the characters that stay as they are, whatever is around them;
* `isLowerForm_of_mem_lower` — a text in lower case has only these;
* `lower_eq_self` — a text that has only these is in lower case.
-/

namespace KeywordQuery.Text

/-! ### Capitals -/

/-- The capitals of the runs as a number that has their bits. -/
def capitalBits : List LowerRun → Nat
  | [] => 0
  | run :: runs => run.bits <<< run.first ||| capitalBits runs

/-- The dotted capital, whose form begins with an `i`. -/
def dottedRun : LowerRun := ⟨'İ'.toNat, 'İ'.toNat, 1, 'i'.toNat⟩

/-- The characters with another lower-case form, a bit for each of them. -/
def capitals : Nat := capitalBits (dottedRun :: lowerRuns)

theorem LowerRun.testBit_bits {run : LowerRun} {n : Nat} (h : run.covers n = true) :
    (run.bits <<< run.first).testBit n = true := by
  obtain ⟨k, hk, rfl⟩ := LowerRun.exists_of_covers h
  have first : run.first ≤ run.first + k * run.step := Nat.le_add_right _ _
  rw [Nat.testBit_shiftLeft, decide_eq_true first, Nat.add_sub_cancel_left]
  exact LowerRun.testBit_bitsEvery run.step hk

theorem testBit_capitalBits {runs : List LowerRun} {run : LowerRun} (mem : run ∈ runs) {n : Nat}
    (h : run.covers n = true) : (capitalBits runs).testBit n = true := by
  induction runs with
  | nil => exact absurd mem List.not_mem_nil
  | cons other runs ih =>
    rw [capitalBits, Nat.testBit_or, Bool.or_eq_true]
    rcases List.mem_cons.mp mem with rfl | later
    · exact .inl (LowerRun.testBit_bits h)
    · exact .inr (ih later)

theorem lowerPoint_of_testBit {n : Nat} (h : capitals.testBit n = false) :
    n ≠ 'İ'.toNat ∧ lowerPoint n = n := by
  have uncovered : ∀ run ∈ dottedRun :: lowerRuns, ¬run.covers n = true := by
    intro run mem covered
    have bit : capitals.testBit n = true := testBit_capitalBits mem covered
    rw [h] at bit
    exact Bool.noConfusion bit
  constructor
  · rintro rfl
    exact uncovered dottedRun List.mem_cons_self (by decide)
  · have none : lowerRuns.find? (·.covers n) = none :=
      List.find?_eq_none.mpr fun run mem => uncovered run (List.mem_cons_of_mem _ mem)
    rw [lowerPoint, none]

/-- No capital is the form of another one. -/
theorem disjoint_images :
    (lowerRuns.all fun run => (capitals >>> run.image) &&& run.bits == 0) = true := by
  set_option maxRecDepth 4000 in decide

/-- The forms that are not in the table are no capitals. -/
theorem disjoint_specialForms :
    (['ς', 'σ', 'i', '\u0307'].all fun c => !capitals.testBit c.toNat) = true := by
  set_option maxRecDepth 4000 in decide

/-- A code point is its own lower-case form, or its form is no capital. -/
theorem lowerPoint_eq_or_testBit (n : Nat) :
    lowerPoint n = n ∨ capitals.testBit (lowerPoint n) = false := by
  rcases lowerPoint_cases n with same | ⟨run, mem, k, hk, -, form⟩
  · exact .inl same
  · have apart := beq_iff_eq.mp (List.all_eq_true.mp disjoint_images run mem)
    have bit := congrArg (Nat.testBit · (k * run.step)) apart
    simp only [Nat.testBit_and, Nat.testBit_shiftRight, LowerRun.bits,
      LowerRun.testBit_bitsEvery run.step hk, ← form, Nat.zero_testBit, Bool.and_true] at bit
    exact .inr bit

/-! ### Characters in lower case -/

/-- The character stays as it is in lower case, whatever is around it. -/
def IsLowerForm (c : Char) : Prop := ∀ before after, lowerAt before after c = [c]

theorem isLowerForm_of_lowerPoint {c : Char} (sigma : c ≠ 'Σ') (dotted : c ≠ 'İ')
    (h : lowerPoint c.toNat = c.toNat) : IsLowerForm c := by
  intro before after
  rw [lowerAt_of_ne sigma, lowerChar, if_neg dotted, h, Char.ofNat_toNat]

theorem isLowerForm_of_testBit {c : Char} (h : capitals.testBit c.toNat = false) :
    IsLowerForm c := by
  obtain ⟨dotted, form⟩ := lowerPoint_of_testBit h
  refine isLowerForm_of_lowerPoint ?_ ?_ form
  · rintro rfl
    exact absurd form (by set_option maxRecDepth 4000 in decide)
  · rintro rfl
    exact dotted rfl

theorem isLowerForm_of_mem {c : Char} (h : c ∈ ['ς', 'σ', 'i', '\u0307']) : IsLowerForm c := by
  have bit := List.all_eq_true.mp disjoint_specialForms c h
  exact isLowerForm_of_testBit (by simpa using bit)

/-- The form of a character stays as it is. -/
theorem isLowerForm_of_mem_lowerAt {before after : Bool} {c d : Char}
    (h : d ∈ lowerAt before after c) : IsLowerForm d := by
  by_cases sigma : c = 'Σ'
  · subst sigma
    rw [lowerAt_sigma, List.mem_singleton] at h
    subst h
    apply isLowerForm_of_mem
    split <;> simp
  rw [lowerAt_of_ne sigma, lowerChar] at h
  by_cases dotted : c = 'İ'
  · rw [if_pos dotted] at h
    apply isLowerForm_of_mem
    rcases List.mem_cons.mp h with rfl | h
    · simp
    · rw [List.mem_singleton.mp h]
      simp
  · rw [if_neg dotted, List.mem_singleton] at h
    subst h
    rcases lowerPoint_eq_or_testBit c.toNat with same | bit
    · rw [same, Char.ofNat_toNat]
      exact isLowerForm_of_lowerPoint sigma dotted same
    · exact isLowerForm_of_testBit (by rwa [toNat_ofNat_lowerPoint])

/-! ### Texts in lower case -/

theorem isLowerForm_of_mem_lowerPart {before after : Bool} {cs : List Char} {d : Char}
    (h : d ∈ lowerPart before after cs) : IsLowerForm d := by
  induction cs generalizing before with
  | nil => exact absurd h List.not_mem_nil
  | cons c cs ih =>
    rw [lowerPart, List.mem_append] at h
    rcases h with first | later
    · exact isLowerForm_of_mem_lowerAt first
    · exact ih later

theorem isLowerForm_of_mem_lower {cs : List Char} {d : Char} (h : d ∈ lower cs) : IsLowerForm d :=
  isLowerForm_of_mem_lowerPart (lower_eq_lowerPart cs ▸ h)

theorem lowerPart_eq_self {cs : List Char} (h : ∀ c ∈ cs, IsLowerForm c) (before after : Bool) :
    lowerPart before after cs = cs := by
  induction cs generalizing before with
  | nil => rfl
  | cons c cs ih =>
    obtain ⟨first, later⟩ := List.forall_mem_cons.mp h
    rw [lowerPart, first, ih later]
    rfl

/-- A text of characters that stay as they are is in lower case. -/
theorem lower_eq_self {cs : List Char} (h : ∀ c ∈ cs, IsLowerForm c) : lower cs = cs := by
  rw [lower_eq_lowerPart, lowerPart_eq_self h]

/-- What is cut out of a text in lower case is in lower case. -/
theorem lower_eq_self_of_subset {cs part : List Char} (h : part ⊆ lower cs) : lower part = part :=
  lower_eq_self fun _ hc => isLowerForm_of_mem_lower (h hc)

end KeywordQuery.Text
