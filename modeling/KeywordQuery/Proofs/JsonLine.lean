import KeywordQuery.Proofs.JsonRoundTrip
import KeywordQuery.Proofs.Streams

/-!
# The units of written values

Numbers, words and marks are written in plain characters; anything else comes from strings.  So a
condition that plain characters meet is met by a written value if it is met by its strings.

* `Json.allTexts` — whether all texts and names in a value meet a condition;
* `Json.all_encode` — a condition on units, told by the texts of a value;
* `Json.not_mem_toLine` — no line ends inside of a written value, as strings escape line ends.
-/

namespace KeywordQuery

open Text (IsPlain isPlain_of_all isPlain_of_mem_toDigits isPlain_of_mem_hexDigits)

/-! ### Numbers -/

namespace Binary64

/-- A decimal is spelled with digits, a point, the letter for the exponent and its sign. -/
theorem isPlain_of_mem_spellDecimal {d : Decimal} {c : Char} (h : c ∈ spellDecimal d) :
    IsPlain c := by
  have kept : ∀ c ∈ (splitTrailingZeros (Nat.toDigits 10 d.digits)).1, IsPlain c := by
    intro c hc
    apply isPlain_of_mem_toDigits (n := d.digits)
    rw [splitTrailingZeros, List.mem_reverse] at hc
    simpa using (List.dropWhile_suffix _).subset hc
  have zeros (count : Nat) : ∀ c ∈ List.replicate count '0', IsPlain c := by
    intro c hc
    rw [(List.mem_replicate.mp hc).2]
    decide
  have power (n : Nat) : ∀ c ∈ Nat.toDigits 10 n, IsPlain c := fun _ => isPlain_of_mem_toDigits
  have marks : ∀ c ∈ ['0', '.', 'e', '+', '-'], IsPlain c := isPlain_of_all (by decide)
  simp only [spellDecimal] at h
  generalize (splitTrailingZeros (Nat.toDigits 10 d.digits)).1 = digits at h kept
  have start (k : Nat) : ∀ c ∈ digits.take k, IsPlain c :=
    fun c hc => kept c (List.mem_of_mem_take hc)
  have rest (k : Nat) : ∀ c ∈ digits.drop k, IsPlain c :=
    fun c hc => kept c (List.mem_of_mem_drop hc)
  grind

theorem isPlain_of_mem_toText {number : Binary64} {c : Char} (h : c ∈ number.toText.toList) :
    IsPlain c := by
  cases number with
  | nan => exact isPlain_of_all (by decide) c h
  | infinity negative =>
    cases negative with
    | false => exact isPlain_of_all (by decide) c h
    | true => exact isPlain_of_all (by decide) c h
  | finite negative significand exponent =>
    have magnitude : ∀ c ∈ (if significand = 0 then "0.0".toList
        else spellDecimal (shortest significand exponent)), IsPlain c := by
      intro c hc
      split at hc
      · exact isPlain_of_all (by decide) c hc
      · exact isPlain_of_mem_spellDecimal hc
    simp only [toText, String.toList_ofList] at h
    split at h
    · rcases List.mem_cons.mp h with rfl | h
      · decide
      · exact magnitude c h
    · exact magnitude c h

end Binary64

namespace Json

open RawText (unitsOf)

/-! ### Texts -/

section

variable (p : RawText → Bool)

mutual

/-- Whether all texts and names in the value meet the condition. -/
def allTexts : Json → Bool
  | str text => p text
  | arr items => allItemTexts items
  | obj fields => allFieldTexts fields
  | _ => true

/-- Whether all texts and names in the items meet the condition. -/
def allItemTexts : List Json → Bool
  | [] => true
  | item :: items => item.allTexts && allItemTexts items

/-- Whether all texts and names in the fields meet the condition. -/
def allFieldTexts : List (RawText × Json) → Bool
  | [] => true
  | (name, value) :: fields => (p name && value.allTexts) && allFieldTexts fields

end

theorem allItemTexts_eq_all (items : List Json) :
    allItemTexts p items = items.all (allTexts p) := by
  induction items with
  | nil => rfl
  | cons item items ih => rw [allItemTexts, ih, List.all_cons]

end

/-! ### Written forms -/

section

variable {q : TextUnit → Bool} (plain : ∀ c, IsPlain c → q (.char c) = true)

include plain

theorem all_map_of_isPlain {cs : List Char} (h : ∀ c ∈ cs, IsPlain c) :
    (cs.map TextUnit.char).all q = true := by
  rw [List.all_map]
  exact List.all_eq_true.mpr fun c hc => plain c (h c hc)

theorem all_encodeInt (n : Int) : (encodeInt n).all q = true := by
  have digits : ((Nat.toDigits 10 n.natAbs).map TextUnit.char).all q = true :=
    all_map_of_isPlain plain fun _ => isPlain_of_mem_toDigits
  rw [encodeInt]
  split
  · rw [List.all_cons, digits, plain '-' (by decide), Bool.and_true]
  · exact digits

theorem all_encodeFloat (number : Binary64) : (encodeFloat number).all q = true := by
  cases number with
  | nan => exact all_map_of_isPlain plain (isPlain_of_all (by decide))
  | infinity negative =>
    cases negative with
    | false => exact all_map_of_isPlain plain (isPlain_of_all (by decide))
    | true => exact all_map_of_isPlain plain (isPlain_of_all (by decide))
  | finite negative significand exponent =>
    exact all_map_of_isPlain plain fun _ => Binary64.isPlain_of_mem_toText

/-- A condition on the units of a string, told by what stands between the quotes. -/
theorem all_encodeString (s : RawText) :
    (encodeString s).all q = s.toUnits.all fun unit => (escapeUnit unit).all q := by
  simp only [encodeString, List.all_cons, List.all_append, List.all_flatMap, List.all_nil,
    plain '"' (by decide), Bool.true_and, Bool.and_true]

end

mutual

/-- **A condition that plain characters meet is met by a written value if its strings meet it**, and
only then. -/
theorem all_encode {q : TextUnit → Bool} (plain : ∀ c, IsPlain c → q (.char c) = true)
    {p : RawText → Bool} (strings : ∀ s, (encodeString s).all q = p s) (value : Json) :
    value.encode.all q = value.allTexts p := by
  match value with
  | .null => exact all_map_of_isPlain plain (isPlain_of_all (by decide))
  | .bool false => exact all_map_of_isPlain plain (isPlain_of_all (by decide))
  | .bool true => exact all_map_of_isPlain plain (isPlain_of_all (by decide))
  | .int value => exact all_encodeInt plain value
  | .float value => exact all_encodeFloat plain value
  | .str value => exact strings value
  | .arr items =>
    simp only [encode, List.all_cons, List.all_append, List.all_nil, plain '[' (by decide),
      plain ']' (by decide), Bool.true_and, Bool.and_true]
    exact all_encodeItems plain strings items
  | .obj fields =>
    simp only [encode, List.all_cons, List.all_append, List.all_nil, plain '\x7b' (by decide),
      plain '\x7d' (by decide), Bool.true_and, Bool.and_true]
    exact all_encodeFields plain strings fields

theorem all_encodeItems {q : TextUnit → Bool} (plain : ∀ c, IsPlain c → q (.char c) = true)
    {p : RawText → Bool} (strings : ∀ s, (encodeString s).all q = p s) (items : List Json) :
    (encodeItems items).all q = allItemTexts p items := by
  match items with
  | [] => rfl
  | [item] =>
    rw [encodeItems, all_encode plain strings item, allItemTexts, allItemTexts, Bool.and_true]
  | item :: next :: items =>
    simp only [encodeItems, List.all_append, List.all_cons, plain ',' (by decide),
      plain ' ' (by decide), Bool.true_and]
    rw [all_encode plain strings item, all_encodeItems plain strings (next :: items)]
    rfl

theorem all_encodeFields {q : TextUnit → Bool} (plain : ∀ c, IsPlain c → q (.char c) = true)
    {p : RawText → Bool} (strings : ∀ s, (encodeString s).all q = p s) (fields : Fields) :
    (encodeFields fields).all q = allFieldTexts p fields := by
  match fields with
  | [] => rfl
  | [(name, value)] =>
    simp only [encodeFields, List.all_append, List.all_cons, plain ':' (by decide),
      plain ' ' (by decide), Bool.true_and]
    rw [strings, all_encode plain strings value, allFieldTexts, allFieldTexts, Bool.and_true]
  | (name, value) :: next :: fields =>
    simp only [encodeFields, List.all_append, List.all_cons, plain ':' (by decide),
      plain ',' (by decide), plain ' ' (by decide), Bool.true_and]
    rw [strings, all_encode plain strings value, all_encodeFields plain strings (next :: fields),
      ← Bool.and_assoc]
    rfl

end

/-! ### Line ends -/

theorem isControl_of_simpleEscape? {unit : TextUnit} {c : Char}
    (h : simpleEscape? unit = some c) : isControl unit = false := by
  unfold simpleEscape? at h
  split at h
  all_goals first | rfl | cases h

theorem isControl_of_isPlain {c : Char} (h : IsPlain c) : isControl (.char c) = false := by
  simp only [isControl, decide_eq_false_iff_not]
  omega

theorem isControl_of_mem_escapeUnit {written unit : TextUnit} (h : unit ∈ escapeUnit written) :
    isControl unit = false := by
  cases written with
  | half half =>
    rw [List.mem_singleton.mp h]
    rfl
  | char c =>
    rw [escapeUnit] at h
    obtain ⟨escaped, simple, written⟩ | ⟨-, written⟩ | ⟨-, -, plain, written⟩ :=
      escapeChar_cases c
    · rw [written] at h
      simp only [List.map_cons, List.map_nil, List.mem_cons, List.not_mem_nil, or_false] at h
      rcases h with rfl | rfl
      · rfl
      · exact isControl_of_simpleEscape? simple
    · obtain ⟨c, hc, rfl⟩ := List.mem_map.mp h
      refine isControl_of_isPlain ?_
      rw [written] at hc
      simp only [List.mem_cons] at hc
      rcases hc with rfl | rfl | digit
      · decide
      · decide
      · exact isPlain_of_mem_hexDigits digit
    · rw [written, List.map_singleton, List.mem_singleton] at h
      rw [h]
      simp only [isControl, decide_eq_false_iff_not]
      omega

mutual

theorem allTexts_true (value : Json) : value.allTexts (fun _ => true) = true := by
  match value with
  | .null | .bool _ | .int _ | .float _ | .str _ => rfl
  | .arr items => exact allItemTexts_true items
  | .obj fields => exact allFieldTexts_true fields

theorem allItemTexts_true (items : List Json) : allItemTexts (fun _ => true) items = true := by
  match items with
  | [] => rfl
  | item :: items => rw [allItemTexts, allTexts_true item, allItemTexts_true items, Bool.and_true]

theorem allFieldTexts_true (fields : Fields) : allFieldTexts (fun _ => true) fields = true := by
  match fields with
  | [] => rfl
  | (name, value) :: fields =>
    rw [allFieldTexts, allTexts_true value, allFieldTexts_true fields, Bool.and_true, Bool.and_true]

end

/-- No control character stands in a written value. -/
theorem isControl_of_mem_encode {value : Json} {unit : TextUnit} (h : unit ∈ value.encode) :
    isControl unit = false := by
  let shows (unit : TextUnit) : Bool := !isControl unit
  have plain (c : Char) (h : IsPlain c) : shows (.char c) = true :=
    congrArg not (isControl_of_isPlain h)
  have strings (s : RawText) : (encodeString s).all shows = true := by
    rw [all_encodeString plain]
    exact List.all_eq_true.mpr fun written _ => List.all_eq_true.mpr fun unit member =>
      congrArg not (isControl_of_mem_escapeUnit member)
  have all : value.encode.all shows = true :=
    (all_encode plain strings value).trans (allTexts_true value)
  simpa [shows] using List.all_eq_true.mp all unit h

/-- No line ends inside of a written value. -/
theorem not_mem_toLine (value : Json) {unit : TextUnit} (h : unit ∈ value.toLine.toUnits) :
    unit ≠ .char '\n' ∧ unit ≠ .char '\r' := by
  rw [toLine, RawText.toUnits_ofUnits] at h
  have visible := isControl_of_mem_encode h
  constructor
  · rintro rfl
    cases visible
  · rintro rfl
    cases visible

end Json

end KeywordQuery
