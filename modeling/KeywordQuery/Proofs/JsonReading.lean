import KeywordQuery.Json.Reader

/-!
# What the readers of JSON do

* `bare` — the result of a reader without the bound on what it leaves, with one equation for each
  way a reader goes on (`bare_readChars_plain`, `bare_readValue_list`, `bare_readItems`, …);
* `readField` — the field at the start of the units;
* `HasFewDigits`, `hasFewDigits_of_read` — no integer that is read has more digits than are read.
-/

namespace KeywordQuery.Json

/-! ### Readers without their bounds -/

/-- What a reader finds and what it leaves, without the bound on how much it leaves. -/
def bare {α : Type} {bound : Nat} :
    Except JsonFault (α × Rest bound) → Except JsonFault (α × List TextUnit)
  | .error fault => .error fault
  | .ok (found, rest) => .ok (found, rest.1)

theorem exists_of_bare {α : Type} {bound : Nat} {result : Except JsonFault (α × Rest bound)}
    {found : α} {rest : List TextUnit} (h : bare result = .ok (found, rest)) :
    ∃ shorter, result = .ok (found, ⟨rest, shorter⟩) := by
  rcases result with fault | ⟨found', rest', shorter⟩
  · cases h
  · obtain ⟨rfl, rfl⟩ : found' = found ∧ rest' = rest := by simpa [bare] using h
    exact ⟨shorter, rfl⟩

theorem length_lt_of_bare {α : Type} {bound : Nat} {result : Except JsonFault (α × Rest bound)}
    {found : α} {rest : List TextUnit} (h : bare result = .ok (found, rest)) :
    rest.length < bound := by
  obtain ⟨shorter, -⟩ := exists_of_bare h
  exact shorter

theorem exists_of_map_eq_ok {α β : Type} {result : Except JsonFault α} {f : α → β} {b : β}
    (h : result.map f = .ok b) : ∃ a, result = .ok a ∧ f a = b := by
  rcases result with fault | a
  · cases h
  · exact ⟨a, rfl, by simpa [Except.map] using h⟩

theorem skip_eq_self {unit : TextUnit} (h : isSeparator unit = false) (rest : List TextUnit) :
    skip (unit :: rest) = unit :: rest := by
  rw [skip, List.dropWhile_cons_of_neg (by simp [h])]

/-- The units after `mark`, without the bound on how many they are. -/
def past? (mark : Char) (units : List TextUnit) : Option (List TextUnit) :=
  (after? mark units).map (·.1)

theorem length_lt_of_past? {mark : Char} {units rest : List TextUnit}
    (h : past? mark units = some rest) : rest.length < units.length := by
  obtain ⟨⟨rest', shorter⟩, -, rfl⟩ := Option.map_eq_some_iff.mp h
  exact shorter

theorem past?_mark {mark : Char} {units rest : List TextUnit}
    (h : skip units = .char mark :: rest) : past? mark units = some rest := by
  rw [past?, after?]
  split
  · simp_all
  · next unit rest' h' =>
    obtain ⟨rfl, rfl⟩ : unit = .char mark ∧ rest' = rest := by simpa [h'] using h
    simp

theorem past?_other {mark : Char} {units : List TextUnit}
    (h : (skip units).head? ≠ some (.char mark)) : past? mark units = none := by
  rw [past?, after?]
  split
  · rfl
  · next unit rest h' =>
    rw [if_neg]
    · rfl
    · rintro rfl
      exact h (by rw [h']; rfl)

/-! ### Strings -/

theorem bare_readChars_quote (rest : List TextUnit) :
    bare (readChars (.char '"' :: rest)) = .ok ([], rest) := by
  rw [readChars]
  rfl

/-- One more unit before the units of a string. -/
def addUnit (unit : TextUnit) (found : List TextUnit × List TextUnit) :
    List TextUnit × List TextUnit :=
  (unit :: found.1, found.2)

theorem bare_readChars_plain {unit : TextUnit} (quote : unit ≠ .char '"')
    (backslash : unit ≠ .char '\\') (control : isControl unit = false) (rest : List TextUnit) :
    bare (readChars (unit :: rest)) = (bare (readChars rest)).map (addUnit unit) := by
  rw [readChars]
  · rw [if_neg (by simp [control])]
    rcases readChars rest with fault | ⟨units, rest', shorter⟩
    · rfl
    · rfl
  · exact fun h => quote h
  · exact fun h => absurd h backslash
  · exact fun _ h => absurd h backslash
  · exact fun _ _ h => absurd h backslash

theorem bare_readChars_simple {escaped : TextUnit} {c : Char}
    (h : simpleEscape? escaped = some c) (rest : List TextUnit) :
    bare (readChars (.char '\\' :: escaped :: rest)) =
      (bare (readChars rest)).map (addUnit (.char c)) := by
  rw [readChars]
  · rw [h]
    rcases readChars rest with fault | ⟨units, rest', shorter⟩
    · rfl
    · rfl
  · rintro rfl
    simp [simpleEscape?] at h

theorem bare_readChars_unicode {units rest : List TextUnit} {unit : TextUnit}
    (h : bare (readUnicodeEscape units) = .ok (unit, rest)) :
    bare (readChars (.char '\\' :: .char 'u' :: units)) =
      (bare (readChars rest)).map (addUnit unit) := by
  obtain ⟨shorter, escape⟩ := exists_of_bare h
  rw [readChars, escape]
  rcases chars : readChars rest with fault | ⟨others, rest', shorter'⟩
  · simp only [chars, bare, Except.map]
  · simp only [chars, bare, Except.map, addUnit]

theorem bare_readUnicodeEscape_single {a b c d : TextUnit} {n : Nat}
    (quad : hexQuad? a b c d = some n) (h : n < 0xD800) (next : TextUnit)
    (rest : List TextUnit) :
    bare (readUnicodeEscape (a :: b :: c :: d :: next :: rest)) =
      .ok (.char (Char.ofNat n), next :: rest) := by
  have high : isHighSurrogate n = false := by simp [isHighSurrogate]; omega
  have low : isLowSurrogate n = false := by simp [isLowSurrogate]; omega
  simp only [readUnicodeEscape, quad, high, low, bare, Bool.false_eq_true, if_false]

/-! ### Numbers -/

theorem readNumber_minus {units rest : List TextUnit} {whole : List Char}
    (h : readWhole units = some (whole, rest)) :
    readNumber (.char '-' :: units) = readMagnitude true whole rest := by
  unfold readNumber
  simp only [h]

theorem readNumber_unsigned {units rest : List TextUnit} {whole : List Char}
    (sign : units.head? ≠ some (.char '-')) (h : readWhole units = some (whole, rest)) :
    readNumber units = readMagnitude false whole rest := by
  unfold readNumber
  split
  · next negative magnitude split =>
    split at split
    · exact absurd rfl sign
    · obtain ⟨rfl, rfl⟩ : false = negative ∧ units = magnitude := by simpa using split
      rw [h]

/-! ### Values -/

section

variable {room : Nat}

theorem bare_readValue_string {units rest : List TextUnit} (h : skip units = .char '"' :: rest) :
    bare (readValue room units) =
      (bare (readChars rest)).map fun found => (.str (.ofUnits found.1), found.2) := by
  rw [readValue]
  split
  · next rest' h' =>
    obtain rfl : rest' = rest := by simpa [h'] using h
    rcases readChars rest' with fault | ⟨chars, rest'', shorter⟩
    · rfl
    · rfl
  all_goals simp_all

theorem bare_readValue_deepList {units rest : List TextUnit}
    (h : skip units = .char '[' :: rest) :
    bare (readValue 0 units) = .error (.tooDeep .array) := by
  rw [readValue]
  split
  · simp_all
  · rfl
  all_goals simp_all

theorem bare_readValue_deepObject {units rest : List TextUnit}
    (h : skip units = .char '\x7b' :: rest) :
    bare (readValue 0 units) = .error (.tooDeep .object) := by
  rw [readValue]
  split
  · simp_all
  · simp_all
  · rfl
  all_goals simp_all

theorem bare_readValue_list {units rest : List TextUnit} (h : skip units = .char '[' :: rest) :
    bare (readValue (room + 1) units) =
      match past? ']' rest with
      | some rest' => .ok (.arr [], rest')
      | none => (bare (readItems room rest)).map fun found => (.arr found.1, found.2) := by
  rw [readValue]
  split
  · simp_all
  · next rest' h' =>
    obtain rfl : rest' = rest := by simpa [h'] using h
    dsimp only
    rw [past?]
    rcases after? ']' rest' with _ | ⟨rest'', shorter⟩
    · rcases readItems room rest' with fault | ⟨items, rest'', shorter⟩
      · rfl
      · rfl
    · rfl
  all_goals simp_all

theorem bare_readValue_object {units rest : List TextUnit}
    (h : skip units = .char '\x7b' :: rest) :
    bare (readValue (room + 1) units) =
      match past? '\x7d' rest with
      | some rest' => .ok (.obj [], rest')
      | none => (bare (readFields room [] rest)).map fun found => (.obj found.1, found.2) := by
  rw [readValue]
  split
  · simp_all
  · simp_all
  · next rest' h' =>
    obtain rfl : rest' = rest := by simpa [h'] using h
    dsimp only
    rw [past?]
    rcases after? '\x7d' rest' with _ | ⟨rest'', shorter⟩
    · rcases readFields room [] rest' with fault | ⟨fields, rest'', shorter⟩
      · rfl
      · rfl
    · rfl
  all_goals simp_all

/-- Whether the units start a string, a list or an object. -/
def opensValue : List TextUnit → Bool
  | [] => false
  | unit :: _ => unit = .char '"' || unit = .char '[' || unit = .char '\x7b'

theorem opensValue_cases {units : List TextUnit} (h : opensValue units = true) :
    ∃ rest, units = .char '"' :: rest ∨ units = .char '[' :: rest ∨
      units = .char '\x7b' :: rest := by
  cases units with
  | nil => cases h
  | cons unit rest => exact ⟨rest, by simpa [opensValue, or_assoc] using h⟩

theorem bare_readValue_scalar {units : List TextUnit} (h : opensValue (skip units) = false) :
    bare (readValue room units) =
      (readScalar (skip units) >>= fun found =>
        if found.2.length < units.length then .ok found else .error .expectingValue) := by
  rw [readValue]
  split
  · simp_all [opensValue]
  · simp_all [opensValue]
  · simp_all [opensValue]
  · rcases readScalar (skip units) with fault | ⟨value, rest⟩
    · rfl
    · show bare (if _ : rest.length < units.length then _ else _) = if _ then _ else _
      split
      · rfl
      · rfl

theorem bare_readItems (units : List TextUnit) :
    bare (readItems room units) =
      (bare (readValue room units) >>= fun found =>
        match past? ']' found.2 with
        | some rest => .ok ([found.1], rest)
        | none =>
          match past? ',' found.2 with
          | none => .error .expectingComma
          | some rest => (bare (readItems room rest)).map fun others =>
              (found.1 :: others.1, others.2)) := by
  rw [readItems]
  rcases readValue room units with fault | ⟨item, rest, shorter⟩
  · rfl
  · simp only [bare, past?, bind, Except.bind]
    rcases after? ']' rest with _ | ⟨rest', shorter'⟩
    · rcases after? ',' rest with _ | ⟨rest', shorter'⟩
      · rfl
      · rcases h : readItems room rest' with fault | ⟨items, rest'', shorter''⟩
        · simp [h, Except.map]
        · simp [h, Except.map]
    · rfl

theorem bare_readItems_last {units rest : List TextUnit} {item : Json}
    (h : bare (readValue room units) = .ok (item, .char ']' :: rest)) :
    bare (readItems room units) = .ok ([item], rest) := by
  have close : past? ']' (.char ']' :: rest) = some rest := past?_mark (skip_eq_self rfl rest)
  rw [bare_readItems, h]
  simp only [bind, Except.bind, close]

theorem bare_readItems_more {units rest : List TextUnit} {item : Json}
    (h : bare (readValue room units) = .ok (item, .char ',' :: rest)) :
    bare (readItems room units) =
      (bare (readItems room rest)).map fun others => (item :: others.1, others.2) := by
  have skipped : skip (.char ',' :: rest) = .char ',' :: rest := skip_eq_self rfl rest
  have close : past? ']' (.char ',' :: rest) = none := past?_other (by simp [skipped])
  rw [bare_readItems, h]
  simp only [bind, Except.bind, close, past?_mark skipped]

/-- The field at the start of the units. -/
def readField (room : Nat) (units : List TextUnit) :
    Except JsonFault ((RawText × Json) × List TextUnit) :=
  match past? '"' units with
  | none => .error .expectingName
  | some nameStart => do
    let (name, nameEnd) ← bare (readChars nameStart)
    match past? ':' nameEnd with
    | none => .error .expectingColon
    | some valueStart => do
      let (value, rest) ← bare (readValue room valueStart)
      return ((.ofUnits name, value), rest)

theorem bare_readFields (before : Fields) (units : List TextUnit) :
    bare (readFields room before units) =
      (readField room units >>= fun found =>
        let fields := setField found.1.1 found.1.2 before
        match past? '\x7d' found.2 with
        | some rest => .ok (fields, rest)
        | none =>
          match past? ',' found.2 with
          | none => .error .expectingComma
          | some rest => bare (readFields room fields rest)) := by
  rw [readFields, readField, past?]
  rcases after? '"' units with _ | ⟨nameStart, _⟩
  · rfl
  · simp only [Option.map_some]
    rcases readChars nameStart with fault | ⟨name, nameEnd, _⟩
    · rfl
    · simp only [bare, bind, Except.bind, past?]
      rcases after? ':' nameEnd with _ | ⟨valueStart, _⟩
      · rfl
      · simp only [Option.map_some]
        rcases readValue room valueStart with fault | ⟨value, rest, _⟩
        · rfl
        · simp only [pure, Except.pure]
          rcases after? '\x7d' rest with _ | ⟨rest', _⟩
          · rcases after? ',' rest with _ | ⟨rest', _⟩
            · rfl
            · simp only [Option.map_none, Option.map_some]
              rcases readFields room (setField (.ofUnits name) value before) rest' with
                fault | ⟨fields, rest'', _⟩
              · rfl
              · rfl
          · rfl

theorem bare_readFields_last {before : Fields} {units rest : List TextUnit} {name : RawText}
    {value : Json} (h : readField room units = .ok ((name, value), .char '\x7d' :: rest)) :
    bare (readFields room before units) = .ok (setField name value before, rest) := by
  have close : past? '\x7d' (.char '\x7d' :: rest) = some rest :=
    past?_mark (skip_eq_self rfl rest)
  rw [bare_readFields, h]
  simp only [bind, Except.bind, close]

theorem bare_readFields_more {before : Fields} {units rest : List TextUnit} {name : RawText}
    {value : Json} (h : readField room units = .ok ((name, value), .char ',' :: rest)) :
    bare (readFields room before units) =
      bare (readFields room (setField name value before) rest) := by
  have skipped : skip (.char ',' :: rest) = .char ',' :: rest := skip_eq_self rfl rest
  have close : past? '\x7d' (.char ',' :: rest) = none := past?_other (by simp [skipped])
  rw [bare_readFields, h]
  simp only [bind, Except.bind, close, past?_mark skipped]

end

/-! ### The integers that are read -/

/-- No integer in the value has more digits than are read. -/
inductive HasFewDigits : Json → Prop where
  | null : HasFewDigits .null
  | bool (value : Bool) : HasFewDigits (.bool value)
  | int {value : Int} (h : (Nat.toDigits 10 value.natAbs).length ≤ maxDigits) :
      HasFewDigits (.int value)
  | float (value : Binary64) : HasFewDigits (.float value)
  | str (value : RawText) : HasFewDigits (.str value)
  | arr {items : List Json} (h : ∀ item ∈ items, HasFewDigits item) : HasFewDigits (.arr items)
  | obj {fields : Fields} (h : ∀ field ∈ fields, HasFewDigits field.2) :
      HasFewDigits (.obj fields)

theorem ofDigitChars_lt {digits : List Char} (h : ∀ c ∈ digits, c.isDigit = true) (init : Nat) :
    Nat.ofDigitChars 10 digits init < Nat.pow 10 digits.length * (init + 1) := by
  induction digits generalizing init with
  | nil =>
    show init < 1 * (init + 1)
    omega
  | cons c digits ih =>
    have digit : c.toNat - '0'.toNat < 10 := by
      have := (Char.isDigit_iff_toNat.mp (h c List.mem_cons_self)).2
      simp only [Char.reduceToNat] at this ⊢
      omega
    have others := ih (fun c hc => h c (List.mem_cons_of_mem _ hc))
      (10 * init + (c.toNat - '0'.toNat))
    rw [Nat.ofDigitChars_cons]
    calc _ < Nat.pow 10 digits.length * (10 * init + (c.toNat - '0'.toNat) + 1) := others
      _ ≤ Nat.pow 10 digits.length * (10 * (init + 1)) := Nat.mul_le_mul_left _ (by omega)
      _ = Nat.pow 10 digits.length * 10 * (init + 1) := (Nat.mul_assoc _ _ _).symm
      _ = Nat.pow 10 (c :: digits).length * (init + 1) := rfl

theorem length_toDigits_ofDigitChars_le {digits : List Char}
    (h : ∀ c ∈ digits, c.isDigit = true) {bound : Nat} (positive : 0 < bound)
    (short : digits.length ≤ bound) :
    (Nat.toDigits 10 (Nat.ofDigitChars 10 digits 0)).length ≤ bound := by
  rw [Nat.length_toDigits_le_iff (by omega) positive]
  calc _ < Nat.pow 10 digits.length * (0 + 1) := ofDigitChars_lt h 0
    _ = Nat.pow 10 digits.length := Nat.mul_one _
    _ ≤ Nat.pow 10 bound := Nat.pow_le_pow_right (by omega) short

theorem digit?_eq_some_iff {unit : TextUnit} {c : Char} :
    digit? unit = some c ↔ unit = .char c ∧ c.isDigit = true := by
  cases unit with
  | half unit => simp [digit?]
  | char d =>
    simp only [digit?, Option.ite_none_right_eq_some, Option.some.injEq, TextUnit.char.injEq]
    constructor
    · rintro ⟨digit, rfl⟩
      exact ⟨rfl, digit⟩
    · rintro ⟨rfl, digit⟩
      exact ⟨digit, rfl⟩

theorem isDigit_of_mem_spanDigits {units : List TextUnit} {c : Char}
    (h : c ∈ (spanDigits units).1) : c.isDigit = true := by
  fun_induction spanDigits units with
  | case1 => cases h
  | case2 => cases h
  | case3 unit rest d digit digits after later ih =>
    rw [later] at ih
    rcases List.mem_cons.mp h with rfl | others
    · exact (digit?_eq_some_iff.mp digit).2
    · exact ih others

theorem isDigit_of_mem_readWhole {units rest : List TextUnit} {whole : List Char}
    (h : readWhole units = some (whole, rest)) : ∀ c ∈ whole, c.isDigit = true := by
  unfold readWhole at h
  split at h
  · obtain ⟨rfl, -⟩ : ['0'] = whole ∧ _ = rest := by simpa using h
    simp
  · split at h
    · cases h
    · obtain same : spanDigits units = (whole, rest) := by simpa using h
      intro c hc
      exact isDigit_of_mem_spanDigits (by rwa [same])

theorem hasFewDigits_of_readMagnitude {negative : Bool} {whole : List Char}
    {rest after : List TextUnit} {value : Json} (digits : ∀ c ∈ whole, c.isDigit = true)
    (h : readMagnitude negative whole rest = .ok (value, after)) : HasFewDigits value := by
  simp only [readMagnitude] at h
  split at h
  · split at h
    · cases h
    · next short =>
      obtain ⟨rfl, rfl⟩ : Json.int (signedInt negative whole) = value ∧ _ = after := by
        simpa using h
      have magnitude : (signedInt negative whole).natAbs = Nat.ofDigitChars 10 whole 0 := by
        rw [signedInt]
        split <;> simp
      apply HasFewDigits.int
      rw [magnitude]
      exact length_toDigits_ofDigitChars_le digits (by decide) (by omega)
  · obtain ⟨rfl, -⟩ : Json.float _ = value ∧ _ = after := by simpa using h
    exact .float _

theorem hasFewDigits_of_readScalar {units rest : List TextUnit} {value : Json}
    (h : readScalar units = .ok (value, rest)) : HasFewDigits value := by
  rw [readScalar] at h
  split at h
  · next word literal found =>
    obtain ⟨rfl, -⟩ : literal = value ∧ _ = rest := by simpa using h
    have all : ∀ entry ∈ literals, HasFewDigits entry.2 := by
      simp [literals, HasFewDigits.null, HasFewDigits.bool, HasFewDigits.float]
    exact all _ (List.mem_of_find?_eq_some found)
  · unfold readNumber at h
    split at h
    split at h
    · cases h
    · next whole rest' found =>
      exact hasFewDigits_of_readMagnitude (isDigit_of_mem_readWhole found) h

theorem exists_of_readField {room : Nat} {units rest : List TextUnit} {field : RawText × Json}
    (h : readField room units = .ok (field, rest)) :
    rest.length < units.length ∧ ∃ start, start.length < units.length ∧
      bare (readValue room start) = .ok (field.2, rest) := by
  rw [readField] at h
  split at h
  · cases h
  · next nameStart quote =>
    rcases chars : bare (readChars nameStart) with fault | ⟨name, nameEnd⟩
    · rw [chars] at h
      cases h
    rw [chars] at h
    simp only [bind, Except.bind] at h
    split at h
    · cases h
    · next start colon =>
      rcases value : bare (readValue room start) with fault | ⟨value', after⟩
      · rw [value] at h
        cases h
      rw [value] at h
      obtain ⟨rfl, rfl⟩ : (RawText.ofUnits name, value') = field ∧ after = rest := by
        simpa [pure, Except.pure] using h
      have := length_lt_of_past? quote
      have := length_lt_of_past? colon
      have := length_lt_of_bare chars
      have := length_lt_of_bare value
      exact ⟨by omega, start, by omega, value⟩

theorem mem_setField {name : RawText} {value : Json} {fields : Fields} {field : RawText × Json}
    (h : field ∈ setField name value fields) : field ∈ fields ∨ field = (name, value) := by
  induction fields with
  | nil => simp_all [setField]
  | cons other fields ih =>
    rw [setField] at h
    split at h
    · next same =>
      rcases List.mem_cons.mp h with rfl | old
      · exact .inr (by rw [same])
      · exact .inl (List.mem_cons_of_mem _ old)
    · rcases List.mem_cons.mp h with rfl | later
      · exact .inl List.mem_cons_self
      · exact (ih later).imp_left (List.mem_cons_of_mem _)

-- The readers call each other.  A list and its first item start at the same unit, and so the items
-- of a list count for more than a value there.
mutual

theorem hasFewDigits_of_readValue {room : Nat} {units rest : List TextUnit} {value : Json}
    (h : bare (readValue room units) = .ok (value, rest)) : HasFewDigits value := by
  rcases opens : opensValue (skip units)
  · rw [bare_readValue_scalar opens] at h
    rcases scalar : readScalar (skip units) with fault | ⟨found, after⟩
    · rw [scalar] at h
      cases h
    · rw [scalar] at h
      simp only [bind, Except.bind] at h
      split at h
      · obtain ⟨rfl, -⟩ : found = value ∧ after = rest := by simpa using h
        exact hasFewDigits_of_readScalar scalar
      · cases h
  · obtain ⟨after, quote | bracket | brace⟩ := opensValue_cases opens
    · rw [bare_readValue_string quote] at h
      obtain ⟨found, -, same⟩ := exists_of_map_eq_ok h
      obtain ⟨rfl, -⟩ := Prod.mk.inj same
      exact .str _
    · have shorter := length_lt_of_skip bracket
      obtain _ | room := room
      · rw [bare_readValue_deepList bracket] at h
        cases h
      rw [bare_readValue_list bracket] at h
      split at h
      · obtain ⟨rfl, -⟩ : Json.arr [] = value ∧ _ = rest := by simpa using h
        exact .arr (by simp)
      · obtain ⟨⟨items, rest'⟩, found, same⟩ := exists_of_map_eq_ok h
        obtain ⟨rfl, -⟩ := Prod.mk.inj same
        exact .arr (hasFewDigits_of_readItems found)
    · have shorter := length_lt_of_skip brace
      obtain _ | room := room
      · rw [bare_readValue_deepObject brace] at h
        cases h
      rw [bare_readValue_object brace] at h
      split at h
      · obtain ⟨rfl, -⟩ : Json.obj [] = value ∧ _ = rest := by simpa using h
        exact .obj (by simp)
      · obtain ⟨⟨fields, rest'⟩, found, same⟩ := exists_of_map_eq_ok h
        obtain ⟨rfl, -⟩ := Prod.mk.inj same
        exact .obj (hasFewDigits_of_readFields found (by simp))
termination_by (units.length, 0)

theorem hasFewDigits_of_readItems {room : Nat} {units rest : List TextUnit} {items : List Json}
    (h : bare (readItems room units) = .ok (items, rest)) :
    ∀ item ∈ items, HasFewDigits item := by
  rw [bare_readItems] at h
  rcases read : bare (readValue room units) with fault | ⟨item, after⟩
  · rw [read] at h
    cases h
  · have first := hasFewDigits_of_readValue read
    have shorter := length_lt_of_bare read
    rw [read] at h
    simp only [bind, Except.bind] at h
    split at h
    · obtain ⟨rfl, -⟩ : [item] = items ∧ _ = rest := by simpa using h
      simpa using first
    · split at h
      · cases h
      · next rest' comma =>
        have shorter' := length_lt_of_past? comma
        obtain ⟨⟨others, rest''⟩, found, same⟩ := exists_of_map_eq_ok h
        obtain ⟨rfl, -⟩ := Prod.mk.inj same
        exact List.forall_mem_cons.mpr ⟨first, hasFewDigits_of_readItems found⟩
termination_by (units.length, 1)

theorem hasFewDigits_of_readFields {room : Nat} {before all : Fields}
    {units rest : List TextUnit} (h : bare (readFields room before units) = .ok (all, rest))
    (old : ∀ field ∈ before, HasFewDigits field.2) : ∀ field ∈ all, HasFewDigits field.2 := by
  rw [bare_readFields] at h
  rcases read : readField room units with fault | ⟨⟨name, value⟩, after⟩
  · rw [read] at h
    cases h
  · obtain ⟨shorter, start, earlier, found⟩ := exists_of_readField read
    have new : ∀ field ∈ setField name value before, HasFewDigits field.2 := by
      intro field hf
      rcases mem_setField hf with hold | rfl
      · exact old field hold
      · exact hasFewDigits_of_readValue found
    rw [read] at h
    simp only [bind, Except.bind] at h
    split at h
    · obtain ⟨rfl, -⟩ : setField name value before = all ∧ _ = rest := by simpa using h
      exact new
    · split at h
      · cases h
      · next rest' comma =>
        have shorter' := length_lt_of_past? comma
        exact hasFewDigits_of_readFields h new
termination_by (units.length, 0)

end

/-- No integer in a value that is read has more digits than are read. -/
theorem hasFewDigits_of_read {nesting : Nat} {text : RawText} {value : Json}
    (h : read nesting text = .ok value) : HasFewDigits value := by
  rw [read, ofUnitList] at h
  split at h
  · cases h
  · rcases found : readValue nesting text.toUnits with fault | ⟨value', rest, shorter⟩
    · rw [found] at h
      cases h
    · rw [found] at h
      simp only at h
      split at h
      · obtain rfl : value' = value := by simpa using h
        exact hasFewDigits_of_readValue (by rw [found]; rfl)
      · cases h

end KeywordQuery.Json
