import Mathlib.Data.List.Nodup
import KeywordQuery.Json.Writer
import KeywordQuery.Proofs.JsonReading

/-!
# Reading what was written

The reader gets a value back from its written form, unless the value holds a floating-point number,
an integer too long to be read, or an object with one name twice.

* `bare_readChars_encoded` — every string, control characters and unpaired surrogates included, is
  read back from its escapes;
* `readNumber_encodeInt` — so is every integer that has few enough digits;
* `Exact` — the values that are read back; `Exact.readsBack` and `read_toLine` say so.
-/

namespace KeywordQuery

namespace Json

open RawText (unitsOf)

/-! ### Escapes -/

theorem hexQuad?_hexDigits {n : Nat} (h : n < 0x20) :
    ∃ a b c d, Text.hexDigits 4 n = [a, b, c, d] ∧
      hexQuad? (.char a) (.char b) (.char c) (.char d) = some n := by
  have all : ∀ n < 0x20, hexQuad? (.char (Nat.digitChar (n / 16 / 16 / 16 % 16)))
      (.char (Nat.digitChar (n / 16 / 16 % 16))) (.char (Nat.digitChar (n / 16 % 16)))
      (.char (Nat.digitChar (n % 16))) = some n := by
    decide
  exact ⟨_, _, _, _, rfl, all n h⟩

/-- How a character stands inside a string: as a backslash and a letter, as a backslash and its
code point, or as it is. -/
theorem escapeChar_cases (c : Char) :
    (∃ escaped, simpleEscape? (.char escaped) = some c ∧ escapeChar c = ['\\', escaped]) ∨
    (c.toNat < 0x20 ∧ escapeChar c = '\\' :: 'u' :: Text.hexDigits 4 c.toNat) ∨
    (c ≠ '"' ∧ c ≠ '\\' ∧ 0x20 ≤ c.toNat ∧ escapeChar c = [c]) := by
  rw [escapeChar]
  split
  · next h => exact .inl ⟨'"', by rw [h]; rfl, rfl⟩
  split
  · next h => exact .inl ⟨'\\', by rw [h]; rfl, rfl⟩
  split
  · next h => exact .inl ⟨'n', by rw [h]; rfl, rfl⟩
  split
  · next h => exact .inl ⟨'r', by rw [h]; rfl, rfl⟩
  split
  · next h => exact .inl ⟨'t', by rw [h]; rfl, rfl⟩
  split
  · next h => exact .inl ⟨'b', by rw [h]; rfl, rfl⟩
  split
  · next h => exact .inl ⟨'f', by rw [h]; rfl, rfl⟩
  split
  · next control => exact .inr (.inl ⟨control, rfl⟩)
  · next quote backslash _ _ _ _ _ control =>
    exact .inr (.inr ⟨quote, backslash, Nat.le_of_not_lt control, rfl⟩)

/-- A unit is read back from its escape.  The digits of an escape never end a text, so there has to
be a next unit. -/
theorem bare_readChars_escapeUnit (unit next : TextUnit) (rest : List TextUnit) :
    bare (readChars (escapeUnit unit ++ next :: rest)) =
      (bare (readChars (next :: rest))).map (addUnit unit) := by
  cases unit with
  | half unit => exact bare_readChars_plain (by simp) (by simp) rfl _
  | char c =>
    rw [escapeUnit]
    obtain ⟨escaped, simple, h⟩ | ⟨control, h⟩ | ⟨quote, backslash, plain, h⟩ := escapeChar_cases c
    · rw [h]
      exact bare_readChars_simple simple _
    · obtain ⟨d₀, d₁, d₂, d₃, digits, quad⟩ := hexQuad?_hexDigits control
      rw [h, digits]
      have single := bare_readUnicodeEscape_single quad (by omega) next rest
      rw [Char.ofNat_toNat] at single
      exact bare_readChars_unicode single
    · rw [h]
      exact bare_readChars_plain (by simpa using quote) (by simpa using backslash)
        (by simpa [isControl] using plain) _

/-- A string is read back from its escapes. -/
theorem bare_readChars_encoded (units rest : List TextUnit) :
    bare (readChars (units.flatMap escapeUnit ++ .char '"' :: rest)) = .ok (units, rest) := by
  induction units with
  | nil => exact bare_readChars_quote rest
  | cons unit units ih =>
    obtain ⟨next, others, h⟩ :
        ∃ next others, units.flatMap escapeUnit ++ .char '"' :: rest = next :: others :=
      List.exists_cons_of_ne_nil (by simp)
    rw [List.flatMap_cons, List.append_assoc, h, bare_readChars_escapeUnit, ← h, ih]
    rfl

/-! ### Integers -/

/-- Whether a value ends here: at the end of the text, or at what stands between values. -/
def endsValue : List TextUnit → Bool
  | [] => true
  | unit :: _ => unit = .char ',' || unit = .char ']' || unit = .char '\x7d'

theorem eq_of_endsValue {unit : TextUnit} {rest : List TextUnit}
    (h : endsValue (unit :: rest) = true) :
    unit = .char ',' ∨ unit = .char ']' ∨ unit = .char '\x7d' := by
  simpa [endsValue, or_assoc] using h

theorem spanDigits_append {digits : List Char} (h : ∀ c ∈ digits, c.isDigit = true)
    {rest : List TextUnit} (stop : endsValue rest = true) :
    spanDigits (digits.map .char ++ rest) = (digits, rest) := by
  induction digits with
  | nil =>
    cases rest with
    | nil => rfl
    | cons unit rest => obtain rfl | rfl | rfl := eq_of_endsValue stop <;> rfl
  | cons c digits ih =>
    have digit : digit? (.char c) = some c := by simp [digit?, h c]
    simp only [List.map_cons, List.cons_append, spanDigits, digit,
      ih fun c hc => h c (List.mem_cons_of_mem _ hc)]

theorem readFraction_of_endsValue {rest : List TextUnit} (stop : endsValue rest = true) :
    readFraction rest = ([], rest) := by
  cases rest with
  | nil => rfl
  | cons unit rest => obtain rfl | rfl | rfl := eq_of_endsValue stop <;> rfl

theorem readExponent_of_endsValue {rest : List TextUnit} (stop : endsValue rest = true) :
    readExponent rest = (none, rest) := by
  cases rest with
  | nil => rfl
  | cons unit rest => obtain rfl | rfl | rfl := eq_of_endsValue stop <;> rfl

theorem readMagnitude_of_endsValue (whole : List Char) {rest : List TextUnit}
    (stop : endsValue rest = true) (negative : Bool) :
    readMagnitude negative whole rest =
      if maxDigits < whole.length then .error (.tooManyDigits whole.length)
      else .ok (.int (signedInt negative whole), rest) := by
  simp only [readMagnitude, readFraction_of_endsValue stop, readExponent_of_endsValue stop]
  rw [if_pos (by rfl)]

/-- No number but zero is written with a zero first. -/
theorem head?_toDigits_ne {n : Nat} (h : 0 < n) : (Nat.toDigits 10 n).head? ≠ some '0' := by
  induction n using Nat.strongRecOn with
  | ind n ih =>
    rw [Nat.toDigits_eq_if (by omega)]
    split
    · next small =>
      have all : ∀ d < 10, 0 < d → [Nat.digitChar d].head? ≠ some '0' := by decide
      exact all n small h
    · next large =>
      rw [List.head?_append_of_ne_nil _ Nat.toDigits_ne_nil]
      exact ih (n / 10) (by omega) (by omega)

theorem exists_toDigits_cons (n : Nat) :
    ∃ c digits, Nat.toDigits 10 n = c :: digits ∧ c.isDigit = true := by
  rcases h : Nat.toDigits 10 n with _ | ⟨c, digits⟩
  · exact absurd h Nat.toDigits_ne_nil
  · exact ⟨c, digits, rfl, Nat.isDigit_of_mem_toDigits (b := 10) (n := n) (by omega) (by omega)
      (h ▸ List.mem_cons_self)⟩

theorem readWhole_toDigits (n : Nat) {rest : List TextUnit} (stop : endsValue rest = true) :
    readWhole ((Nat.toDigits 10 n).map .char ++ rest) = some (Nat.toDigits 10 n, rest) := by
  obtain ⟨c, digits, h, -⟩ := exists_toDigits_cons n
  rcases Nat.eq_zero_or_pos n with rfl | positive
  · rfl
  · rw [readWhole]
    · rw [spanDigits_append (fun c hc => Nat.isDigit_of_mem_toDigits (by omega) (by omega) hc) stop]
      simp only [h]
    · intro rest' zero
      apply head?_toDigits_ne positive
      simp_all

/-- An integer is read back from its digits, if it has no more of them than are read. -/
theorem readNumber_encodeInt {n : Int} (h : (Nat.toDigits 10 n.natAbs).length ≤ maxDigits)
    {rest : List TextUnit} (stop : endsValue rest = true) :
    readNumber (encodeInt n ++ rest) = .ok (.int n, rest) := by
  have whole := readWhole_toDigits n.natAbs stop
  rcases Int.lt_or_le n 0 with negative | positive
  · rw [encodeInt, if_pos negative, List.cons_append, readNumber_minus whole,
      readMagnitude_of_endsValue _ stop, if_neg (by omega)]
    have value : signedInt true (Nat.toDigits 10 n.natAbs) = n := by
      rw [signedInt, Nat.ofDigitChars_ten_toDigits, if_pos rfl, Int.ofNat_eq_natCast]
      omega
    rw [value]
  · obtain ⟨c, digits, head, digit⟩ := exists_toDigits_cons n.natAbs
    have sign :
        ((Nat.toDigits 10 n.natAbs).map TextUnit.char ++ rest).head? ≠ some (.char '-') := by
      rw [head]
      rintro ⟨⟩
      exact absurd digit (by decide)
    rw [encodeInt, if_neg (by omega), readNumber_unsigned sign whole,
      readMagnitude_of_endsValue _ stop, if_neg (by omega)]
    have value : signedInt false (Nat.toDigits 10 n.natAbs) = n := by
      rw [signedInt, Nat.ofDigitChars_ten_toDigits, if_neg (by simp), Int.ofNat_eq_natCast]
      omega
    rw [value]

/-! ### Scalars -/

theorem readScalar_null (rest : List TextUnit) :
    readScalar (unitsOf "null" ++ rest) = .ok (.null, rest) := by
  rfl

theorem readScalar_bool (value : Bool) (rest : List TextUnit) :
    readScalar (encode (.bool value) ++ rest) = .ok (.bool value, rest) := by
  cases value with
  | false => rfl
  | true => rfl

theorem ne_of_isDigit {c d : Char} (h : c.isDigit = true) (other : d.isDigit = false) : c ≠ d := by
  rintro rfl
  rw [h] at other
  cases other

theorem readScalar_digit {c : Char} (h : c.isDigit = true) (units : List TextUnit) :
    readScalar (.char c :: units) = readNumber (.char c :: units) := by
  have ne {d : Char} (other : d.isDigit = false) : d ≠ c := (ne_of_isDigit h other).symm
  simp [readScalar, literals, unitsOf, List.isPrefixOf, ne]

theorem readScalar_minus_digit {c : Char} (h : c.isDigit = true) (units : List TextUnit) :
    readScalar (.char '-' :: .char c :: units) = readNumber (.char '-' :: .char c :: units) := by
  have ne : 'I' ≠ c := (ne_of_isDigit h rfl).symm
  simp [readScalar, literals, unitsOf, List.isPrefixOf, ne]

/-- An integer starts with a digit, or with a sign before one. -/
theorem encodeInt_cases (n : Int) :
    ∃ c units, c.isDigit = true ∧
      (encodeInt n = .char c :: units ∨ encodeInt n = .char '-' :: .char c :: units) := by
  obtain ⟨c, digits, h, digit⟩ := exists_toDigits_cons n.natAbs
  refine ⟨c, digits.map .char, digit, ?_⟩
  rw [encodeInt, h]
  split
  · exact .inr rfl
  · exact .inl rfl

theorem readScalar_encodeInt {n : Int} (h : (Nat.toDigits 10 n.natAbs).length ≤ maxDigits)
    {rest : List TextUnit} (stop : endsValue rest = true) :
    readScalar (encodeInt n ++ rest) = .ok (.int n, rest) := by
  rw [← readNumber_encodeInt h stop]
  obtain ⟨c, units, digit, unsigned | signed⟩ := encodeInt_cases n
  · rw [unsigned]
    exact readScalar_digit digit _
  · rw [signed]
    exact readScalar_minus_digit digit _

/-! ### Values from their written forms -/

/-- The values that are read back from their written form where there is this much room: those
without floating-point numbers, without integers too long to be read, without two fields of one
name, and with no more lists and objects inside of one another. -/
inductive Exact : Nat → Json → Prop where
  | null {room : Nat} : Exact room .null
  | bool {room : Nat} (value : Bool) : Exact room (.bool value)
  | int {room : Nat} {value : Int} (h : (Nat.toDigits 10 value.natAbs).length ≤ maxDigits) :
      Exact room (.int value)
  | str {room : Nat} (value : RawText) : Exact room (.str value)
  | arr {room : Nat} {items : List Json} (h : ∀ item ∈ items, Exact room item) :
      Exact (room + 1) (.arr items)
  | obj {room : Nat} {fields : Fields} (names : (fields.map (·.1)).Nodup)
      (h : ∀ field ∈ fields, Exact room field.2) : Exact (room + 1) (.obj fields)

/-- Whether a value or a name may start here: what comes is no separator and no byte-order mark,
and closes nothing. -/
def startsValue : List TextUnit → Bool
  | [] => false
  | unit :: _ =>
    !isSeparator unit && unit ≠ .char '\ufeff' && unit ≠ .char ']' && unit ≠ .char '\x7d'

theorem startsValue_append {units : List TextUnit} (h : startsValue units = true)
    (rest : List TextUnit) : startsValue (units ++ rest) = true := by
  cases units with
  | nil => simp [startsValue] at h
  | cons unit units => exact h

theorem skip_of_startsValue {units : List TextUnit} (h : startsValue units = true) :
    skip units = units := by
  cases units with
  | nil => rfl
  | cons unit units =>
    have separator : isSeparator unit = false := by simp_all [startsValue]
    exact skip_eq_self separator units

theorem head?_ne_of_startsValue {units : List TextUnit} (h : startsValue units = true) :
    units.head? ≠ some (.char '\ufeff') ∧ units.head? ≠ some (.char ']') ∧
      units.head? ≠ some (.char '\x7d') := by
  cases units with
  | nil => simp
  | cons unit units => simp_all [startsValue]

theorem past?_of_startsValue {units : List TextUnit} (h : startsValue units = true) :
    past? ']' units = none ∧ past? '\x7d' units = none := by
  obtain ⟨-, bracket, brace⟩ := head?_ne_of_startsValue h
  rw [← skip_of_startsValue h] at bracket brace
  exact ⟨past?_other bracket, past?_other brace⟩

theorem Exact.startsValue_encode {room : Nat} {value : Json} (h : Exact room value) :
    startsValue value.encode = true := by
  cases h with
  | null => rfl
  | bool value => cases value <;> rfl
  | @int _ n h =>
    rw [encode]
    obtain ⟨c, units, digit, unsigned | signed⟩ := encodeInt_cases n
    · rw [unsigned]
      have ne {d : Char} (h : d.isDigit = false) : c ≠ d := ne_of_isDigit digit h
      simp [startsValue, isSeparator, ne]
    · rw [signed]
      rfl
  | str value => rfl
  | arr h => rfl
  | obj names h => rfl

/-- The units are read as the value, whatever ends the value. -/
def ReadsBack (room : Nat) (value : Json) : Prop :=
  ∀ units rest, endsValue rest = true → skip units = value.encode ++ rest →
    bare (readValue room units) = .ok (value, rest)

section

variable {room : Nat}

theorem readsBack_scalar {value : Json} (starts : startsValue value.encode = true)
    (opens : opensValue value.encode = false)
    (h : ∀ rest, endsValue rest = true → readScalar (value.encode ++ rest) = .ok (value, rest)) :
    ReadsBack room value := by
  intro units rest stop start
  obtain ⟨unit, others, written⟩ : ∃ unit others, value.encode = unit :: others := by
    apply List.exists_cons_of_ne_nil
    intro nothing
    rw [nothing] at starts
    cases starts
  have shorter : rest.length < units.length := by
    have := length_skip_le units
    rw [start, written, List.length_append, List.length_cons] at this
    omega
  have scalar : opensValue (skip units) = false := by
    rw [start, written]
    rw [written] at opens
    exact opens
  rw [bare_readValue_scalar scalar, start, h rest stop]
  exact if_pos shorter

theorem readsBack_str (value : RawText) : ReadsBack room (.str value) := by
  intro units rest _ start
  have quote :
      skip units = .char '"' :: (value.toUnits.flatMap escapeUnit ++ .char '"' :: rest) := by
    simpa [encode, encodeString] using start
  rw [bare_readValue_string quote, bare_readChars_encoded]
  simp only [Except.map, RawText.ofUnits_toUnits]

/-! ### Lists -/

theorem startsValue_encodeItems {item : Json} (h : startsValue item.encode = true)
    (items : List Json) : startsValue (encodeItems (item :: items)) = true := by
  cases items with
  | nil => exact h
  | cons next items => exact startsValue_append h _

/-- The items of a list are read back, if each of them is. -/
theorem bare_readItems_encodeItems {items : List Json}
    (starts : ∀ item ∈ items, startsValue item.encode = true)
    (back : ∀ item ∈ items, ReadsBack room item) (ne : items ≠ []) {units rest : List TextUnit}
    (start : skip units = encodeItems items ++ .char ']' :: rest) :
    bare (readItems room units) = .ok (items, rest) := by
  induction items generalizing units with
  | nil => exact absurd rfl ne
  | cons item items ih =>
    have read := back item List.mem_cons_self
    cases items with
    | nil => exact bare_readItems_last (read units _ rfl start)
    | cons next items =>
      have space : skip (.char ' ' :: (encodeItems (next :: items) ++ .char ']' :: rest)) =
          encodeItems (next :: items) ++ .char ']' :: rest :=
        skip_of_startsValue
          (startsValue_append (startsValue_encodeItems (starts next (by simp)) items) _)
      have others := ih (fun item hi => starts item (List.mem_cons_of_mem _ hi))
        (fun item hi => back item (List.mem_cons_of_mem _ hi)) (by simp) space
      rw [bare_readItems_more (read units _ rfl (by simpa [encodeItems] using start)), others]
      rfl

theorem readsBack_arr {items : List Json}
    (starts : ∀ item ∈ items, startsValue item.encode = true)
    (back : ∀ item ∈ items, ReadsBack room item) : ReadsBack (room + 1) (.arr items) := by
  intro units rest _ start
  have bracket : skip units = .char '[' :: (encodeItems items ++ .char ']' :: rest) := by
    simpa [encode] using start
  rw [bare_readValue_list bracket]
  cases items with
  | nil =>
    have close : past? ']' (.char ']' :: rest) = some rest := past?_mark (skip_eq_self rfl rest)
    simp only [encodeItems, List.nil_append, close]
  | cons item items =>
    have first := startsValue_append
      (startsValue_encodeItems (starts item List.mem_cons_self) items) (.char ']' :: rest)
    rw [(past?_of_startsValue first).1,
      bare_readItems_encodeItems starts back (by simp) (skip_of_startsValue first)]
    rfl

/-! ### Objects -/

theorem setField_new {name : RawText} {fields : Fields} (h : name ∉ fields.map (·.1))
    (value : Json) : setField name value fields = fields ++ [(name, value)] := by
  induction fields with
  | nil => rfl
  | cons field fields ih =>
    obtain ⟨other, old⟩ := field
    simp only [List.map_cons, List.mem_cons, not_or] at h
    rw [setField, if_neg (Ne.symm h.1), ih h.2, List.cons_append]

theorem readField_encoded {name : RawText} {value : Json}
    (starts : startsValue value.encode = true) (back : ReadsBack room value)
    {units rest : List TextUnit} (stop : endsValue rest = true)
    (start : skip units =
      encodeString name ++ .char ':' :: .char ' ' :: (value.encode ++ rest)) :
    readField room units = .ok ((name, value), rest) := by
  have quote : skip units = .char '"' :: (name.toUnits.flatMap escapeUnit ++
      .char '"' :: .char ':' :: .char ' ' :: (value.encode ++ rest)) := by
    simpa [encodeString] using start
  have colon : past? ':' (.char ':' :: .char ' ' :: (value.encode ++ rest)) =
      some (.char ' ' :: (value.encode ++ rest)) := past?_mark (skip_eq_self rfl _)
  have space : skip (.char ' ' :: (value.encode ++ rest)) = value.encode ++ rest :=
    skip_of_startsValue (startsValue_append starts rest)
  rw [readField, past?_mark quote]
  simp only [bare_readChars_encoded, colon, back _ rest stop space, bind, Except.bind, pure,
    Except.pure, RawText.ofUnits_toUnits]

theorem startsValue_encodeFields (field : RawText × Json) (fields : Fields) :
    startsValue (encodeFields (field :: fields)) = true := by
  cases fields with
  | nil => rfl
  | cons next fields => rfl

/-- The fields of an object are read back, if each of their values is and no name comes twice. -/
theorem bare_readFields_encodeFields {before fields : Fields}
    (starts : ∀ field ∈ fields, startsValue field.2.encode = true)
    (back : ∀ field ∈ fields, ReadsBack room field.2) (ne : fields ≠ [])
    (names : ((before ++ fields).map (·.1)).Nodup) {units rest : List TextUnit}
    (start : skip units = encodeFields fields ++ .char '\x7d' :: rest) :
    bare (readFields room before units) = .ok (before ++ fields, rest) := by
  induction fields generalizing before units with
  | nil => exact absurd rfl ne
  | cons field fields ih =>
    obtain ⟨name, value⟩ := field
    have first := starts _ List.mem_cons_self
    have read := back _ List.mem_cons_self
    have new : name ∉ before.map (·.1) := by
      rw [List.map_append, List.map_cons] at names
      exact fun old => (List.nodup_append.mp names).2.2 name old name List.mem_cons_self rfl
    cases fields with
    | nil =>
      have field := readField_encoded first read rfl (by simpa [encodeFields] using start)
      rw [bare_readFields_last field, setField_new new]
    | cons next fields =>
      let after := encodeFields (next :: fields) ++ .char '\x7d' :: rest
      have field : readField room units = .ok ((name, value), .char ',' :: .char ' ' :: after) :=
        readField_encoded first read rfl (by simpa [encodeFields, after] using start)
      have space : skip (.char ' ' :: after) = after :=
        skip_of_startsValue (startsValue_append (startsValue_encodeFields next fields) _)
      have others : bare (readFields room (before ++ [(name, value)]) (.char ' ' :: after)) =
          .ok (before ++ [(name, value)] ++ next :: fields, rest) :=
        ih (fun field hf => starts field (List.mem_cons_of_mem _ hf))
          (fun field hf => back field (List.mem_cons_of_mem _ hf)) (by simp)
          (by simpa using names) space
      rw [bare_readFields_more field, setField_new new, others, List.append_assoc]
      rfl

theorem readsBack_obj {fields : Fields} (names : (fields.map (·.1)).Nodup)
    (starts : ∀ field ∈ fields, startsValue field.2.encode = true)
    (back : ∀ field ∈ fields, ReadsBack room field.2) : ReadsBack (room + 1) (.obj fields) := by
  intro units rest _ start
  have brace : skip units = .char '\x7b' :: (encodeFields fields ++ .char '\x7d' :: rest) := by
    simpa [encode] using start
  rw [bare_readValue_object brace]
  cases fields with
  | nil =>
    have close : past? '\x7d' (.char '\x7d' :: rest) = some rest :=
      past?_mark (skip_eq_self rfl rest)
    simp only [encodeFields, List.nil_append, close]
  | cons field fields =>
    have first := startsValue_append (startsValue_encodeFields field fields) (.char '\x7d' :: rest)
    rw [(past?_of_startsValue first).2,
      bare_readFields_encodeFields starts back (by simp) names (skip_of_startsValue first)]
    rfl

/-! ### Values -/

/-- Every exact value is read back from its written form. -/
theorem Exact.readsBack {value : Json} (h : Exact room value) : ReadsBack room value := by
  induction h with
  | null => exact readsBack_scalar rfl rfl fun rest _ => readScalar_null rest
  | @bool room value =>
    have exact : Exact room (.bool value) := .bool value
    refine readsBack_scalar exact.startsValue_encode ?_ fun rest _ => readScalar_bool value rest
    cases value with
    | false => rfl
    | true => rfl
  | @int room n h =>
    have exact : Exact room (.int n) := .int h
    refine readsBack_scalar exact.startsValue_encode ?_ fun rest stop => ?_
    · rw [encode]
      obtain ⟨c, units, digit, unsigned | signed⟩ := encodeInt_cases n
      · rw [unsigned]
        have ne {d : Char} (other : d.isDigit = false) : c ≠ d := ne_of_isDigit digit other
        simp [opensValue, ne]
      · rw [signed]
        rfl
    · rw [encode]
      exact readScalar_encodeInt h stop
  | str value => exact readsBack_str value
  | arr h ih => exact readsBack_arr (fun item hi => (h item hi).startsValue_encode) ih
  | obj names h ih =>
    exact readsBack_obj names (fun field hf => (h field hf).startsValue_encode) ih

/-- **Reading gets back what was written**, for every value without floating-point numbers, without
integers too long to be read, and without two fields of one name, that is not nested too deep. -/
theorem read_toLine {value : Json} (h : Exact room value) :
    read room value.toLine = .ok value := by
  have start : skip value.encode = value.encode ++ [] := by
    rw [List.append_nil]
    exact skip_of_startsValue h.startsValue_encode
  obtain ⟨shorter, back⟩ := exists_of_bare (h.readsBack value.encode [] rfl start)
  have mark := (head?_ne_of_startsValue h.startsValue_encode).1
  rw [read, toLine, RawText.toUnits_ofUnits, ofUnitList, if_neg mark, back]
  rfl

end

end Json

end KeywordQuery
