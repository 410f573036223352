import Mathlib.Data.List.Infix
import KeywordQuery.Proofs.JsonRoundTrip

/-!
# The limits of the reader

A reader of JSON leaves the end of what it gets and takes what comes before it apart without looking
at anything twice.  So when it finds an integer that is too long, the digits of the integer stand in
the text, one behind the other; and when there is no room for a list or an object, the text opens
more of them than there was room for.

* `HoldsDigits` — texts with so many digits in a row; `openings` — how many brackets a text opens;
* `Within` — what every reader keeps to, with one lemma for each way in which readers are put
  together (`Within.mono`, `Within.map`, `Within.bind`, `Within.inside`);
* `within_readChars`, `within_readScalar`, `within_readValue` — the readers keep to it;
* `holdsDigits_of_read`, `lt_openings_of_read` — what a text holds that exceeds a limit;
* `IsLongInteger` — the digits for which objects are refused, `IsLongInteger.read_eq`;
* `read_deep` — objects that are refused for the lists in them.
-/

namespace KeywordQuery.Json

/-! ### What readers keep to -/

/-- The units hold so many digits in a row. -/
def HoldsDigits (count : Nat) (units : List TextUnit) : Prop :=
  ∃ digits : List Char, digits.length = count ∧ (∀ c ∈ digits, c.isDigit = true) ∧
    digits.map .char <:+: units

theorem HoldsDigits.mono {count : Nat} {part units : List TextUnit} (h : HoldsDigits count part)
    (infix' : part <:+: units) : HoldsDigits count units := by
  obtain ⟨digits, length, all, block⟩ := h
  exact ⟨digits, length, all, block.trans infix'⟩

/-- Whether the unit opens a list or an object. -/
def isOpening (unit : TextUnit) : Bool := unit = .char '[' || unit = .char '\x7b'

/-- How many brackets the units open. -/
def openings (units : List TextUnit) : Nat := units.countP isOpening

/-- What is left of the units is their end; an integer that is too long stands in them; and where
there is no room for a list or an object, they open more brackets than there is room for. -/
def Within {α : Type} (room : Nat) (units : List TextUnit) :
    Except JsonFault (α × List TextUnit) → Prop
  | .ok (_, rest) => rest <:+ units
  | .error (.tooManyDigits count) => maxDigits < count ∧ HoldsDigits count units
  | .error (.tooDeep _) => room < openings units
  | .error _ => True

namespace Within

variable {α β : Type} {room : Nat} {part units : List TextUnit}

theorem mono {result : Except JsonFault (α × List TextUnit)} (h : Within room part result)
    (suffix : part <:+ units) : Within room units result := by
  rcases result with fault | ⟨found, rest⟩
  · cases fault with
    | tooManyDigits count => exact ⟨h.1, h.2.mono suffix.isInfix⟩
    | tooDeep group => exact Nat.lt_of_lt_of_le h (suffix.sublist.countP_le)
    | _ => trivial
  · exact List.IsSuffix.trans h suffix

theorem map {result : Except JsonFault (α × List TextUnit)} (h : Within room units result)
    (f : α → β) : Within room units (result.map fun found => (f found.1, found.2)) := by
  rcases result with fault | ⟨found, rest⟩
  · cases fault with
    | tooManyDigits count => exact h
    | tooDeep group => exact h
    | _ => trivial
  · exact h

theorem bind {result : Except JsonFault (α × List TextUnit)} (h : Within room units result)
    {next : α × List TextUnit → Except JsonFault (β × List TextUnit)}
    (h' : ∀ found rest, result = .ok (found, rest) → Within room rest (next (found, rest))) :
    Within room units (result >>= next) := by
  rcases result with fault | ⟨found, rest⟩
  · cases fault with
    | tooManyDigits count => exact h
    | tooDeep group => exact h
    | _ => trivial
  · exact (h' found rest rfl).mono h

/-- A bracket takes room from what stands behind it. -/
theorem inside {result : Except JsonFault (α × List TextUnit)} (h : Within room part result)
    {unit : TextUnit} (opening : isOpening unit = true) :
    Within (room + 1) (unit :: part) result := by
  rcases result with fault | ⟨found, rest⟩
  · cases fault with
    | tooManyDigits count => exact ⟨h.1, h.2.mono (List.suffix_cons unit part).isInfix⟩
    | tooDeep group =>
      show room + 1 < openings (unit :: part)
      rw [openings, List.countP_cons_of_pos opening]
      exact Nat.succ_lt_succ h
    | _ => trivial
  · exact List.IsSuffix.trans h (List.suffix_cons unit part)

end Within

theorem skip_suffix (units : List TextUnit) : skip units <:+ units :=
  List.dropWhile_suffix isSeparator

theorem suffix_of_skip {units rest : List TextUnit} {unit : TextUnit}
    (h : skip units = unit :: rest) : rest <:+ units := by
  have skipped := skip_suffix units
  rw [h] at skipped
  exact (List.suffix_cons unit rest).trans skipped

theorem suffix_of_past? {mark : Char} {units rest : List TextUnit}
    (h : past? mark units = some rest) : rest <:+ units := by
  rw [past?, after?] at h
  split at h
  · cases h
  · next unit rest' skipped =>
    split at h
    · obtain rfl : rest' = rest := by simpa using h
      exact suffix_of_skip skipped
    · cases h

/-! ### Strings -/

theorem suffix_of_readLowSurrogate {units : List TextUnit} {found : Nat × Rest units.length}
    (h : readLowSurrogate units = .ok (some found)) : found.2.1 <:+ units := by
  unfold readLowSurrogate at h
  split at h
  · next a b c d next rest =>
    split at h
    · cases h
    · split at h
      · cases h
        exact List.suffix_append [.char '\\', .char 'u', a, b, c, d] (next :: rest)
      · cases h
  · cases h

theorem readLowSurrogate_fault {units : List TextUnit} {fault : JsonFault}
    (h : readLowSurrogate units = .error fault) : fault = .badUnicodeEscape := by
  unfold readLowSurrogate at h
  split at h
  · split at h
    · cases h
      rfl
    · split at h
      · cases h
      · cases h
  · cases h

theorem within_readUnicodeEscape (room : Nat) (units : List TextUnit) :
    Within room units (bare (readUnicodeEscape units)) := by
  unfold readUnicodeEscape
  split
  · next a b c d next rest =>
    have digits : next :: rest <:+ a :: b :: c :: d :: next :: rest :=
      List.suffix_append [a, b, c, d] (next :: rest)
    split
    · trivial
    · split
      · split
        · next fault low =>
          obtain rfl := readLowSurrogate_fault low
          trivial
        · exact digits
        · next low rest' shorter found => exact (suffix_of_readLowSurrogate found).trans digits
      · exact digits
  · trivial

-- Each escape is followed by what the rest of the string gives, be it found or refused.
theorem within_readChars (room : Nat) (units : List TextUnit) :
    Within room units (bare (readChars units)) := by
  fun_induction readChars units with
  | case1 => trivial
  | case2 rest => exact List.suffix_cons _ rest
  | case3 => trivial
  | case4 rest fault escape =>
    have within := within_readUnicodeEscape room rest
    rw [escape] at within
    exact (within.map fun _ => []).mono (List.suffix_append [_, _] rest)
  | case5 rest unit rest' shorter escape fault later ih
  | case6 rest unit rest' shorter escape others rest'' shorter' later ih =>
    have within := within_readUnicodeEscape room rest
    rw [escape] at within
    rw [later] at ih
    exact (ih.mono within).mono (List.suffix_append [_, _] rest)
  | case7 => trivial
  | case8 escaped rest _ c simple fault later ih
  | case9 escaped rest _ c simple others rest' shorter later ih =>
    rw [later] at ih
    exact ih.mono (List.suffix_append [_, _] rest)
  | case10 => trivial
  | case11 unit rest _ _ _ _ control fault later ih
  | case12 unit rest _ _ _ _ control others rest' shorter later ih =>
    rw [later] at ih
    exact ih.mono (List.suffix_cons unit rest)

/-! ### Numbers -/

/-- Digits are taken from the start of the units. -/
theorem spanDigits_split (units : List TextUnit) :
    (spanDigits units).1.map .char ++ (spanDigits units).2 = units := by
  fun_induction spanDigits units with
  | case1 => rfl
  | case2 => rfl
  | case3 unit rest c digit digits after later ih =>
    rw [later] at ih
    obtain ⟨rfl, -⟩ := digit?_eq_some_iff.mp digit
    exact congrArg (TextUnit.char c :: ·) ih

theorem spanDigits_suffix (units : List TextUnit) : (spanDigits units).2 <:+ units :=
  ⟨_, spanDigits_split units⟩

theorem readWhole_split {units rest : List TextUnit} {whole : List Char}
    (h : readWhole units = some (whole, rest)) : whole.map .char ++ rest = units := by
  unfold readWhole at h
  split at h
  · obtain ⟨rfl, rfl⟩ : ['0'] = whole ∧ _ = rest := by simpa using h
    rfl
  · split at h
    · cases h
    · obtain same : spanDigits units = (whole, rest) := by simpa using h
      have split := spanDigits_split units
      rwa [same] at split

theorem readFraction_suffix (units : List TextUnit) : (readFraction units).2 <:+ units := by
  unfold readFraction
  split
  · next rest =>
    split
    · exact List.suffix_rfl
    · next digits after _ span =>
      have left := spanDigits_suffix rest
      rw [span] at left
      exact left.trans (List.suffix_cons _ rest)
  · exact List.suffix_rfl

theorem readExponent_suffix (units : List TextUnit) : (readExponent units).2 <:+ units := by
  unfold readExponent
  split
  · next e rest =>
    split
    · split
      next negative digits sign =>
      have signed : digits <:+ rest := by
        split at sign
        · cases sign
          exact List.suffix_cons _ digits
        · cases sign
          exact List.suffix_cons _ digits
        · cases sign
          exact List.suffix_rfl
      split
      · exact List.suffix_rfl
      · next run after _ span =>
        have left := spanDigits_suffix digits
        rw [span] at left
        exact (left.trans signed).trans (List.suffix_cons _ rest)
    · exact List.suffix_rfl
  · exact List.suffix_rfl

/-- This is the one place where an integer is refused: its digits come before what is left. -/
theorem within_readMagnitude {whole : List Char} (digits : ∀ c ∈ whole, c.isDigit = true)
    (room : Nat) (negative : Bool) (rest : List TextUnit) :
    Within room (whole.map .char ++ rest) (readMagnitude negative whole rest) := by
  have exponent := readExponent_suffix (readFraction rest).2
  have left : (readExponent (readFraction rest).2).2 <:+ whole.map .char ++ rest :=
    (exponent.trans (readFraction_suffix rest)).trans (List.suffix_append _ rest)
  simp only [readMagnitude]
  split
  · split
    · next long => exact ⟨long, whole, rfl, digits, (List.prefix_append _ rest).isInfix⟩
    · exact left
  · exact left

theorem within_readNumber (room : Nat) (units : List TextUnit) :
    Within room units (readNumber units) := by
  unfold readNumber
  split
  next negative rest sign =>
  have signed : rest <:+ units := by
    split at sign
    · cases sign
      exact List.suffix_cons _ rest
    · cases sign
      exact List.suffix_rfl
  split
  · trivial
  · next whole rest' found =>
    have within := within_readMagnitude (isDigit_of_mem_readWhole found) room negative rest'
    rw [readWhole_split found] at within
    exact within.mono signed

theorem within_readScalar (room : Nat) (units : List TextUnit) :
    Within room units (readScalar units) := by
  rw [readScalar]
  split
  · exact List.drop_suffix _ units
  · exact within_readNumber room units

/-! ### Values -/

theorem within_readField {room : Nat} {units : List TextUnit}
    (value : ∀ start : List TextUnit, start.length < units.length →
      Within room start (bare (readValue room start))) :
    Within room units (readField room units) := by
  rw [readField]
  split
  · trivial
  · next nameStart quote =>
    have shorter := length_lt_of_past? quote
    refine Within.mono ?_ (suffix_of_past? quote)
    refine (within_readChars room nameStart).bind fun name nameEnd chars => ?_
    have shorter' := length_lt_of_bare chars
    simp only
    split
    · trivial
    · next valueStart colon =>
      have shorter'' := length_lt_of_past? colon
      have read := value valueStart (by omega)
      exact (read.map (RawText.ofUnits name, ·)).mono (suffix_of_past? colon)

theorem cons_suffix_of_skip {units rest : List TextUnit} {unit : TextUnit}
    (h : skip units = unit :: rest) : unit :: rest <:+ units :=
  h ▸ skip_suffix units

/-- Where there is no room, the bracket itself is one too many. -/
theorem openings_of_skip {units rest : List TextUnit} {unit : TextUnit}
    (h : skip units = unit :: rest) (opening : isOpening unit = true) : 0 < openings units := by
  have first : 0 < openings (unit :: rest) := by
    rw [openings, List.countP_cons_of_pos opening]
    exact Nat.succ_pos _
  exact Nat.lt_of_lt_of_le first (cons_suffix_of_skip h).sublist.countP_le

-- The readers call each other, with the same measure as when they read.
mutual

theorem within_readValue (room : Nat) (units : List TextUnit) :
    Within room units (bare (readValue room units)) := by
  rcases opens : opensValue (skip units)
  · rw [bare_readValue_scalar opens]
    refine ((within_readScalar room _).bind fun found rest _ => ?_).mono (skip_suffix units)
    show Within room rest (if rest.length < units.length then _ else _)
    split
    · exact List.suffix_rfl
    · trivial
  · obtain ⟨rest, quote | bracket | brace⟩ := opensValue_cases opens
    · rw [bare_readValue_string quote]
      have chars := within_readChars room rest
      exact (chars.map fun chars => Json.str (.ofUnits chars)).mono (suffix_of_skip quote)
    · have shorter := length_lt_of_skip bracket
      cases room with
      | zero =>
        rw [bare_readValue_deepList bracket]
        exact openings_of_skip bracket rfl
      | succ room =>
        rw [bare_readValue_list bracket]
        refine (Within.inside ?_ rfl).mono (cons_suffix_of_skip bracket)
        split
        · next close => exact suffix_of_past? close
        · exact (within_readItems room rest).map Json.arr
    · have shorter := length_lt_of_skip brace
      cases room with
      | zero =>
        rw [bare_readValue_deepObject brace]
        exact openings_of_skip brace rfl
      | succ room =>
        rw [bare_readValue_object brace]
        refine (Within.inside ?_ rfl).mono (cons_suffix_of_skip brace)
        split
        · next close => exact suffix_of_past? close
        · exact (within_readFields room [] rest).map Json.obj
termination_by (units.length, 0)

theorem within_readItems (room : Nat) (units : List TextUnit) :
    Within room units (bare (readItems room units)) := by
  rw [bare_readItems]
  refine (within_readValue room units).bind fun item rest read => ?_
  have shorter := length_lt_of_bare read
  split
  · next close => exact suffix_of_past? close
  · split
    · trivial
    · next rest' comma =>
      have shorter' : rest'.length < rest.length := length_lt_of_past? comma
      exact ((within_readItems room rest').map _).mono (suffix_of_past? comma)
termination_by (units.length, 1)

theorem within_readFields (room : Nat) (before : Fields) (units : List TextUnit) :
    Within room units (bare (readFields room before units)) := by
  have field : Within room units (readField room units) :=
    within_readField fun start _ => within_readValue room start
  rw [bare_readFields]
  refine Within.bind field fun found rest read => ?_
  obtain ⟨shorter, -⟩ := exists_of_readField read
  split
  · next close => exact suffix_of_past? close
  · split
    · trivial
    · next rest' comma =>
      have shorter' : rest'.length < rest.length := length_lt_of_past? comma
      exact (within_readFields room _ rest').mono (suffix_of_past? comma)
termination_by (units.length, 0)

end

section

variable {nesting : Nat} {text : RawText} {fault : JsonFault}

/-- A text exceeds a limit as soon as the value at its start does. -/
theorem readValue_of_read (limit : fault.isLimit = true) (h : read nesting text = .error fault) :
    bare (readValue nesting text.toUnits) = .error fault := by
  rw [read, ofUnitList] at h
  split at h
  · cases h
    cases limit
  · rcases found : readValue nesting text.toUnits with other | ⟨value, rest, shorter⟩
    · rw [found] at h
      obtain rfl : other = fault := by simpa using h
      rfl
    · rw [found] at h
      simp only at h
      split at h
      · cases h
      · cases h
        cases limit

/-- A text that is refused for an integer holds the digits of that integer. -/
theorem holdsDigits_of_read {count : Nat}
    (h : read nesting text = .error (.tooManyDigits count)) :
    maxDigits < count ∧ HoldsDigits count text.toUnits := by
  have within := within_readValue nesting text.toUnits
  rwa [readValue_of_read rfl h] at within

/-- A text that is refused for its depth opens more brackets than may stand inside of one another. -/
theorem lt_openings_of_read {group : JsonGroup}
    (h : read nesting text = .error (.tooDeep group)) : nesting < openings text.toUnits := by
  have within := within_readValue nesting text.toUnits
  rwa [readValue_of_read rfl h] at within

end

/-! ### Fields that are refused -/

section

variable {room : Nat} {name text : RawText} {value : List TextUnit} {fault : JsonFault}

/-- A field is refused if its value is. -/
theorem readField_refused (refused : bare (readValue room (.char ' ' :: value)) = .error fault)
    {units : List TextUnit}
    (start : skip units = encodeString name ++ .char ':' :: .char ' ' :: value) :
    readField room units = .error fault := by
  have quote : skip units = .char '"' :: (name.toUnits.flatMap escapeUnit ++
      .char '"' :: .char ':' :: .char ' ' :: value) := by
    simpa [encodeString] using start
  have colon : past? ':' (.char ':' :: .char ' ' :: value) = some (.char ' ' :: value) :=
    past?_mark (skip_eq_self rfl _)
  rw [readField, past?_mark quote]
  simp only [bare_readChars_encoded, colon, refused, bind, Except.bind]

/-- An object is refused if the value of its first field is. -/
theorem read_refused (refused : bare (readValue room (.char ' ' :: value)) = .error fault)
    (start : text.toUnits = .char '\x7b' ::
      (encodeString name ++ .char ':' :: .char ' ' :: value)) :
    read (room + 1) text = .error fault := by
  let field : List TextUnit := encodeString name ++ .char ':' :: .char ' ' :: value
  have skipped : skip field = field := skip_eq_self rfl _
  have close : past? '\x7d' field = none := by
    apply past?_other
    rw [skipped]
    simp [field, encodeString]
  have all : bare (readValue (room + 1) text.toUnits) = .error fault := by
    rw [start, bare_readValue_object (skip_eq_self rfl field), close, bare_readFields,
      readField_refused refused skipped]
    rfl
  rw [read, ofUnitList, if_neg (by simp [start])]
  rcases found : readValue (room + 1) text.toUnits with other | ⟨value, others, shorter⟩
  · rw [found] at all
    obtain rfl : other = fault := by simpa [bare] using all
    rfl
  · rw [found] at all
    cases all

end

/-! ### Integers that are refused -/

/-- The digits of an integer that is too long to be read. -/
structure IsLongInteger (digits : List Char) : Prop where
  all : ∀ c ∈ digits, c.isDigit = true
  first : digits.head? ≠ some '0'
  long : maxDigits < digits.length

namespace IsLongInteger

variable {digits : List Char} {units rest : List TextUnit}

theorem exists_cons (h : IsLongInteger digits) : ∃ c others, digits = c :: others := by
  cases digits with
  | nil => exact absurd h.long (by decide)
  | cons c others => exact ⟨c, others, rfl⟩

theorem readNumber_eq (h : IsLongInteger digits) (stop : endsValue rest = true) :
    readNumber (digits.map .char ++ rest) = .error (.tooManyDigits digits.length) := by
  obtain ⟨c, others, split⟩ := h.exists_cons
  have whole : readWhole (digits.map .char ++ rest) = some (digits, rest) := by
    rw [readWhole]
    · rw [spanDigits_append h.all stop, split]
    · intro after zero
      apply h.first
      simp_all
  have sign : (digits.map TextUnit.char ++ rest).head? ≠ some (.char '-') := by
    have digit : c.isDigit = true := h.all c (by rw [split]; exact List.mem_cons_self)
    rw [split]
    rintro ⟨⟩
    exact absurd digit (by decide)
  rw [readNumber_unsigned sign whole, readMagnitude_of_endsValue _ stop, if_pos h.long]

theorem bare_readValue_eq (h : IsLongInteger digits) (stop : endsValue rest = true)
    (room : Nat) :
    bare (readValue room (.char ' ' :: (digits.map .char ++ rest))) =
      .error (.tooManyDigits digits.length) := by
  obtain ⟨c, others, split⟩ := h.exists_cons
  have digit : c.isDigit = true := h.all c (by rw [split]; exact List.mem_cons_self)
  have ne {d : Char} (other : d.isDigit = false) : c ≠ d := ne_of_isDigit digit other
  have number := h.readNumber_eq stop
  rw [split, List.map_cons, List.cons_append] at number ⊢
  have separator : isSeparator (.char c) = false := by simp [isSeparator, ne]
  have start : skip (.char ' ' :: .char c :: (others.map .char ++ rest)) =
      .char c :: (others.map .char ++ rest) :=
    skip_eq_self separator _
  have scalar : opensValue (skip (.char ' ' :: .char c :: (others.map .char ++ rest))) = false := by
    simp [start, opensValue, ne]
  rw [bare_readValue_scalar scalar, start, readScalar_digit digit, number, ← split]
  rfl

/-- An object is refused whose first field is an integer that is too long. -/
theorem read_eq (h : IsLongInteger digits) (stop : endsValue rest = true) {name text : RawText}
    (start : text.toUnits = .char '\x7b' ::
      (encodeString name ++ .char ':' :: .char ' ' :: (digits.map .char ++ rest)))
    (nesting : Nat) : read (nesting + 1) text = .error (.tooManyDigits digits.length) :=
  read_refused (h.bare_readValue_eq stop nesting) start

end IsLongInteger

/-! ### Lists that are refused -/

/-- Lists inside of one another are refused if there is no room for the last of them. -/
theorem bare_readValue_deep (room : Nat) {units rest : List TextUnit}
    (start : skip units = List.replicate (room + 1) (.char '[') ++ rest) :
    bare (readValue room units) = .error (.tooDeep .array) := by
  induction room generalizing units with
  | zero => exact bare_readValue_deepList start
  | succ room ih =>
    let inner : List TextUnit := List.replicate (room + 1) (.char '[') ++ rest
    have skipped : skip inner = inner := skip_eq_self rfl _
    have close : past? ']' inner = none := by
      apply past?_other
      rw [skipped]
      simp [inner, List.replicate_succ]
    have bracket : skip units = .char '[' :: inner := start
    rw [bare_readValue_list bracket, close, bare_readItems, ih skipped]
    rfl

/-- An object is refused whose first field holds more lists inside of one another than the object
leaves room for. -/
theorem read_deep (nesting : Nat) {name text : RawText} {rest : List TextUnit}
    (start : text.toUnits = .char '\x7b' :: (encodeString name ++
      .char ':' :: .char ' ' :: (List.replicate (nesting + 1) (.char '[') ++ rest))) :
    read (nesting + 1) text = .error (.tooDeep .array) := by
  let lists : List TextUnit := List.replicate (nesting + 1) (.char '[') ++ rest
  have bracket : skip lists = lists := skip_eq_self rfl _
  have skipped : skip (.char ' ' :: lists) = lists := bracket
  exact read_refused (bare_readValue_deep nesting skipped) start

end KeywordQuery.Json
