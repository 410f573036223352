import KeywordQuery.Json.Basic

/-!
# Reading JSON

A reader for JSON texts that also takes `NaN`, `Infinity` and `-Infinity`.  Space, tab, line feed
and carriage return separate; a control character inside a string is refused, and so is an integer
of more than 4300 digits.  An unpaired surrogate is read as it is inside a string, and nowhere else.
How many lists and objects may stand inside of one another depends on where the reader runs.

* `Json.read` — the value of a text, or the first fault;
* `JsonFault` — the faults, and `JsonFault.message` their wording;
* `Json.readValue`, `Json.readItems`, `Json.readFields` — the readers of a value, of the items of a
  list and of the fields of an object; each leaves fewer units than it got.
-/

namespace KeywordQuery

/-- A value that holds others. -/
inductive JsonGroup where
  | array
  | object
  deriving Repr, DecidableEq

/-- The name of a kind of group. -/
def JsonGroup.name : JsonGroup → String
  | array => "array"
  | object => "object"

/-- Why a text is not read as JSON. -/
inductive JsonFault where
  | byteOrderMark
  | expectingValue
  | expectingName
  | expectingColon
  | expectingComma
  | extraData
  | unterminatedString
  | controlCharacter
  | badEscape
  | badUnicodeEscape
  /-- An integer with more digits than are read. -/
  | tooManyDigits (count : Nat)
  /-- A list or an object inside of more of them than are read. -/
  | tooDeep (group : JsonGroup)
  deriving Repr, DecidableEq

/-- Whether the text exceeds a limit of the reader; it may be JSON all the same. -/
def JsonFault.isLimit : JsonFault → Bool
  | .tooManyDigits _ | .tooDeep _ => true
  | _ => false

/-- The name of the kind of a fault. -/
def JsonFault.kindName : JsonFault → String
  | .tooManyDigits _ => "ValueError"
  | .tooDeep _ => "RecursionError"
  | _ => "JSONDecodeError"

/-- The message that describes a fault. -/
def JsonFault.message : JsonFault → String
  | .byteOrderMark => "Unexpected UTF-8 BOM (decode using utf-8-sig)"
  | .expectingValue => "Expecting value"
  | .expectingName => "Expecting property name enclosed in double quotes"
  | .expectingColon => "Expecting ':' delimiter"
  | .expectingComma => "Expecting ',' delimiter"
  | .extraData => "Extra data"
  | .unterminatedString => "Unterminated string starting at"
  | .controlCharacter => "Invalid control character at"
  | .badEscape => "Invalid \\escape"
  | .badUnicodeEscape => "Invalid \\uXXXX escape"
  | .tooManyDigits count =>
    "Exceeds the limit (4300 digits) for integer string conversion: value has " ++
      toString count ++ " digits; use sys.set_int_max_str_digits() to increase the limit"
  | .tooDeep group =>
    "maximum recursion depth exceeded while decoding a JSON " ++ group.name ++
      " from a unicode string"

namespace Json

open RawText (unitsOf)

/-- The most digits that an integer may have. -/
def maxDigits : Nat := 4300

/-- The units that separate the parts of a JSON text. -/
def isSeparator : TextUnit → Bool
  | .char c => c == ' ' || c == '\t' || c == '\n' || c == '\r'
  | .half _ => false

/-- The units after the separators at the start. -/
def skip (units : List TextUnit) : List TextUnit := units.dropWhile isSeparator

theorem length_skip_le (units : List TextUnit) : (skip units).length ≤ units.length :=
  (List.dropWhile_suffix isSeparator).length_le

/-- What is left of a text of `bound` units, and shorter than it. -/
abbrev Rest (bound : Nat) := { rest : List TextUnit // rest.length < bound }

theorem length_lt_of_skip {units rest : List TextUnit} {unit : TextUnit}
    (h : skip units = unit :: rest) : rest.length < units.length := by
  have := length_skip_le units
  simp only [h, List.length_cons] at this
  omega

/-- The units after `mark`, if that is the first unit after the separators. -/
def after? (mark : Char) (units : List TextUnit) : Option (Rest units.length) :=
  match h : skip units with
  | [] => none
  | unit :: rest =>
    if unit = .char mark then some ⟨rest, length_lt_of_skip h⟩ else none

/-! ### Strings -/

/-- The value of a hexadecimal digit. -/
def hexDigit? (c : Char) : Option Nat :=
  if '0' ≤ c ∧ c ≤ '9' then some (c.toNat - '0'.toNat)
  else if 'a' ≤ c ∧ c ≤ 'f' then some (c.toNat - 'a'.toNat + 10)
  else if 'A' ≤ c ∧ c ≤ 'F' then some (c.toNat - 'A'.toNat + 10)
  else none

/-- The value of a unit as a hexadecimal digit. -/
def hexUnit? : TextUnit → Option Nat
  | .char c => hexDigit? c
  | .half _ => none

/-- The number that four hexadecimal digits spell. -/
def hexQuad? (a b c d : TextUnit) : Option Nat := do
  return (((← hexUnit? a) * 16 + (← hexUnit? b)) * 16 + (← hexUnit? c)) * 16 + (← hexUnit? d)

/-- The character that a backslash and the given unit stand for. -/
def simpleEscape? : TextUnit → Option Char
  | .char '"' => some '"'
  | .char '\\' => some '\\'
  | .char '/' => some '/'
  | .char 'b' => some '\x08'
  | .char 'f' => some '\x0c'
  | .char 'n' => some '\n'
  | .char 'r' => some '\r'
  | .char 't' => some '\t'
  | _ => none

/-- Whether the code unit starts a surrogate pair. -/
def isHighSurrogate (n : Nat) : Bool := 0xD800 ≤ n && n < 0xDC00

/-- Whether the code unit ends a surrogate pair. -/
def isLowSurrogate (n : Nat) : Bool := 0xDC00 ≤ n && n < 0xE000

/-- The character that a surrogate pair stands for. -/
def pairedChar (high low : Nat) : Char :=
  Char.ofNat (0x10000 + (high - 0xD800) * 0x400 + (low - 0xDC00))

/-- The low surrogate at the start of the units, if they start with an escape that is one.  The
digits never end the text. -/
def readLowSurrogate (units : List TextUnit) :
    Except JsonFault (Option (Nat × Rest units.length)) :=
  match units with
  | .char '\\' :: .char 'u' :: a :: b :: c :: d :: next :: rest =>
    match hexQuad? a b c d with
    | none => .error .badUnicodeEscape
    | some unit =>
      if isLowSurrogate unit then
        .ok (some (unit, ⟨next :: rest, by simp only [List.length_cons]; omega⟩))
      else .ok none
  | _ => .ok none

/-- The unit of the escape whose `u` has been read.  The digits never end the text. -/
def readUnicodeEscape (units : List TextUnit) :
    Except JsonFault (TextUnit × Rest units.length) :=
  match units with
  | a :: b :: c :: d :: next :: rest =>
    match hexQuad? a b c d with
    | none => .error .badUnicodeEscape
    | some unit =>
      if isHighSurrogate unit then
        match readLowSurrogate (next :: rest) with
        | .error fault => .error fault
        | .ok none => .ok (.half unit, ⟨next :: rest, by simp only [List.length_cons]; omega⟩)
        | .ok (some (low, ⟨rest', shorter⟩)) =>
          .ok (.char (pairedChar unit low),
            ⟨rest', by simp only [List.length_cons] at *; omega⟩)
      else
        .ok (if isLowSurrogate unit then .half unit else .char (Char.ofNat unit),
          ⟨next :: rest, by simp only [List.length_cons]; omega⟩)
  | _ => .error .badUnicodeEscape

/-- Whether the unit is a control character, which no string holds as it is. -/
def isControl : TextUnit → Bool
  | .char c => c.toNat < 0x20
  | .half _ => false

/-- The units of the string whose opening quote has been read. -/
def readChars (units : List TextUnit) : Except JsonFault (List TextUnit × Rest units.length) :=
  match units with
  | [] => .error .unterminatedString
  | .char '"' :: rest => .ok ([], ⟨rest, by simp⟩)
  | .char '\\' :: [] => .error .unterminatedString
  | .char '\\' :: .char 'u' :: rest =>
    match readUnicodeEscape rest with
    | .error fault => .error fault
    | .ok (unit, ⟨rest', shorter⟩) =>
      match readChars rest' with
      | .error fault => .error fault
      | .ok (others, ⟨rest'', shorter'⟩) =>
        .ok (unit :: others, ⟨rest'', by simp only [List.length_cons]; omega⟩)
  | .char '\\' :: escaped :: rest =>
    match simpleEscape? escaped with
    | none => .error .badEscape
    | some c =>
      match readChars rest with
      | .error fault => .error fault
      | .ok (others, ⟨rest', shorter⟩) =>
        .ok (.char c :: others, ⟨rest', by simp only [List.length_cons]; omega⟩)
  | unit :: rest =>
    if isControl unit then .error .controlCharacter
    else
      match readChars rest with
      | .error fault => .error fault
      | .ok (others, ⟨rest', shorter⟩) =>
        .ok (unit :: others, ⟨rest', by simp only [List.length_cons]; omega⟩)
termination_by units.length

/-! ### Numbers -/

/-- The digit that a unit is, if it is one. -/
def digit? : TextUnit → Option Char
  | .char c => if c.isDigit then some c else none
  | .half _ => none

/-- The digits at the start of the units, and what follows them. -/
def spanDigits : List TextUnit → List Char × List TextUnit
  | [] => ([], [])
  | unit :: rest =>
    match digit? unit with
    | none => ([], unit :: rest)
    | some c =>
      let (digits, after) := spanDigits rest
      (c :: digits, after)

/-- The fraction at the start of the units: a point and the digits after it. -/
def readFraction : List TextUnit → List Char × List TextUnit
  | .char '.' :: rest =>
    match spanDigits rest with
    | ([], _) => ([], .char '.' :: rest)
    | (digits, after) => (digits, after)
  | units => ([], units)

/-- An integer of the given sign and digits. -/
def signedInt (negative : Bool) (digits : List Char) : Int :=
  let magnitude := Int.ofNat (Nat.ofDigitChars 10 digits 0)
  if negative then -magnitude else magnitude

/-- The exponent at the start of the units: its value, and whether there is one. -/
def readExponent (units : List TextUnit) : Option Int × List TextUnit :=
  match units with
  | .char e :: rest =>
    if e = 'e' ∨ e = 'E' then
      let (negative, digits) := match rest with
        | .char '-' :: digits => (true, digits)
        | .char '+' :: digits => (false, digits)
        | digits => (false, digits)
      match spanDigits digits with
      | ([], _) => (none, units)
      | (run, after) => (some (signedInt negative run), after)
    else (none, units)
  | _ => (none, units)

/-- A number whose sign has been read, from the digits before the point on. -/
def readMagnitude (negative : Bool) (whole : List Char) (rest : List TextUnit) :
    Except JsonFault (Json × List TextUnit) :=
  let (fraction, rest) := readFraction rest
  let (exponent, rest) := readExponent rest
  if fraction.isEmpty && exponent.isNone then
    if maxDigits < whole.length then .error (.tooManyDigits whole.length)
    else .ok (.int (signedInt negative whole), rest)
  else
    let digits := Nat.ofDigitChars 10 (whole ++ fraction) 0
    .ok (.float (.ofDecimal negative digits (exponent.getD 0 - Int.ofNat fraction.length)), rest)

/-- The digits before the point: a lone zero, or digits of which the first is not zero. -/
def readWhole : List TextUnit → Option (List Char × List TextUnit)
  | .char '0' :: rest => some (['0'], rest)
  | units =>
    match spanDigits units with
    | ([], _) => none
    | found => some found

/-- A number. -/
def readNumber (units : List TextUnit) : Except JsonFault (Json × List TextUnit) :=
  let (negative, magnitude) := match units with
    | .char '-' :: rest => (true, rest)
    | rest => (false, rest)
  match readWhole magnitude with
  | none => .error .expectingValue
  | some (whole, rest) => readMagnitude negative whole rest

/-- The values that are written as one word. -/
def literals : List (String × Json) :=
  [("null", .null), ("true", .bool true), ("false", .bool false), ("NaN", .float .nan),
    ("Infinity", .float (.infinity false)), ("-Infinity", .float (.infinity true))]

/-- A value that holds no other one. -/
def readScalar (units : List TextUnit) : Except JsonFault (Json × List TextUnit) :=
  match literals.find? fun entry => (unitsOf entry.1).isPrefixOf units with
  | some (word, value) => .ok (value, units.drop word.length)
  | none => readNumber units

/-! ### Values -/

mutual

/-- The value at the start of the units, after separators.  It may hold as many lists and objects
inside of one another as there is `room` for. -/
def readValue (room : Nat) (units : List TextUnit) : Except JsonFault (Json × Rest units.length) :=
  match h : skip units with
  | .char '"' :: rest =>
    have shorter : rest.length < units.length := length_lt_of_skip h
    match readChars rest with
    | .error fault => .error fault
    | .ok (chars, ⟨rest', shorter'⟩) => .ok (.str (.ofUnits chars), ⟨rest', by omega⟩)
  | .char '[' :: rest =>
    have shorter : rest.length < units.length := length_lt_of_skip h
    match room with
    | 0 => .error (.tooDeep .array)
    | room + 1 =>
      match after? ']' rest with
      | some ⟨rest', shorter'⟩ => .ok (.arr [], ⟨rest', by omega⟩)
      | none =>
        match readItems room rest with
        | .error fault => .error fault
        | .ok (items, ⟨rest', shorter'⟩) => .ok (.arr items, ⟨rest', by omega⟩)
  | .char '\x7b' :: rest =>
    have shorter : rest.length < units.length := length_lt_of_skip h
    match room with
    | 0 => .error (.tooDeep .object)
    | room + 1 =>
      match after? '\x7d' rest with
      | some ⟨rest', shorter'⟩ => .ok (.obj [], ⟨rest', by omega⟩)
      | none =>
        match readFields room [] rest with
        | .error fault => .error fault
        | .ok (fields, ⟨rest', shorter'⟩) => .ok (.obj fields, ⟨rest', by omega⟩)
  | other =>
    match readScalar other with
    | .error fault => .error fault
    | .ok (value, rest) =>
      if shorter : rest.length < units.length then .ok (value, ⟨rest, shorter⟩)
      else .error .expectingValue
termination_by (units.length, 0)

/-- The items of a list up to the bracket that closes it. -/
def readItems (room : Nat) (units : List TextUnit) :
    Except JsonFault (List Json × Rest units.length) :=
  match readValue room units with
  | .error fault => .error fault
  | .ok (item, ⟨rest, shorter⟩) =>
    match after? ']' rest with
    | some ⟨rest', shorter'⟩ => .ok ([item], ⟨rest', by omega⟩)
    | none =>
      match after? ',' rest with
      | none => .error .expectingComma
      | some ⟨rest', shorter'⟩ =>
        match readItems room rest' with
        | .error fault => .error fault
        | .ok (items, ⟨rest'', shorter''⟩) => .ok (item :: items, ⟨rest'', by omega⟩)
termination_by (units.length, 1)

/-- The fields of an object up to the brace that closes it, added to those before them. -/
def readFields (room : Nat) (before : Fields) (units : List TextUnit) :
    Except JsonFault (Fields × Rest units.length) :=
  match after? '"' units with
  | none => .error .expectingName
  | some ⟨nameStart, shorter⟩ =>
    match readChars nameStart with
    | .error fault => .error fault
    | .ok (name, ⟨nameEnd, shorter'⟩) =>
      match after? ':' nameEnd with
      | none => .error .expectingColon
      | some ⟨valueStart, shorter''⟩ =>
        match readValue room valueStart with
        | .error fault => .error fault
        | .ok (value, ⟨rest, shorter'''⟩) =>
          let fields := setField (.ofUnits name) value before
          match after? '\x7d' rest with
          | some ⟨rest', _⟩ => .ok (fields, ⟨rest', by omega⟩)
          | none =>
            match after? ',' rest with
            | none => .error .expectingComma
            | some ⟨rest', _⟩ =>
              match readFields room fields rest' with
              | .error fault => .error fault
              | .ok (all, ⟨rest'', _⟩) => .ok (all, ⟨rest'', by omega⟩)
termination_by (units.length, 0)

end

/-- The value of units that hold nothing else. -/
def ofUnitList (nesting : Nat) (units : List TextUnit) : Except JsonFault Json :=
  if units.head? = some (.char '\ufeff') then .error .byteOrderMark
  else
    match readValue nesting units with
    | .error fault => .error fault
    | .ok (value, ⟨rest, _⟩) => if (skip rest).isEmpty then .ok value else .error .extraData

/-- The value of a text that holds nothing else, with at most `nesting` lists and objects inside of
one another. -/
def read (nesting : Nat) (text : RawText) : Except JsonFault Json :=
  ofUnitList nesting text.toUnits

end Json

end KeywordQuery
