import KeywordQuery.Json.Basic

/-!
# Writing JSON

A value on one line, with a space after every comma and colon.  Inside a string only the quote, the
backslash and the control characters below the space are escaped, so no written value holds a line
break.

* `Json.toLine` — the written form, and `Json.write` the same with unpaired surrogates escaped;
* `Json.escapeChar` — a character as it stands inside a string;
* `Json.reportForm` — the value with null in the place of what has no written form in a report.
-/

namespace KeywordQuery.Json

open RawText (unitsOf)

/-- A character as it stands inside a string. -/
def escapeChar (c : Char) : List Char :=
  if c = '"' then ['\\', '"']
  else if c = '\\' then ['\\', '\\']
  else if c = '\n' then ['\\', 'n']
  else if c = '\r' then ['\\', 'r']
  else if c = '\t' then ['\\', 't']
  else if c = '\x08' then ['\\', 'b']
  else if c = '\x0c' then ['\\', 'f']
  else if c.toNat < 0x20 then '\\' :: 'u' :: Text.hexDigits 4 c.toNat
  else [c]

/-- A unit as it stands inside a string. -/
def escapeUnit : TextUnit → List TextUnit
  | .char c => (escapeChar c).map .char
  | .half unit => [.half unit]

/-- A string in quotes. -/
def encodeString (s : RawText) : List TextUnit :=
  .char '"' :: (s.toUnits.flatMap escapeUnit ++ [.char '"'])

/-- An integer in base ten. -/
def encodeInt (n : Int) : List TextUnit :=
  let digits := (Nat.toDigits 10 n.natAbs).map .char
  if n < 0 then .char '-' :: digits else digits

/-- A floating-point number. -/
def encodeFloat : Binary64 → List TextUnit
  | .nan => unitsOf "NaN"
  | .infinity negative => if negative then unitsOf "-Infinity" else unitsOf "Infinity"
  | number => unitsOf number.toText

mutual

/-- The written form of a value. -/
def encode : Json → List TextUnit
  | null => unitsOf "null"
  | bool value => if value then unitsOf "true" else unitsOf "false"
  | int value => encodeInt value
  | float value => encodeFloat value
  | str value => encodeString value
  | arr items => .char '[' :: (encodeItems items ++ [.char ']'])
  | obj fields => .char '\x7b' :: (encodeFields fields ++ [.char '\x7d'])

/-- The items of a list with a comma between them. -/
def encodeItems : List Json → List TextUnit
  | [] => []
  | [item] => encode item
  | item :: rest => encode item ++ .char ',' :: .char ' ' :: encodeItems rest

/-- The fields of an object with a comma between them. -/
def encodeFields : List (RawText × Json) → List TextUnit
  | [] => []
  | [(name, value)] => encodeString name ++ .char ':' :: .char ' ' :: encode value
  | (name, value) :: rest =>
    encodeString name ++ .char ':' :: .char ' ' ::
      (encode value ++ .char ',' :: .char ' ' :: encodeFields rest)

end

/-- The written form of a value, on one line.  Unpaired surrogates stand in it as they are. -/
def toLine (value : Json) : RawText := .ofUnits value.encode

/-- A unit of a written form in characters: an unpaired surrogate as its escape. -/
def spellUnit : TextUnit → List Char
  | .char c => [c]
  | .half unit => '\\' :: 'u' :: Text.hexDigits 4 unit

/-- The written form of a value, with unpaired surrogates as escapes. -/
def write (value : Json) : String := String.ofList (value.encode.flatMap spellUnit)

/-! ### Values in reports -/

/-- A name with three replacement characters in the place of every unpaired surrogate: one for each
byte that it would take. -/
def reportName (name : RawText) : RawText :=
  String.ofList <| name.start.toList ++ name.broken.flatMap fun (_, run) =>
    '\ufffd' :: '\ufffd' :: '\ufffd' :: run.toList

mutual

/-- The value as it stands in a report: null in the place of every number that is not finite, and
names without unpaired surrogates. -/
def reportForm : Json → Json
  | float value => if value.isFinite then float value else null
  | arr items => arr (reportItems items)
  | obj fields => obj ((reportFields fields).foldl (fun done (name, value) =>
      setField name value done) [])
  | value => value

/-- The items of a list as they stand in a report. -/
def reportItems : List Json → List Json
  | [] => []
  | item :: rest => reportForm item :: reportItems rest

/-- The fields of an object as they stand in a report, before equal names are joined. -/
def reportFields : List (RawText × Json) → List (RawText × Json)
  | [] => []
  | (name, value) :: rest => (reportName name, reportForm value) :: reportFields rest

end

end KeywordQuery.Json
