import KeywordQuery.Text.RawText

/-!
# Streams

A stream takes a text unit by unit: as it is, in another form, or not at all.  A unit that is not
taken stops the whole text.  Only ASCII is taken by every stream; what comes of other characters and
of unpaired surrogates is a matter of its encoding and of how it handles what the encoding lacks.

* `TextStream` — how a stream takes units, and how it words a refusal;
* `TextStream.write` — what is printed of a text;
* `TextStream.utf8`, `TextStream.utf8Escaping` — strict UTF-8, and UTF-8 with escapes for the rest;
* `EncodeFault` — the refusal of a text, and `EncodeFault.message` its wording.
-/

namespace KeywordQuery

/-- A unit as an escape in the shortest form that fits. -/
def TextUnit.escape : TextUnit → List Char
  | .char c => Text.hexEscape c
  | .half unit => '\\' :: 'u' :: Text.hexDigits 4 unit

/-- Whether the unit is a character. -/
def TextUnit.isChar : TextUnit → Bool
  | .char _ => true
  | .half _ => false

/-- Whether the unit is a character of ASCII. -/
def TextUnit.isAscii : TextUnit → Bool
  | .char c => c.toNat < 0x80
  | .half _ => false

/-- Whether all characters of the text are ASCII. -/
def Text.isAscii (text : String) : Bool := text.toList.all fun c => c.toNat < 0x80

namespace Encoding

/-- How a stream takes text. -/
structure TextStream where
  /-- The name of its encoding. -/
  encoding : String
  /-- Why it takes no other units. -/
  reason : String
  /-- What is printed of a unit, or none if the unit is not taken. -/
  take? : TextUnit → Option (List TextUnit)
  /-- Whether the encoding has no form for a unit.  A refusal names all such units in a row. -/
  lacks : TextUnit → Bool
  lacks_of_refuses : ∀ unit : TextUnit, take? unit = none → lacks unit = true
  takes_ascii : ∀ unit : TextUnit, unit.isAscii = true → take? unit = some [unit]
  isAscii_encoding : Text.isAscii encoding = true
  isAscii_reason : Text.isAscii reason = true

/-- The first units in a row that a stream refuses, and their position in the text. -/
structure EncodeFault where
  encoding : String
  units : List TextUnit
  position : Nat
  reason : String
  deriving Repr, DecidableEq

/-- The name of the kind of a refusal. -/
def EncodeFault.kindName : String := "UnicodeEncodeError"

/-- The units of a refusal and their place, in words. -/
def EncodeFault.place (fault : EncodeFault) : String :=
  match fault.units with
  | [unit] =>
    "character '" ++ String.ofList unit.escape ++ "' in position " ++ toString fault.position
  | units => "characters in position " ++ toString fault.position ++ "-" ++
      toString (fault.position + units.length - 1)

/-- The message that describes a refusal. -/
def EncodeFault.message (fault : EncodeFault) : String :=
  "'" ++ fault.encoding ++ "' codec can't encode " ++ fault.place ++ ": " ++ fault.reason

namespace TextStream

variable (stream : TextStream)

/-- Whether the stream takes the unit. -/
def takesUnit (unit : TextUnit) : Bool := (stream.take? unit).isSome

/-- Whether the stream takes all of the text. -/
def takes (text : RawText) : Bool := text.toUnits.all stream.takesUnit

/-- Whether the stream takes all of the text as it is. -/
def Keeps (text : RawText) : Prop := ∀ unit ∈ text.toUnits, stream.take? unit = some [unit]

/-- Whether the stream takes all texts without unpaired surrogates. -/
def TakesStrings : Prop := ∀ text : String, stream.takes text = true

/-- What is printed of a text. -/
def write (text : RawText) : Except EncodeFault RawText :=
  match text.toUnits.dropWhile stream.takesUnit with
  | [] => .ok (.ofUnits (text.toUnits.flatMap fun unit => (stream.take? unit).getD []))
  | refused => .error {
      encoding := stream.encoding
      units := refused.takeWhile stream.lacks
      position := text.toUnits.length - refused.length
      reason := stream.reason }

/-- Strict UTF-8, which has no form for unpaired surrogates. -/
def utf8 : TextStream where
  encoding := "utf-8"
  reason := "surrogates not allowed"
  take? unit := if unit.isChar then some [unit] else none
  lacks unit := !unit.isChar
  lacks_of_refuses
    | .half _, _ => rfl
  takes_ascii
    | .char _, _ => rfl
  isAscii_encoding := by decide
  isAscii_reason := by decide

/-- UTF-8 with escapes in the place of unpaired surrogates. -/
def utf8Escaping : TextStream where
  encoding := utf8.encoding
  reason := utf8.reason
  take? unit := some (if unit.isChar then [unit] else unit.escape.map .char)
  lacks := utf8.lacks
  lacks_of_refuses _ refused := nomatch refused
  takes_ascii
    | .char _, _ => rfl
  isAscii_encoding := utf8.isAscii_encoding
  isAscii_reason := utf8.isAscii_reason

end TextStream

end Encoding

end KeywordQuery
