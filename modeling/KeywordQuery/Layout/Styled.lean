import KeywordQuery.Layout.Cells

/-!
# Styled texts

A text with stretches in styles of their own.  It is handed on in segments, one for every change of
style, and each segment is measured by itself; so a joiner or a variation selector at the start of
a segment has no effect on the characters before it.

* `StyledText` — a text with its stretches;
* `StyledText.divide` — its parts between the given places;
* `StyledText.expandTabs` — the text with blanks in the place of tabs;
* `StyledText.segments` — its segments, and `setWidth` segments cut or filled to a width.
-/

namespace KeywordQuery.Layout

/-- The text without the control characters that would move the cursor: bell, backspace, vertical
tab, form feed and carriage return. -/
def sanitize (cs : List Char) : List Char :=
  cs.filter fun c => !(c.toNat == 7 || c.toNat == 8 || c.toNat == 11 || c.toNat == 12 ||
    c.toNat == 13)

/-- A stretch of a text, from one character up to another. -/
structure Span where
  start : Nat
  stop : Nat
  deriving Repr, DecidableEq

namespace Span

/-- The stretch as far as it lies in the first `length` characters. -/
def keep (length : Nat) (span : Span) : Option Span :=
  if span.start < length then some { span with stop := min length span.stop } else none

/-- The part of the stretch between two places, counted from the first of them. -/
def clip (start stop : Nat) (span : Span) : Option Span :=
  let part : Span := ⟨span.start - start, min span.stop stop - start⟩
  if part.start < part.stop then some part else none

/-- The stretch in a text that `offset` characters stand before. -/
def shift (offset : Nat) (span : Span) : Span := ⟨span.start + offset, span.stop + offset⟩

end Span

/-- A text with stretches in styles of their own. -/
structure StyledText where
  chars : List Char
  spans : List Span := []
  deriving Repr, DecidableEq

namespace StyledText

/-- A text in one style. -/
def ofString (s : String) : StyledText := ⟨sanitize s.toList, []⟩

/-- The first `length` characters. -/
def take (length : Nat) (text : StyledText) : StyledText :=
  ⟨text.chars.take length, text.spans.filterMap (Span.keep length)⟩

/-- Other characters in the place of those of the text.  Stretches end with the characters. -/
def replace (chars : List Char) (text : StyledText) : StyledText :=
  ⟨chars,
    if chars.length < text.chars.length then text.spans.filterMap (Span.keep chars.length)
    else text.spans⟩

/-- The text with blanks after it. -/
def fill (count : Nat) (text : StyledText) : StyledText :=
  { text with chars := text.chars ++ List.replicate count ' ' }

/-- The characters between two places. -/
def slice (start stop : Nat) (text : StyledText) : StyledText :=
  ⟨(text.chars.take stop).drop start, text.spans.filterMap (Span.clip start stop)⟩

/-- The parts of the text from one place on, up to each of the given places and to the end. -/
def divideFrom (start : Nat) (text : StyledText) : List Nat → List StyledText
  | [] => [text.slice start text.chars.length]
  | stop :: places => text.slice start stop :: divideFrom stop text places

/-- The parts of the text between the given places. -/
def divide (text : StyledText) (places : List Nat) : List StyledText :=
  if places.isEmpty then [text] else divideFrom 0 text places

/-- The places after the given numbers of characters, one after the other, but for the end. -/
def placesAfter (start : Nat) : List Nat → List Nat
  | [] | [_] => []
  | length :: lengths => (start + length) :: placesAfter (start + length) lengths

/-- The parts of the text with the given numbers of characters. -/
def divideInto (text : StyledText) (lengths : List Nat) : List StyledText :=
  text.divide (placesAfter 0 lengths)

/-- The lines of the text. -/
def lines (text : StyledText) : List StyledText :=
  if text.chars.contains '\n' then
    let lengths := (text.chars.splitOn '\n').map List.length
    (text.divideInto ((lengths.map fun length => [length, 1]).flatten.dropLast)).filter
      (·.chars != ['\n'])
  else [text]

/-- A text after another one. -/
def append (left right : StyledText) : StyledText :=
  ⟨left.chars ++ right.chars, left.spans ++ right.spans.map (Span.shift left.chars.length)⟩

/-! ### Tabs -/

/-- The distance between two tab stops. -/
def tabSize : Nat := 8

/-- The text with blanks after it, which belong to the stretches that end it. -/
def fillInside (count : Nat) (text : StyledText) : StyledText :=
  let length := text.chars.length
  ⟨(text.fill count).chars, text.spans.map fun span =>
    if length ≤ span.stop then { span with stop := span.stop + count } else span⟩

/-- Pieces of which only the last may end without a tab, with at least one blank in the place of
each tab, up to the next tab stop; the first piece starts in column `column`. -/
def expandPieces (column : Nat) : List StyledText → StyledText
  | [] => ⟨[], []⟩
  | piece :: rest =>
    if piece.chars.getLast? = some '\t' then
      let blanked := { piece with chars := piece.chars.dropLast ++ [' '] }
      let column := column + textWidth blanked.chars
      let missing := (tabSize - column % tabSize) % tabSize
      append (blanked.fillInside missing) (expandPieces (column + missing) rest)
    else append piece (expandPieces (column + textWidth piece.chars) rest)

/-- The line with every tab filled up to the next tab stop by at least one blank. -/
def expandTabs (line : StyledText) : StyledText :=
  if line.chars.contains '\t' then
    let lengths := (line.chars.splitOn '\t').map (·.length + 1)
    expandPieces 0 (((line.divideInto lengths)).filter (!·.chars.isEmpty))
  else line

/-! ### Segments -/

/-- The characters from the place `place` on, in pieces that start at the given places. -/
def segmentsFrom (cuts : List Nat) (place : Nat) : List Char → List (List Char)
  | [] => []
  | c :: rest =>
    match segmentsFrom cuts (place + 1) rest with
    | [] => [[c]]
    | piece :: pieces =>
      if cuts.contains (place + 1) then [c] :: piece :: pieces else (c :: piece) :: pieces

/-- The segments of the text: it is taken apart where a stretch starts or ends. -/
def segments (text : StyledText) : List (List Char) :=
  segmentsFrom (text.spans.flatMap fun span => [span.start, span.stop]) 0 text.chars

end StyledText

/-- The characters of segments of which some cells are taken already, up to a width that they
exceed. -/
def cutSegments (width taken : Nat) : List (List Char) → List Char
  | [] => []
  | segment :: rest =>
    if taken + textWidth segment < width then
      segment ++ cutSegments width (taken + textWidth segment) rest
    else fit (width - taken) segment

/-- The characters of segments, cut or filled with blanks to a width. -/
def setWidth (width : Nat) (segments : List (List Char)) : List Char :=
  let taken := total (segments.map textWidth)
  if width < taken then cutSegments width 0 segments
  else segments.flatten ++ List.replicate (width - taken) ' '

end KeywordQuery.Layout
