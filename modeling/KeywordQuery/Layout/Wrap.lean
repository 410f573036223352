import KeywordQuery.Layout.Styled
import KeywordQuery.Text.Blank

/-!
# Breaking lines

Texts are broken at blanks into lines of a given width.  A word that is longer than a line is
either folded into several lines or left for the end of its line to be cut.

* `breakLine` — one line of text as lines that fit;
* `breakLines` — a whole text as lines that fit;
* `page` — a text as it is printed on its own;
* `cellLines` — a text as it is printed in a cell of a table.
-/

namespace KeywordQuery.Layout

open Text (isBlank trimEnd)

/-- What becomes of a word that is longer than a line. -/
inductive Overflow where
  /-- It is continued on the next lines. -/
  | fold
  /-- It is cut, with an ellipsis at its end. -/
  | ellipsis
  deriving Repr, DecidableEq

/-- The words of a line, each with the blanks after it, and the first one also with those before
it.  A line of blanks has none. -/
def spacedWords (cs : List Char) : List (List Char) :=
  let lead := cs.takeWhile isBlank
  match _h : cs.dropWhile isBlank with
  | [] => []
  | c :: rest =>
    let body := c :: rest.takeWhile (!isBlank ·)
    let after := rest.dropWhile (!isBlank ·)
    (lead ++ body ++ after.takeWhile isBlank) :: spacedWords (after.dropWhile isBlank)
termination_by cs.length
decreasing_by
  have h₁ : (c :: rest).length ≤ cs.length := _h ▸ (List.dropWhile_suffix isBlank).length_le
  have h₂ : (rest.dropWhile (!isBlank ·)).length ≤ rest.length :=
    (List.dropWhile_suffix _).length_le
  have h₃ : ((rest.dropWhile (!isBlank ·)).dropWhile isBlank).length ≤
      (rest.dropWhile (!isBlank ·)).length := (List.dropWhile_suffix _).length_le
  simp only [List.length_cons] at h₁
  omega

/-- Lines under construction: those that are finished, the latest first, the line in hand, whether
any character has been placed, and the cells taken in the line in hand. -/
structure Breaking where
  done : List (List Char) := []
  line : List Char := []
  started : Bool := false
  taken : Nat := 0

namespace Breaking

/-- The lines built so far. -/
def lines (b : Breaking) : List (List Char) := (b.line :: b.done).reverse

/-- The line in hand is finished, unless nothing has been placed yet. -/
def newLine (b : Breaking) : Breaking :=
  if b.started then { b with done := b.line :: b.done, line := [], taken := 0 } else b

/-- Characters are added to the line in hand. -/
def add (b : Breaking) (cs : List Char) : Breaking :=
  { b with
    line := b.line ++ cs, started := b.started || !cs.isEmpty, taken := b.taken + textWidth cs }

/-- A word is placed: in the line in hand if it fits there without the blanks after it, and
otherwise from the next line on. -/
def place (width : Nat) (overflow : Overflow) (b : Breaking) (word : List Char) : Breaking :=
  let length := textWidth (trimEnd word)
  if b.taken + length ≤ width then b.add word
  else if length ≤ width then b.newLine.add word
  else
    match overflow with
    | .fold => (chop width word).foldl (fun b piece => b.newLine.add piece) b
    | .ellipsis => b.newLine.add word

end Breaking

/-- A line of text as lines that fit, but for words that are left to be cut. -/
def breakLine (width : Nat) (overflow : Overflow) (cs : List Char) : List (List Char) :=
  match spacedWords cs with
  | [] => [cs]
  | words => (words.foldl (Breaking.place width overflow) {}).lines

/-- The line without the blanks at its end that stand beyond `width` characters. -/
def dropSpareBlanks (width : Nat) (line : StyledText) : StyledText :=
  let length := line.chars.length
  if length ≤ width then line
  else
    let blanks := length - (trimEnd line.chars).length
    if blanks = 0 then line else line.take (length - min blanks (length - width))

/-- The line cut to the width, if it is longer. -/
def truncate (width : Nat) (overflow : Overflow) (line : StyledText) : StyledText :=
  if textWidth line.chars ≤ width then line
  else
    match overflow with
    | .fold => line.replace (fit width line.chars)
    | .ellipsis => line.replace (fit (width - 1) line.chars ++ ['…'])

/-- A text as lines that fit, but for words that are left to be cut. -/
def breakLines (width : Nat) (overflow : Overflow) (text : StyledText) : List StyledText :=
  text.lines.flatMap fun line =>
    let line := line.expandTabs
    (line.divideInto ((breakLine width overflow line.chars).map List.length)).map
      (dropSpareBlanks width)

/-- A text as it is printed on its own, with a line break at the end. -/
def page (width : Nat) (text : String) : String :=
  if width = 0 then ""
  else
    let lines := (breakLines width .fold (.ofString text)).map (truncate width .fold)
    String.ofList (lines.flatMap (·.chars ++ ['\n']))

/-- A line cut or filled with blanks to the width. -/
def justify (width : Nat) (overflow : Overflow) (line : StyledText) : StyledText :=
  truncate width overflow
    ((truncate width overflow line).fill (width - textWidth line.chars))

/-- A text as lines of exactly the width.  The last adjustment counts the cells of the segments. -/
def cellLines (width : Nat) (overflow : Overflow) (text : StyledText) : List (List Char) :=
  if width = 0 then []
  else
    (breakLines width overflow text).map fun line =>
      setWidth width (justify width overflow line).segments

end KeywordQuery.Layout
