import KeywordQuery.Layout.CellTable

/-!
# Measuring text in cells

The width of a text is counted in terminal cells, not in characters.

* `textWidth` — the width of a text;
* `graphemes` — a text as the pieces that are never taken apart, with their widths;
* `fit` — a text cut or filled to a width;
* `chop` — a text as lines of at most a width.
-/

namespace KeywordQuery.Layout

/-- The number of cells that a character takes. -/
def charWidth (c : Char) : Nat :=
  if zeroWidthTable.covers c.toNat then 0
  else if doubleWidthTable.covers c.toNat then 2
  else 1

/-- The character that joins its neighbours into one picture. -/
def joiner : Char := '\u200d'

/-- The character that asks for the picture form of the one before it. -/
def pictureSelector : Char := '\ufe0f'

/-- Whether the picture form of the character is wider than the character. -/
def isWidened (c : Char) : Bool := widenedTable.covers c.toNat

/-- The width of the rest of a text; `last` is the last character that took a cell. -/
def widthAfter (last : Option Char) : List Char → Nat
  | [] => 0
  | [c] =>
    if c = joiner then 0
    else if c = pictureSelector then (if last.any isWidened then 1 else 0)
    else charWidth c
  | c :: next :: rest =>
    if c = joiner then widthAfter last rest
    else if c = pictureSelector then
      (if last.any isWidened then 1 else 0) + widthAfter none (next :: rest)
    else charWidth c + widthAfter (if charWidth c = 0 then last else some c) (next :: rest)

/-- The sum of some widths. -/
def total (widths : List Nat) : Nat := widths.foldr Nat.add 0

/-- The number of cells that a text takes. -/
def textWidth (cs : List Char) : Nat := widthAfter none cs

/-- A piece of text that is never taken apart. -/
structure Grapheme where
  chars : List Char
  width : Nat
  deriving Repr, DecidableEq

/-- The grapheme with characters added that take `extra` cells. -/
def Grapheme.extend (g : Grapheme) (chars : List Char) (extra : Nat) : Grapheme :=
  ⟨g.chars ++ chars, g.width + extra⟩

/-- The graphemes of the rest of a text, after those in `done`, the latest first. -/
def graphemesAfter (done : List Grapheme) (last : Option Char) :
    List Char → List Grapheme
  | [] => done.reverse
  | c :: rest =>
    match done with
    | [] =>
      let width := if c = joiner ∨ c = pictureSelector then 0 else charWidth c
      graphemesAfter [⟨[c], width⟩] (if width = 0 then last else some c) rest
    | g :: gs =>
      if c = joiner then
        match rest with
        | [] => graphemesAfter (g.extend [c] 0 :: gs) last []
        | next :: rest => graphemesAfter (g.extend [c, next] 0 :: gs) last rest
      else if c = pictureSelector then
        if last.any isWidened then graphemesAfter (g.extend [c] 1 :: gs) none rest
        else graphemesAfter (g.extend [c] 0 :: gs) last rest
      else if charWidth c = 0 then graphemesAfter (g.extend [c] 0 :: gs) last rest
      else graphemesAfter (⟨[c], charWidth c⟩ :: g :: gs) (some c) rest
termination_by cs => cs.length
decreasing_by
  all_goals
    simp only [List.length_cons]
    omega

/-- The graphemes of a text. -/
def graphemes (cs : List Char) : List Grapheme := graphemesAfter [] none cs

/-- The graphemes that fit into `width` cells; half of one that does not fit is left blank. -/
def cut (width : Nat) : List Grapheme → List Char
  | [] => []
  | g :: rest =>
    if g.width ≤ width then g.chars ++ (if g.width = width then [] else cut (width - g.width) rest)
    else if 0 < width then [' '] else []

/-- A text cut or filled with blanks to exactly `width` cells. -/
def fit (width : Nat) (cs : List Char) : List Char :=
  let taken := textWidth cs
  if width = 0 then []
  else if taken ≤ width then cs ++ List.replicate (width - taken) ' '
  else cut width (graphemes cs)

/-- The lines of at most `width` cells that graphemes fill, after the line in hand, which takes
`taken` cells. -/
def chopAfter (width : Nat) (line : List Char) (taken : Nat) : List Grapheme → List (List Char)
  | [] => if taken = 0 then [] else [line]
  | g :: rest =>
    if width < taken + g.width then line :: chopAfter width g.chars g.width rest
    else chopAfter width (line ++ g.chars) (taken + g.width) rest

/-- The lines of at most `width` cells that a text fills. -/
def chop (width : Nat) (cs : List Char) : List (List Char) := chopAfter width [] 0 (graphemes cs)

end KeywordQuery.Layout
