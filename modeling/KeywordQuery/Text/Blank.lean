import KeywordQuery.Text.RangeTable

/-!
# Blank characters

The white space that separates tokens, that is stripped from the ends of a line and at which long
lines are broken.  Zero-width spaces and the byte-order mark are not blank.

* `isBlank` — the class;
* `dropEnds` — a list without the elements of a class at its two ends, and `trim` a text without
  the blanks there.
-/

namespace KeywordQuery.Text

/-- The blank code points. -/
def blankTable : RangeTable :=
  [(0x9, 0xD), (0x1C, 0x20), (0x85, 0x85), (0xA0, 0xA0), (0x1680, 0x1680), (0x2000, 0x200A),
   (0x2028, 0x2029), (0x202F, 0x202F), (0x205F, 0x205F), (0x3000, 0x3000)]

/-- Blank characters: the Unicode white space and the four ASCII information separators. -/
def isBlank (c : Char) : Bool := blankTable.covers c.toNat

/-- The list without the elements of the class at its end. -/
def dropEnd {α : Type} (p : α → Bool) (xs : List α) : List α := (xs.reverse.dropWhile p).reverse

/-- The list without the elements of the class at its two ends. -/
def dropEnds {α : Type} (p : α → Bool) (xs : List α) : List α := dropEnd p (xs.dropWhile p)

/-- The characters without the blanks at their end. -/
def trimEnd (cs : List Char) : List Char := dropEnd isBlank cs

/-- The characters without the blanks at their two ends. -/
def trim (cs : List Char) : List Char := dropEnds isBlank cs

end KeywordQuery.Text
