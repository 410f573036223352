import KeywordQuery.Text.Blank

/-!
# Integers spelt in texts

An integer may be spelt with a sign, with zeros before it, with single underscores between its
digits, and with a point and zeros after it.

* `integerOfText?` — the integer that a text spells.
-/

namespace KeywordQuery

/-- White space around an integer: the blanks other than the four information separators. -/
def isSpace (c : Char) : Bool := Text.isBlank c && !(0x1C ≤ c.toNat && c.toNat ≤ 0x1F)

/-- The most digits of an integer that is read. -/
def maxIntegerDigits : Nat := 4300

/-- The digits of groups that single underscores separate. -/
def groupedDigits? (cs : List Char) : Option (List Char) :=
  let groups := cs.splitOn '_'
  if groups.all fun group => !group.isEmpty && group.all Char.isDigit then some groups.flatten
  else none

/-- The characters without the zeros at their start, and without underscores among these.  What
stands before a point or the end is not left out altogether: its last character stays. -/
def withoutLeadingZeros? : List Char → Option (List Char)
  | '0' :: rest =>
    let isPadding (c : Char) : Bool := c == '0' || c == '_'
    let last := (rest.takeWhile isPadding).getLastD '0'
    match rest.dropWhile isPadding with
    | [] => some [last]
    | '.' :: after => some (last :: '.' :: after)
    | c :: after => if c.isDigit then some (c :: after) else none
  | c :: rest => if c.isDigit then some (c :: rest) else none
  | [] => none

/-- The characters before a point that only zeros follow. -/
def wholePart? (cs : List Char) : Option (List Char) :=
  match cs.dropWhile (· != '.') with
  | [] => some cs
  | _ :: fraction =>
    if fraction.all (· == '0') then some (cs.takeWhile (· != '.')) else none

/-- The sign at the start of the characters, and the rest. -/
def splitSign : List Char → Bool × List Char
  | '-' :: cs => (true, cs)
  | '+' :: cs => (false, cs)
  | cs => (false, cs)

/-- The integer that a text spells. -/
def integerOfText? (text : String) : Option Int := do
  let cs := text.toList.dropWhile isSpace
  let (negative, cs) := splitSign (cs.reverse.dropWhile isSpace).reverse
  let digits ← groupedDigits? (← wholePart? (← withoutLeadingZeros? cs))
  if maxIntegerDigits < digits.length then none
  else
    let magnitude := Int.ofNat (Nat.ofDigitChars 10 digits 0)
    some (if negative then -magnitude else magnitude)

end KeywordQuery
