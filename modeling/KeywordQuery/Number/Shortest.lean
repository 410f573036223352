import KeywordQuery.Number.Binary64

/-!
# Shortest decimals

The decimal with the fewest digits that rounds to a given binary number; of several, the nearest
one.

* `Binary64.shortest` — that decimal, by exact arithmetic on natural numbers;
* `Binary64.toText` — its spelling.
-/

namespace KeywordQuery

/-- The decimal `digits * 10 ^ exponent`. -/
structure Decimal where
  digits : Nat
  exponent : Int
  deriving Repr, DecidableEq

namespace Binary64

/-- The positive numbers around a binary number that round to it, in quarters of a unit of its last
place: from `low` to `high`, with the number itself at `mid`.  The unit's quarter is
`num / den`, and the ends are included for even significands. -/
structure Surroundings where
  low : Nat
  mid : Nat
  high : Nat
  num : Nat
  den : Nat
  closed : Bool

/-- The surroundings of `significand * 2 ^ exponent`. -/
def surroundings (significand : Nat) (exponent : Int) : Surroundings where
  low := if significand = twoTo 52 ∧ minExponent < exponent then 4 * significand - 1
    else 4 * significand - 2
  mid := 4 * significand
  high := 4 * significand + 2
  num := if 2 ≤ exponent then twoTo (exponent - 2).toNat else 1
  den := if 2 ≤ exponent then 1 else twoTo (2 - exponent).toNat
  closed := significand % 2 == 0

/-- `left * 10 ^ place` and `right * (num / den)`, brought to one denominator. -/
def Surroundings.compareAt (s : Surroundings) (place : Int) (left right : Nat) : Nat × Nat :=
  if 0 ≤ place then (left * tenTo place.toNat * s.den, right * s.num)
  else (left * s.den, right * s.num * tenTo (-place).toNat)

/-- Whether `digits * 10 ^ place` rounds to the number. -/
def Surroundings.holds (s : Surroundings) (place : Int) (digits : Nat) : Bool :=
  let (x, low) := s.compareAt place digits s.low
  let (_, high) := s.compareAt place digits s.high
  if s.closed then low ≤ x && x ≤ high else low < x && x < high

/-- The decimal point of the number: the count of digits before the point, or, of a number below
one, the negated count of zeros that follow the point. -/
def Surroundings.point (s : Surroundings) : Int :=
  let whole := s.mid * s.num / s.den
  if 0 < whole then Int.ofNat (Nat.toDigits 10 whole).length
  else
    let zeros := (List.range 400).find? fun zeros =>
      s.den ≤ s.mid * s.num * tenTo (zeros + 1)
    Int.negOfNat (zeros.getD 0)

/-- The decimal with its last digit at `place` that rounds to the number, if there is one; of the
two neighbours of the number the nearer one, a tie going to the even digit. -/
def Surroundings.at? (s : Surroundings) (place : Int) : Option Decimal :=
  let (unit, mid) := s.compareAt place 1 s.mid
  let below := mid / unit
  let above := below + 1
  let gap := 2 * (mid % unit)
  let nearBelow := gap < unit || (gap == unit && below % 2 == 0)
  match s.holds place below, s.holds place above with
  | true, true => some ⟨if nearBelow then below else above, place⟩
  | true, false => some ⟨below, place⟩
  | false, true => some ⟨above, place⟩
  | false, false => none

/-- The shortest decimal that rounds to `significand * 2 ^ exponent`, for a positive significand.
Seventeen digits are always enough. -/
def shortest (significand : Nat) (exponent : Int) : Decimal :=
  let s := surroundings significand exponent
  ((List.range 17).findSome? fun fewer => s.at? (s.point - Int.ofNat (fewer + 1))).getD ⟨0, 0⟩

/-! ### Spelling -/

/-- The digits without the zeros at their end, and how many those are. -/
def splitTrailingZeros (digits : List Char) : List Char × Nat :=
  let kept := (digits.reverse.dropWhile (· == '0')).reverse
  (kept, digits.length - kept.length)

/-- The spelling of a decimal: positional with at least one place from `0.0001` on and below
`10 ^ 16`, and otherwise one digit before the point and an exponent of at least two digits. -/
def spellDecimal (d : Decimal) : List Char :=
  let (digits, zeros) := splitTrailingZeros (Nat.toDigits 10 d.digits)
  let count := digits.length
  let point : Int := Int.ofNat count + Int.ofNat zeros + d.exponent
  if -4 < point ∧ point ≤ 16 then
    if point ≤ 0 then "0.".toList ++ List.replicate (-point).toNat '0' ++ digits
    else if count ≤ point.toNat then
      digits ++ List.replicate (point.toNat - count) '0' ++ ".0".toList
    else digits.take point.toNat ++ '.' :: digits.drop point.toNat
  else
    let power := point - 1
    let powerDigits := Nat.toDigits 10 power.natAbs
    digits.take 1 ++ (if count = 1 then [] else '.' :: digits.drop 1) ++
      'e' :: (if power < 0 then '-' else '+') ::
        (List.replicate (2 - powerDigits.length) '0' ++ powerDigits)

/-- The spelling of a number. -/
def toText : Binary64 → String
  | .nan => "nan"
  | .infinity negative => if negative then "-inf" else "inf"
  | .finite negative significand exponent =>
    let magnitude := if significand = 0 then "0.0".toList
      else spellDecimal (shortest significand exponent)
    String.ofList (if negative then '-' :: magnitude else magnitude)

end Binary64

end KeywordQuery
