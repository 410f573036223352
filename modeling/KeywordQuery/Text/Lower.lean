import KeywordQuery.Text.LetterCase

/-!
# Lower-casing

The full lower-casing of a text.  Two letters do not map one to one: the dotted capital `İ` becomes
`i` with a combining dot, and a capital sigma becomes `ς` at the end of a word and `σ` elsewhere.

* `lower` — the lower-case form of a text;
* `lowerFrom` — the same for the rest of a text, given whether a cased letter stands before it.
-/

namespace KeywordQuery.Text

/-- The code point of the lower-case form of a code point. -/
def lowerPoint (n : Nat) : Nat :=
  match lowerRuns.find? (·.covers n) with
  | some run => run.image + (n - run.first)
  | none => n

/-- The lower-case form of a character whose form does not depend on its neighbours. -/
def lowerChar (c : Char) : List Char :=
  if c = 'İ' then ['i', '\u0307'] else [Char.ofNat (lowerPoint c.toNat)]

/-- Whether the character has a case and a capital sigma does not pass over it. -/
def isCased (c : Char) : Bool := casedTable.covers c.toNat

/-- Whether a capital sigma passes over the character when it looks for its neighbours. -/
def isCaseIgnorable (c : Char) : Bool := caseIgnorableTable.covers c.toNat

/-- Whether the first character that is not passed over has a case. -/
def startsCased : List Char → Bool
  | [] => false
  | c :: rest => if isCaseIgnorable c then startsCased rest else isCased c

/-- The lower-case form of a capital sigma: final when a cased letter stands before it and none
after it. -/
def lowerSigma (afterCased : Bool) (rest : List Char) : Char :=
  if afterCased && !startsCased rest then 'ς' else 'σ'

/-- The lower-case form of the rest of a text; `afterCased` says whether the last character before
it that is not passed over has a case. -/
def lowerFrom (afterCased : Bool) : List Char → List Char
  | [] => []
  | c :: rest =>
    (if c = 'Σ' then [lowerSigma afterCased rest] else lowerChar c) ++
      lowerFrom (if isCaseIgnorable c then afterCased else isCased c) rest

/-- The lower-case form of a text. -/
def lower (cs : List Char) : List Char := lowerFrom false cs

/-- The lower-case form of a string. -/
def lowerText (text : String) : String := String.ofList (lower text.toList)

end KeywordQuery.Text
