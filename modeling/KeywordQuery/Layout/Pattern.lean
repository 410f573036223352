import KeywordQuery.Layout.Styled
import KeywordQuery.Text.WordChar

/-!
# Patterns in texts

Patterns are tried from left to right, and of several ways to match the first one counts.  Parts of
a match can be named, so that their stretches are known afterwards.

* `Pattern` — a way to go on from a place in a text;
* `Pattern.seq`, `Pattern.either`, `Pattern.times` — a sequence, a choice and a repetition;
* `Pattern.named` — a pattern whose stretch is kept;
* `Pattern.findAll` — the stretches named in all matches, which do not overlap.
-/

namespace KeywordQuery.Layout

/-- A place in a text: the character before it, those after it, and how many stand before it; with
the stretches named on the way to it. -/
structure Place where
  before : Option Char
  rest : List Char
  index : Nat
  named : List Span := []

/-- A pattern finds the places that can be reached from a place, in order of preference, and gives
the first one from which the rest of the search succeeds. -/
abbrev Pattern := Place → (Place → Option Place) → Option Place

namespace Pattern

/-- One character of a class. -/
def one (p : Char → Bool) : Pattern := fun place next =>
  match place.rest with
  | [] => none
  | c :: rest =>
    if p c then next { place with before := some c, rest, index := place.index + 1 } else none

/-- Nothing, if the condition holds at the place. -/
def check (condition : Place → Bool) : Pattern := fun place next =>
  if condition place then next place else none

/-- Patterns one after the other. -/
def seq : List Pattern → Pattern
  | [] => fun place next => next place
  | first :: others => fun place next => first place fun after => seq others after next

/-- One of several patterns, the first ones preferred. -/
def either : List Pattern → Pattern
  | [] => fun _ _ => none
  | first :: others => fun place next =>
    match first place next with
    | some found => some found
    | none => either others place next

/-- The characters of a text. -/
def word (text : String) : Pattern := seq (text.toList.map fun c => one (· == c))

/-- A pattern repeated at least `least` and at most `most` times, as often as possible if it is
`greedy` and else as rarely as possible. -/
def repeated (greedy : Bool) (pattern : Pattern) : (least most : Nat) → Pattern
  | least, 0 => check fun _ => least == 0
  | 0, most + 1 =>
    let more : Pattern := fun place next =>
      pattern place fun after => repeated greedy pattern 0 most after next
    let stop : Pattern := fun place next => next place
    if greedy then either [more, stop] else either [stop, more]
  | least + 1, most + 1 => fun place next =>
    pattern place fun after => repeated greedy pattern least most after next

/-- A pattern repeated a number of times between the bounds, the more the better. -/
def times (least most : Nat) (pattern : Pattern) : Pattern := repeated true pattern least most

/-- A pattern or nothing. -/
def optional (pattern : Pattern) : Pattern := times 0 1 pattern

/-- A pattern that takes at least one character, repeated without an upper bound, the more the
better. -/
def many (least : Nat) (pattern : Pattern) : Pattern := fun place =>
  repeated true pattern least (max least place.rest.length) place

/-- A pattern that takes at least one character, repeated without an upper bound, the less the
better. -/
def few (least : Nat) (pattern : Pattern) : Pattern := fun place =>
  repeated false pattern least (max least place.rest.length) place

/-- A pattern whose stretch is kept. -/
def named (pattern : Pattern) : Pattern := fun place next =>
  pattern place fun after =>
    next { after with named := ⟨place.index, after.index⟩ :: after.named }

/-- A place that no character of the class stands before. -/
def notAfter (p : Char → Bool) : Pattern := check fun place => !place.before.any p

/-- A place where a word starts or ends. -/
def wordEdge : Pattern := check fun place =>
  place.before.any Text.isWordChar != place.rest.head?.any Text.isWordChar

/-- A place where no word starts or ends. -/
def noWordEdge : Pattern := check fun place =>
  place.before.any Text.isWordChar == place.rest.head?.any Text.isWordChar

/-- The stretches named in the matches from a place on; at most `fuel` places are tried. -/
def findFrom (pattern : Pattern) : (fuel : Nat) → Place → List Span
  | 0, _ => []
  | fuel + 1, place =>
    match pattern place some with
    | some after =>
      after.named ++ findFrom pattern fuel { after with named := [] }
    | none =>
      match place.rest with
      | [] => []
      | c :: rest => findFrom pattern fuel { before := some c, rest, index := place.index + 1 }

/-- The stretches named in all matches of a pattern that takes at least one character, leaving out
those that are empty. -/
def findAll (pattern : Pattern) (cs : List Char) : List Span :=
  (findFrom pattern (cs.length + 1) { before := none, rest := cs, index := 0 }).filter fun span =>
    span.start < span.stop

end Pattern

end KeywordQuery.Layout
