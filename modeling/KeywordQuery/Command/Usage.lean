import KeywordQuery.Text.Quoted

/-!
# Faults in the use of the command line

* `UsageFault` — the faults, `UsageFault.kindName` and `UsageFault.message` their wording;
* `similar` — the names that are close to a misspelt one.
-/

namespace KeywordQuery.Command

/-- A fault in the arguments of the program. -/
inductive UsageFault where
  | noSuchOption (name : String) (similar : List String)
  | noSuchCommand (name : String) (similar : List String)
  | missingValue (option : String)
  | superfluousValue (option : String)
  | missingArgument (name : String)
  /-- The value of an option is none of those offered. -/
  | notOffered (option value : String) (offered : List String)
  /-- The file that an option names cannot be opened. -/
  | cannotOpen (option file reason : String)
  | extraArguments (arguments : List String)
  deriving Repr, DecidableEq

/-- The exit code of a program that is used wrongly. -/
def usageExitCode : Int := 2

namespace UsageFault

/-- The name of the kind of a fault. -/
def kindName : UsageFault → String
  | noSuchOption _ _ => "NoSuchOption"
  | noSuchCommand _ _ => "NoSuchCommand"
  | missingValue _ => "BadOptionUsage"
  | superfluousValue _ => "BadOptionUsage"
  | missingArgument _ => "MissingParameter"
  | notOffered _ _ _ => "BadParameter"
  | cannotOpen _ _ _ => "BadParameter"
  | extraArguments _ => "UsageError"

/-- Names in quotes, with commas between them. -/
def quotedList (names : List String) : String := String.intercalate ", " (names.map Text.quote)

/-- The question that follows the message of an unknown name. -/
def suggestion : List String → String
  | [] => ""
  | [name] => " Did you mean " ++ Text.quote name ++ "?"
  | names => " (Did you mean one of: " ++ quotedList names ++ "?)"

/-- The message that describes a fault. -/
def message : UsageFault → String
  | noSuchOption name similar =>
    "No such option " ++ Text.quote name ++ "." ++ suggestion similar
  | noSuchCommand name similar =>
    "No such command " ++ Text.quote name ++ "." ++ suggestion similar
  | missingValue option => "Option " ++ Text.quote option ++ " requires an argument."
  | superfluousValue option => "Option " ++ Text.quote option ++ " does not take a value."
  | missingArgument name => "Missing argument '" ++ name ++ "'."
  | notOffered option value offered => "Invalid value for '" ++ option ++ "': " ++
      Text.quote value ++ " is not one of " ++ quotedList offered ++ "."
  | cannotOpen option file reason =>
    "Invalid value for '" ++ option ++ "': '" ++ file ++ "': " ++ reason
  | extraArguments [argument] => "Got unexpected extra argument (" ++ argument ++ ")"
  | extraArguments arguments =>
    "Got unexpected extra arguments (" ++ String.intercalate " " arguments ++ ")"

end UsageFault

/-! ### Misspelt names -/

/-- The length of the longest common start. -/
def commonStart : List Char → List Char → Nat
  | a :: as, b :: bs => if a = b then commonStart as bs + 1 else 0
  | _, _ => 0

/-- The longest block of `left` that is also one of `right`, as its two places and its length; of
several the first in `left`, and then in `right`. -/
def longestBlock (left right : List Char) : Nat × Nat × Nat :=
  let places := (List.range left.length).flatMap fun i =>
    (List.range right.length).map fun j => (i, j)
  places.foldl (fun best (i, j) =>
    let length := commonStart (left.drop i) (right.drop j)
    if best.2.2 < length then (i, j, length) else best) (0, 0, 0)

/-- The number of characters that the blocks common to two words hold, taking the longest block
first and then those on its two sides.  `fuel` bounds the depth of this. -/
def commonCount : (fuel : Nat) → List Char → List Char → Nat
  | 0, _, _ => 0
  | fuel + 1, left, right =>
    let (i, j, length) := longestBlock left right
    if length = 0 then 0
    else length + commonCount fuel (left.take i) (right.take j) +
      commonCount fuel (left.drop (i + length)) (right.drop (j + length))

/-- Twice the common count of a candidate and a name, and the length of both together: the share of
characters that they have in common. -/
def likeness (name candidate : String) : Nat × Nat :=
  let (left, right) := (candidate.toList, name.toList)
  (2 * commonCount (left.length + 1) left right, left.length + right.length)

/-- Whether the first share is greater than the second, or equal with the greater name. -/
def closer (a b : (Nat × Nat) × String) : Bool :=
  let (x, y) := (a.1.1 * b.1.2, b.1.1 * a.1.2)
  y < x || (x == y && b.2 ≤ a.2)

/-- The candidates that have at least three fifths of their characters in common with the name: the
three closest, in alphabetical order. -/
def similar (name : String) (candidates : List String) : List String :=
  let near := (candidates.map fun candidate => (likeness name candidate, candidate)).filter
    fun ((common, total), _) => 3 * total ≤ 5 * common
  (((near.mergeSort closer).take 3).map (·.2)).mergeSort (· ≤ ·)

end KeywordQuery.Command
