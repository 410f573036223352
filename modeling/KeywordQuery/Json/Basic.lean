import KeywordQuery.Number.Shortest
import KeywordQuery.Text.RawText

/-!
# JSON values

* `Json` — the values; an object keeps its fields in the order of their first appearance;
* `Json.setField`, `Json.field?` — writing and reading the fields of an object;
* `Json.isTruthy` — whether a value counts as true;
* `Json.display` — the plain spelling of a value inside a text.
-/

namespace KeywordQuery

/-- A JSON value.  Strings and names may hold unpaired surrogates. -/
inductive Json where
  | null
  | bool (value : Bool)
  | int (value : Int)
  | float (value : Binary64)
  | str (value : RawText)
  | arr (items : List Json)
  | obj (fields : List (RawText × Json))
  deriving Repr, Inhabited

namespace Json

/-- The value of a text. -/
def ofString (text : String) : Json := str text

/-- The fields of an object. -/
abbrev Fields := List (RawText × Json)

/-- The fields after giving `name` the value: in the place that it has, or at the end. -/
def setField (name : RawText) (value : Json) : Fields → Fields
  | [] => [(name, value)]
  | (other, old) :: rest =>
    if other = name then (other, value) :: rest else (other, old) :: setField name value rest

/-- The value of a field. -/
def field? (fields : Fields) (name : String) : Option Json :=
  (fields.find? (·.1 == RawText.ofString name)).map (·.2)

/-- Whether a value counts as true: all do but null, false, zero, and what is empty. -/
def isTruthy : Json → Bool
  | null => false
  | bool value => value
  | int value => value != 0
  | float value => !value.isZero
  | str value => !value.isEmpty
  | arr items => !items.isEmpty
  | obj fields => !fields.isEmpty

/-- The name of the kind of a value. -/
def kindName : Json → String
  | null => "NoneType"
  | bool _ => "bool"
  | int _ => "int"
  | float _ => "float"
  | str _ => "str"
  | arr _ => "list"
  | obj _ => "dict"

/-! ### Plain spelling -/

/-- Texts with a comma between them. -/
def commaSeparated (parts : List String) : String := String.intercalate ", " parts

mutual

/-- The spelling of a value inside a list or an object, where texts are quoted. -/
def displayInside : Json → String
  | null => "None"
  | bool value => if value then "True" else "False"
  | int value => toString value
  | float value => value.toText
  | str value => value.quote
  | arr items => "[" ++ commaSeparated (displayItems items) ++ "]"
  | obj fields => "\x7b" ++ commaSeparated (displayFields fields) ++ "\x7d"

/-- The spellings of the items of a list. -/
def displayItems : List Json → List String
  | [] => []
  | item :: rest => displayInside item :: displayItems rest

/-- The spellings of the fields of an object. -/
def displayFields : List (RawText × Json) → List String
  | [] => []
  | (name, value) :: rest =>
    (name.quote ++ ": " ++ displayInside value) :: displayFields rest

end

/-- The plain spelling of a value: a text as it is, anything else as it stands in a list. -/
def display : Json → RawText
  | str value => value
  | value => displayInside value

end Json

end KeywordQuery
