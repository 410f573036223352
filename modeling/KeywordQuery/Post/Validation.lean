import KeywordQuery.Post.Basic

/-!
# Posts from JSON values

A JSON object is a post when its text is a string, its author a string or null, and its identifier
an integer, a string, null, or a value that is an integer in another form: a truth value, or a
number without a fraction that fits 64 bits.  Other fields are ignored.

* `Post.ofJson` — the post of a value, or every problem that it has, in the order identifier,
  author, text.
-/

namespace KeywordQuery

/-- What is wrong with a value. -/
inductive ProblemKind where
  | notObject
  | missing
  | notString
  | notInteger
  | fractionalPart
  | notFinite
  | outOfRange
  deriving Repr, DecidableEq

/-- The code of a kind of problem. -/
def ProblemKind.code : ProblemKind → String
  | .notObject => "model_type"
  | .missing => "missing"
  | .notString => "string_type"
  | .notInteger => "int_type"
  | .fractionalPart => "int_from_float"
  | .notFinite => "finite_number"
  | .outOfRange => "int_parsing_size"

/-- A problem with the field, or the alternative of a field, that a path leads to. -/
structure Problem where
  path : List String
  kind : ProblemKind
  deriving Repr, DecidableEq

namespace Post

/-- The integer of a floating-point number that stands for one. -/
def integerOfFloat (number : Binary64) : Except ProblemKind Int :=
  if !number.isFinite then .error .notFinite
  else
    match number.toInt? with
    | none => .error .fractionalPart
    | some value =>
      if value.natAbs < Binary64.twoTo 63 then .ok value else .error .outOfRange

/-- The string of a value. -/
def stringOfJson : Json → Except ProblemKind RawText
  | .str value => .ok value
  | _ => .error .notString

/-- The identifier of a value; a value that is none has a problem as an integer and another one as
a string. -/
def idOfJson (value : Json) : Except (List Problem) (Option PostId) :=
  let refuse (asInteger asString : ProblemKind) :=
    .error [⟨["id", "int"], asInteger⟩, ⟨["id", "str"], asString⟩]
  match value with
  | .null => .ok none
  | .int value => .ok (some (.number value))
  | .str value => .ok (some (.name value))
  | .bool value => .ok (some (.number (if value then 1 else 0)))
  | .float number =>
    match integerOfFloat number with
    | .ok value => .ok (some (.number value))
    | .error problem => refuse problem .notString
  | _ => refuse .notInteger .notString

/-- The author of a value. -/
def authorOfJson (value : Json) : Except (List Problem) (Option RawText) :=
  match value with
  | .null => .ok none
  | value =>
    match stringOfJson value with
    | .ok author => .ok (some author)
    | .error problem => .error [⟨["author"], problem⟩]

/-- The text of a field. -/
def textOfField (field : Option Json) : Except (List Problem) RawText :=
  match field with
  | none => .error [⟨["text"], .missing⟩]
  | some value => (stringOfJson value).mapError fun problem => [⟨["text"], problem⟩]

/-- The problems of a result. -/
def problemsOf {α : Type} : Except (List Problem) α → List Problem
  | .ok _ => []
  | .error problems => problems

/-- The post of the fields of an object. -/
def ofFields (fields : Json.Fields) : Except (List Problem) Post :=
  let id := idOfJson ((Json.field? fields "id").getD .null)
  let author := authorOfJson ((Json.field? fields "author").getD .null)
  let text := textOfField (Json.field? fields "text")
  match id, author, text with
  | .ok id, .ok author, .ok text => .ok ⟨id, author, text⟩
  | _, _, _ => .error (problemsOf id ++ problemsOf author ++ problemsOf text)

/-- The post of a JSON value, or all of its problems. -/
def ofJson : Json → Except (List Problem) Post
  | .obj fields => ofFields fields
  | _ => .error [⟨[], .notObject⟩]

end Post

end KeywordQuery
