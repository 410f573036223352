import KeywordQuery.Json.Basic

/-!
# Posts

The items of a feed.

* `Post` — a text with an optional identifier and author;
* `Post.toJson` — its row in a report.
-/

namespace KeywordQuery

/-- The identifier of a post. -/
inductive PostId where
  | number (value : Int)
  | name (value : RawText)
  deriving Repr, DecidableEq

/-- A post of a feed. -/
structure Post where
  id : Option PostId := none
  author : Option RawText := none
  text : RawText
  deriving Repr, DecidableEq

/-- The JSON value of an identifier. -/
def PostId.toJson : PostId → Json
  | .number value => .int value
  | .name value => .str value

/-- The JSON value of something that may be missing. -/
def Json.ofOption {α : Type} (toJson : α → Json) : Option α → Json
  | none => .null
  | some value => toJson value

/-- The row of a post in a report. -/
def Post.toJson (post : Post) : Json :=
  .obj [("id", .ofOption PostId.toJson post.id), ("author", .ofOption .str post.author),
    ("text", .str post.text)]

end KeywordQuery
