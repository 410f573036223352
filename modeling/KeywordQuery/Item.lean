import KeywordQuery.Json.Basic
import KeywordQuery.Policy
import KeywordQuery.Post.Basic

/-!
# Items

What a query is matched against.  A search asks an item what it is and what it offers, in a fixed
order.  A method of its own for terms comes first, unless the item is a text; then it is searched as
the text that it is, then in its entry `text` if it is a mapping, and last in its attribute `text`.

* `Item` — what an item is and offers, in any combination;
* `Item.searchText` — the text that an item is searched in;
* `Item.holds` — whether a term is found in an item;
* `Item.text`, `Item.value`, `Item.post`, `Item.record`, `Item.container` — kinds of items;
* `Post.holds` — whether a term is found in a post.
-/

namespace KeywordQuery

/-- The attribute `contains` of an item: a value, or a method for terms. -/
inductive Containing where
  | value (json : Json)
  | method (answer : String → Bool)

/-- What an item is and what it offers to a search. -/
structure Item where
  /-- The name of the kind of the item. -/
  kindName : String
  /-- The text that the item is, if it is one. -/
  asText? : Option RawText := none
  /-- The entry `text`, which may be missing, of an item that is a mapping. -/
  entry? : Option (Option Json) := none
  /-- The attribute `text`. -/
  member? : Option Json := none
  /-- The attribute `contains`. -/
  containing? : Option Containing := none

/-- An item without a text was to be searched. -/
structure ItemFault where
  /-- The name of the kind of the item. -/
  kind : String
  deriving Repr, DecidableEq

/-- The message that describes a fault. -/
def ItemFault.message (fault : ItemFault) : String :=
  "Item of type " ++ fault.kind ++ " has no text to match against"

namespace Item

/-- The method that a search asks; that of a text is passed over. -/
def method? (item : Item) : Option (String → Bool) :=
  match item.asText?, item.containing? with
  | none, some (.method answer) => some answer
  | _, _ => none

/-- The value that the text of an item is made from if the item is no text itself: the entry of a
mapping, also where this is missing, and otherwise the attribute. -/
def source? (item : Item) : Option Json := item.entry?.getD item.member?

/-- The text that an item is searched in: the text that it is, or the plain spelling of the value
that its text is made from; null counts as none. -/
def searchText (item : Item) : Except ItemFault RawText :=
  match item.asText? with
  | some own => .ok own
  | none =>
    match item.source? with
    | none | some .null => .error ⟨item.kindName⟩
    | some source => .ok source.display

/-- Whether a term is found in an item.  An item with a method answers by itself; every other one is
searched under the policy. -/
def holds (item : Item) (term : String) (policy : MatchPolicy) : Except ItemFault Bool :=
  match item.method? with
  | some answer => .ok (answer term)
  | none => item.searchText.map (policy.occursIn · term)

/-! ### Kinds of items -/

/-- A plain text. -/
def text (text : String) : Item := { kindName := "str", asText? := some text }

/-- A text with an answer of its own to every term; the answer is not asked for. -/
def answeringText (text : String) (answer : String → Bool) : Item :=
  { Item.text text with containing? := some (.method answer) }

/-- A JSON value: an object is searched in its field `text`. -/
def value : Json → Item
  | .str text => { kindName := "str", asText? := some text }
  | .obj fields => { kindName := "dict", entry? := some (Json.field? fields "text") }
  | json => { kindName := json.kindName }

/-- A post. -/
def post (post : Post) : Item := { kindName := "Post", member? := some (.str post.text) }

/-- A record with an optional text and an optional value that is no answer. -/
def record (kindName : String) (text? note? : Option Json) : Item :=
  { kindName, member? := text?, containing? := note?.map .value }

/-- A container that answers by itself whether it contains a term. -/
def container (kindName : String) (answer : String → Bool) (text? : Option Json) : Item :=
  { kindName, member? := text?, containing? := some (.method answer) }

/-- The container that answers each term with the truth of a field of that name; without the field
the answer is no. -/
def ofAnswers (kindName : String) (answers : Json.Fields) (text? : Option Json) : Item :=
  container kindName (fun term => ((Json.field? answers term).getD .null).isTruthy) text?

end Item

/-- Whether a term is found in a post. -/
def Post.holds (post : Post) : String → MatchPolicy → Except ItemFault Bool :=
  (Item.post post).holds

end KeywordQuery
