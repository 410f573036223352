import KeywordQuery.Json.Reader
import KeywordQuery.Post.Validation
import KeywordQuery.Text.Blank

/-!
# Feeds

A feed is a sequence of lines.  A line that starts with a brace is the JSON object of a post, any
other line is the text of one, and blank lines are passed over.  Lines are counted from one, blank
ones included, and blanks at the two ends of a line do not count.  How deep the object of a line may
be nested is a matter of the reader of JSON.

* `Post.ofJsonLine` — the post of a JSON line;
* `readLine` — what a line holds;
* `Feed.ofRawLines` — the posts of the lines, up to the first line that cannot be read, and
  `Feed.ofLines` the same for lines without unpaired surrogates.
-/

namespace KeywordQuery

/-- Why a line is no post. -/
inductive LineFault where
  | notJson (fault : JsonFault)
  | notObject
  | notPost (problems : Nat)
  deriving Repr, DecidableEq

/-- Why a feed cannot be read, and from which line on. -/
structure FeedFault where
  line : Nat
  cause : LineFault
  deriving Repr, DecidableEq

/-- Whether the fault is one of the line alone; a line that exceeds a limit of the reader has the
fault of the reader instead, and its message does not name the line. -/
def FeedFault.isItemFault (fault : FeedFault) : Bool :=
  match fault.cause with
  | .notJson cause => !cause.isLimit
  | _ => true

/-- The name of the kind of a fault. -/
def FeedFault.kindName (fault : FeedFault) : String :=
  match fault.cause with
  | .notJson cause => if cause.isLimit then cause.kindName else "ItemError"
  | _ => "ItemError"

/-- The message that describes a fault. -/
def FeedFault.message (fault : FeedFault) : String :=
  let place := "Line " ++ toString fault.line ++ ": "
  match fault.cause with
  | .notJson cause =>
    if cause.isLimit then cause.message else place ++ "invalid JSON (" ++ cause.message ++ ")"
  | .notObject => place ++ "expected a JSON object"
  | .notPost problems => place ++ "not a post (" ++ toString problems ++ " validation errors)"

/-- The post of a JSON line. -/
def Post.ofJsonLine (nesting : Nat) (line : RawText) : Except LineFault Post :=
  match Json.read nesting line with
  | .error fault => .error (.notJson fault)
  | .ok (.obj fields) =>
    match Post.ofFields fields with
    | .ok post => .ok post
    | .error problems => .error (.notPost problems.length)
  | .ok _ => .error .notObject

/-- Whether the unit is a blank character. -/
def isBlankUnit : TextUnit → Bool
  | .char c => Text.isBlank c
  | .half _ => false

/-- What a line holds: nothing if it is blank, and otherwise a post. -/
def readLine (nesting : Nat) (line : RawText) : Except LineFault (Option Post) :=
  match Text.dropEnds isBlankUnit line.toUnits with
  | [] => .ok none
  | unit :: rest =>
    let text := RawText.ofUnits (unit :: rest)
    if unit = .char '\x7b' then (Post.ofJsonLine nesting text).map some else .ok (some { text })

/-- What reading lines gives: the posts and the numbers of the blank lines up to the first line
that cannot be read, and the fault of that line. -/
structure Feed where
  posts : List Post := []
  blanks : List Nat := []
  fault : Option FeedFault := none
  deriving Repr, DecidableEq

namespace Feed

/-- The feed of the lines from the given number on. -/
def ofLinesFrom (nesting number : Nat) : List RawText → Feed
  | [] => {}
  | line :: lines =>
    match readLine nesting line with
    | .error cause => { fault := some ⟨number, cause⟩ }
    | .ok none =>
      let feed := ofLinesFrom nesting (number + 1) lines
      { feed with blanks := number :: feed.blanks }
    | .ok (some post) =>
      let feed := ofLinesFrom nesting (number + 1) lines
      { feed with posts := post :: feed.posts }

/-- The feed of lines that may hold unpaired surrogates. -/
def ofRawLines (nesting : Nat) (lines : List RawText) : Feed := ofLinesFrom nesting 1 lines

/-- The feed of the lines. -/
def ofLines (nesting : Nat) (lines : List String) : Feed :=
  ofRawLines nesting (lines.map .ofString)

end Feed

end KeywordQuery
