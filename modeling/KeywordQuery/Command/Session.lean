import KeywordQuery.Encoding.Lines
import KeywordQuery.Query.Eval
import KeywordQuery.Report.Render

/-!
# Commands

What the commands of the program do once their arguments are understood.

* `Settings` — the choices that hold for every command;
* `parseCommand` — how a query text is grouped;
* `matchCommand` — which posts of a feed match a query text;
* `report`, `exitCode`, `print` — what comes of the result of a command.
-/

namespace KeywordQuery.Command

/-- The choices that hold for every command. -/
structure Settings where
  form : OutputForm := .table
  quiet : Bool := false
  verbosity : Nat := 0
  policy : MatchPolicy := .substring
  deriving Repr, DecidableEq

/-- What a command does: the events that it notes, its warnings, and its data or its failure. -/
structure Result where
  events : List Event := []
  warnings : List RawText := []
  data : Except Failure Json

/-- The lines of a feed as far as they can be told, and the fault that ends them. -/
abbrev Input := List String × Option Encoding.DecodeFault

/-- The text that the operands spell together. -/
def joinOperands (operands : List String) : String := String.intercalate " " operands

/-- How a query text is grouped, and the terms that it uses. -/
def parseCommand (settings : Settings) (operands : List String) : Result :=
  let text := joinOperands operands
  let reading := Query.parse settings.policy text
  let events := [Event.ofParse text reading]
  match reading with
  | .error fault => { events, data := .error (.ofParseFault fault) }
  | .ok query => {
      events
      data := .ok (.obj [("filter", .str query.toText),
        ("terms", .arr (query.terms.map .ofString))]) }

/-- The warning about a feed without posts. -/
def emptyFeedWarning : RawText := "No posts read from input."

/-- The posts that a query matches; every post can be searched. -/
def matchingPosts (query : Query) (posts : List Post) : Except Failure (List Post) :=
  match query.select Post.holds posts with
  | (kept, none) => .ok kept
  | (_, some fault) => .error (.badItem fault.message)

/-- The data of a match: the number of posts, and the posts unless only the number is asked for. -/
def matchData (countOnly : Bool) (posts : List Post) : Json :=
  .obj (("count", .int posts.length) ::
    if countOnly then [] else [("posts", .arr (posts.map Post.toJson))])

/-- What comes of an input: the posts, or the first failure.  The lines before a fault in the
encoding are read first. -/
def feedOfInput (nesting : Nat) (input : Input) : Feed × Except Failure (List Post) :=
  let feed := Feed.ofLines nesting input.1
  (feed,
    match feed.fault, input.2 with
    | some fault, _ => .error (.ofFeedFault fault)
    | none, some fault => .error (.ofDecodeFault fault)
    | none, none => .ok feed.posts)

/-- The match of a query with an input. -/
def matchInput (nesting : Nat) (countOnly : Bool) (query : Query) (input : Input) : Result :=
  let (feed, posts) := feedOfInput nesting input
  let events := Event.ofFeed feed
  match posts with
  | .error failure => { events, data := .error failure }
  | .ok posts => {
      events
      warnings := if posts.isEmpty then [emptyFeedWarning] else []
      data := (matchingPosts query posts).map (matchData countOnly) }

/-- Which posts of an input match a query text.  The input is read only if the text is a query. -/
def matchCommand {m : Type → Type} [Monad m] (nesting : Nat) (settings : Settings)
    (operands : List String) (countOnly : Bool) (readInput : m Input) : m Result := do
  let text := joinOperands operands
  let reading := Query.parse settings.policy text
  let parsed := Event.ofParse text reading
  match reading with
  | .error fault => return { events := [parsed], data := .error (.ofParseFault fault) }
  | .ok query =>
    let result := matchInput nesting countOnly query (← readInput)
    return { result with events := parsed :: result.events }

/-- The log of a command, as far as its verbosity lets it through. -/
def logText (console : Console) (settings : Settings) (events : List Event) : RawText :=
  let least := Level.ofVerbosity settings.verbosity
  let records := (events.map Event.record).filter fun record =>
    least.weight ≤ record.level.weight
  RawText.join (records.map console.logRecord)

/-- The report of a command that ran for the given time. -/
def report (settings : Settings) (command : String) (durationMs : Int) (result : Result) : Report :=
  let policy := some settings.policy.name
  match result.data with
  | .ok data =>
    { ok := true, command, data, warnings := result.warnings, durationMs, policy }
  | .error failure =>
    { ok := false, command, warnings := result.warnings, durationMs, policy
      error := some failure.classify.info }

/-- The exit code of a command. -/
def exitCode (result : Result) : Int :=
  match result.data with
  | .ok _ => 0
  | .error failure => failure.classify.exitCode

/-- The printing of the result of a command. -/
def print (console : Console) (settings : Settings) (command : String) (durationMs : Int)
    (result : Result) : Emission :=
  (report settings command durationMs result).emit console settings.form settings.quiet

end KeywordQuery.Command
