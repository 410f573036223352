import KeywordQuery.Post.Feed
import KeywordQuery.Query.Parser
import KeywordQuery.Query.Spelling

/-!
# The log

What the library notes while it works.

* `Event` — the things noted, and `Event.record` how each is written;
* `Level` — the levels of records, and which of them a verbosity lets through: the more, the greater
  it is;
* `LogSetup` — where records go.
-/

namespace KeywordQuery

/-- The level of a log record. -/
inductive Level where
  | debug
  | info
  | warning
  deriving Repr, DecidableEq

namespace Level

/-- The name of a level. -/
def name : Level → String
  | debug => "DEBUG"
  | info => "INFO"
  | warning => "WARNING"

/-- The weight of a level. -/
def weight : Level → Nat
  | debug => 10
  | info => 20
  | warning => 30

/-- The least level that is written at a verbosity. -/
def ofVerbosity (verbosity : Int) : Level :=
  if 2 ≤ verbosity then debug else if verbosity = 1 then info else warning

end Level

/-- How records are written: from which level on, and by which handlers. -/
structure LogSetup where
  level : Level
  handlers : List String
  deriving Repr, DecidableEq

namespace LogSetup

/-- The handler that writes records to standard error. -/
def errorHandler : String := "stderr"

/-- The setup for a verbosity, together with the one that it replaces. -/
def configure (verbosity : Int) (current : LogSetup) : LogSetup × LogSetup :=
  (⟨Level.ofVerbosity verbosity, [errorHandler]⟩, current)

/-- The setup after putting back the one that was replaced. -/
def restore (_current replaced : LogSetup) : LogSetup := replaced

/-- The log is as it was, whatever has been written meanwhile. -/
@[simp] theorem restore_configure (verbosity : Int) (current meanwhile : LogSetup) :
    meanwhile.restore (configure verbosity current).2 = current := rfl

end LogSetup

/-- A log record: who notes what, the place that the record names, and the traceback of the failure
that it is about, or nothing. -/
structure LogRecord where
  logger : String
  level : Level
  message : String
  place : String
  trace : String := ""
  deriving Repr, DecidableEq

/-- All that a record tells: its message, and the traceback on lines of its own. -/
def LogRecord.text (record : LogRecord) : String :=
  if record.trace = "" then record.message else record.message ++ "\n" ++ record.trace

/-- Something that is noted. -/
inductive Event where
  | parsed (text : String) (query : Query)
  | rejected (text : String) (fault : ParseFault)
  | skippedBlank (line : Nat)
  /-- A command fails, with the traceback of its failure. -/
  | commandFailed (command trace : String)
  deriving Repr, DecidableEq

/-- The record of an event. -/
def Event.record : Event → LogRecord
  | .parsed text query => {
      logger := "termfilter.parser", level := .debug, place := "parser.py:155"
      message := "Parsed filter " ++ Text.quote text ++ " as " ++ query.toText }
  | .rejected text fault => {
      logger := "termfilter.parser", level := .debug, place := "parser.py:153"
      message := "Rejected filter " ++ Text.quote text ++ ": " ++ fault.message }
  | .skippedBlank line => {
      logger := "termfilter.models", level := .debug, place := "models.py:60"
      message := "Skipping blank line " ++ toString line }
  | .commandFailed command trace => {
      logger := "termfilter.cli.runner", level := .debug, place := "runner.py:54"
      message := "Command " ++ command ++ " failed", trace }

/-- The event of reading a text as a query. -/
def Event.ofParse (text : String) : Except ParseFault Query → Event
  | .ok query => .parsed text query
  | .error fault => .rejected text fault

/-- The events of reading a feed. -/
def Event.ofFeed (feed : Feed) : List Event := feed.blanks.map .skippedBlank

end KeywordQuery
