import KeywordQuery.Encoding.Utf8
import KeywordQuery.Json.Basic
import KeywordQuery.Post.Feed
import KeywordQuery.Query.Parser

/-!
# Failures of commands

Why a command fails, and how that is reported.

* `Failure` — the causes;
* `Failure.classified` — the failure with its exit code and type in a report, for the causes that
  have one;
* `ErrorInfo` — what a report says about a failure.
-/

namespace KeywordQuery

/-- What a report says about a failure. -/
structure ErrorInfo where
  type : RawText
  message : RawText
  details : Option Json.Fields := none
  deriving Repr

/-- Why a command fails. -/
inductive Failure where
  /-- The query text cannot be read; the position is not always known. -/
  | badQuery (message : String) (position : Option Int)
  /-- An item cannot be searched or read. -/
  | badItem (message : String)
  /-- Any other refusal by the library. -/
  | refused (message : String)
  /-- The system refuses an operation on a file. -/
  | system (kind message : String)
  /-- A failure with its report laid down. -/
  | classified (exitCode : Int) (info : ErrorInfo)
  /-- Any other failure, with the name of its kind. -/
  | other (kind message : String)
  deriving Repr

namespace Failure

/-- The type in a report of a query text that cannot be read. -/
def usageType : String := "usage_error"

/-- The type in a report of an item that cannot be read. -/
def validationType : String := "validation_error"

/-- The type in a report of a file that cannot be read. -/
def fileType : String := "io_error"

/-- The failure with its report laid down, for the causes that have a type of their own. -/
def classify : Failure → Failure
  | badQuery message position => classified 2 ⟨usageType, message,
      position.map fun p => [("position", .int p)]⟩
  | badItem message => classified 2 ⟨validationType, message, none⟩
  | system _ message => classified 2 ⟨fileType, message, none⟩
  | failure => failure

/-- The name of the kind of a failure. -/
def kindName : Failure → String
  | badQuery _ _ => "FilterSyntaxError"
  | badItem _ => "ItemError"
  | refused _ => "FilterError"
  | system kind _ => kind
  | classified _ _ => "CLIError"
  | other kind _ => kind

/-- The message of a failure. -/
def message : Failure → RawText
  | badQuery message _ => message
  | badItem message => message
  | refused message => message
  | system _ message => message
  | classified _ info => info.message
  | other _ message => message

/-- The exit code of a command that fails. -/
def exitCode : Failure → Int
  | badQuery _ _ | badItem _ | refused _ => 2
  | system _ _ | other _ _ => 1
  | classified code _ => code

/-- What a report says about a failure. -/
def info : Failure → ErrorInfo
  | classified _ info => info
  | failure => ⟨failure.kindName, failure.message, none⟩

/-- The failure of a text that is no query. -/
def ofParseFault (fault : ParseFault) : Failure :=
  badQuery fault.message (some (Int.ofNat fault.position))

/-- The failure of a feed that cannot be read. -/
def ofFeedFault (fault : FeedFault) : Failure :=
  if fault.isItemFault then badItem fault.message else other fault.kindName fault.message

/-- The failure of bytes that are no text. -/
def ofDecodeFault (fault : Encoding.DecodeFault) : Failure :=
  other "UnicodeDecodeError" fault.message

end Failure

end KeywordQuery
