import KeywordQuery.Json.Writer
import KeywordQuery.Number.IntegerText
import KeywordQuery.Report.Failure

/-!
# Reports

What a command reports: whether it succeeded, its data, its warnings, and on failure the error.

* `Report` — a report;
* `Report.toJson` — its JSON envelope;
* `Report.ofJson` — the report of an envelope; numbers and truth values may come in other forms.
-/

namespace KeywordQuery

/-- The report of a command. -/
structure Report where
  ok : Bool
  command : RawText
  data : Json := .null
  warnings : List RawText := []
  durationMs : Int
  policy : Option RawText := none
  error : Option ErrorInfo := none
  deriving Repr

/-- The JSON value of an error. -/
def ErrorInfo.toJson (info : ErrorInfo) : Json :=
  .obj [("type", .str info.type), ("message", .str info.message),
    ("details", .ofOption .obj info.details)]

namespace Report

/-- The JSON envelope of a report. -/
def toJson (report : Report) : Json :=
  .reportForm <| .obj [
    ("ok", .bool report.ok),
    ("command", .str report.command),
    ("data", report.data),
    ("warnings", .arr (report.warnings.map .str)),
    ("meta", .obj [("durationMs", .int report.durationMs),
      ("match", .ofOption .str report.policy)]),
    ("error", .ofOption ErrorInfo.toJson report.error)]

/-! ### Reading envelopes -/

/-- A part of an envelope that is missing or of the wrong kind. -/
structure EnvelopeFault where
  path : List String
  deriving Repr, DecidableEq

/-- The message that describes a fault. -/
def EnvelopeFault.message (fault : EnvelopeFault) : String :=
  "invalid value at " ++ String.intercalate "." fault.path

/-- The texts that stand for a truth value. -/
def truthWords : List (String × Bool) :=
  (["1", "on", "t", "true", "y", "yes"].map (·, true)) ++
    (["0", "off", "f", "false", "n", "no"].map (·, false))

/-- The truth value of a value. -/
def truthOf? : Json → Option Bool
  | .bool value => some value
  | .int 1 => some true
  | .int 0 => some false
  | .float number => number.toInt?.bind fun n =>
      if n = 1 then some true else if n = 0 then some false else none
  | .str word => do (truthWords.find? (·.1 == (← word.toString?).toLower)).map (·.2)
  | _ => none

/-- The integer of a value. -/
def integerOf? : Json → Option Int
  | .int value => some value
  | .bool value => some (if value then 1 else 0)
  | .float number => (Post.integerOfFloat number).toOption
  | .str text => text.toString?.bind integerOfText?
  | _ => none

/-- The text of a value. -/
def textOf? : Json → Option RawText
  | .str value => some value
  | _ => none

/-- The value read in the given way, unless it is null. -/
def optionalOf? {α : Type} (read : Json → Option α) : Json → Option (Option α)
  | .null => some none
  | value => (read value).map some

/-- The fields of an object. -/
def fieldsOf? : Json → Option Json.Fields
  | .obj fields => some fields
  | _ => none

/-- The texts of a list. -/
def textsOf? : Json → Option (List RawText)
  | .arr items => items.mapM textOf?
  | _ => none

/-- A field that has to be there, read in the given way. -/
def required {α : Type} (fields : Json.Fields) (path : List String) (names : List String)
    (read : Json → Option α) : Except EnvelopeFault α :=
  match (names.findSome? (Json.field? fields ·)).bind read with
  | some value => .ok value
  | none => .error ⟨path ++ names.take 1⟩

/-- A field that may be missing, read in the given way. -/
def provided {α : Type} (fields : Json.Fields) (path : List String) (name : String)
    (default : α) (read : Json → Option α) : Except EnvelopeFault α :=
  match Json.field? fields name with
  | none => .ok default
  | some value =>
    match read value with
    | some value => .ok value
    | none => .error ⟨path ++ [name]⟩

/-- The error of an envelope. -/
def errorOf (fields : Json.Fields) : Except EnvelopeFault ErrorInfo := do
  return {
    type := ← required fields ["error"] ["type"] textOf?
    message := ← required fields ["error"] ["message"] textOf?
    details := ← provided fields ["error"] "details" none (optionalOf? fieldsOf?) }

/-- The report of an envelope. -/
def ofJson (value : Json) : Except EnvelopeFault Report :=
  match value with
  | .obj fields => do
    let about ← required fields [] ["meta"] fieldsOf?
    let error ← provided fields [] "error" none (optionalOf? fieldsOf?)
    return {
      ok := ← required fields [] ["ok"] truthOf?
      command := ← required fields [] ["command"] textOf?
      data := (Json.field? fields "data").getD .null
      warnings := ← provided fields [] "warnings" [] textsOf?
      durationMs := ← required about ["meta"] ["durationMs", "duration_ms"] integerOf?
      policy := ← provided about ["meta"] "match" none (optionalOf? textOf?)
      error := ← error.mapM errorOf }
  | _ => .error ⟨[]⟩

end Report

end KeywordQuery
