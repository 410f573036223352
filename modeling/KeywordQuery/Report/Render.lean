import KeywordQuery.Encoding.Stream
import KeywordQuery.Log
import KeywordQuery.Report.View

/-!
# Printing reports

A report is printed as one line of JSON, or for people to read: its data on standard output, and
its error or its warnings on standard error.  A stream may not take all of it, and a console may not
be able to draw it; what is printed before that stays.

* `Console` — where reports and the log go;
* `Emission` — what printing comes to;
* `Report.emit` — the printing of a report.
-/

namespace KeywordQuery

open Encoding (TextStream EncodeFault)

/-- The form in which reports are printed. -/
inductive OutputForm where
  | table
  | json
  deriving Repr, DecidableEq

/-- The name under which a form is chosen. -/
def OutputForm.name : OutputForm → String
  | table => "table"
  | json => "json"

/-- All forms, in the order in which they are offered. -/
def OutputForm.all : List OutputForm := [table, json]

/-- What is printed, on standard output and on standard error. -/
structure Printed where
  out : RawText := ""
  err : RawText := ""
  deriving Repr, DecidableEq

instance : Append Printed := ⟨fun left right => ⟨left.out ++ right.out, left.err ++ right.err⟩⟩

@[simp] theorem Printed.out_append (left right : Printed) :
    (left ++ right).out = left.out ++ right.out := rfl

@[simp] theorem Printed.err_append (left right : Printed) :
    (left ++ right).err = left.err ++ right.err := rfl

/-- Where reports and the log go. -/
structure Console where
  /-- The standard output. -/
  stdout : TextStream
  /-- What is printed of a view on standard output, or why it cannot be printed. -/
  printView : HumanView → Except Failure RawText
  /-- What is printed of a text on standard error, or why it cannot be printed. -/
  printNote : RawText → Except Failure RawText
  /-- What is printed of a log record on standard error. -/
  logRecord : LogRecord → RawText

/-- What printing comes to: what is printed, and the failure that ends it. -/
structure Emission where
  printed : Printed := {}
  failure : Option Failure := none
  deriving Repr

/-- The failure of a command whose output is refused. -/
def Failure.ofEncodeFault (fault : EncodeFault) : Failure :=
  .other EncodeFault.kindName fault.message

/-- The line that a value is written as. -/
def Json.line (value : Json) : RawText := value.toLine ++ .ofString "\n"

/-- The printing of notes one after another, up to the first that cannot be printed. -/
def Console.printNotes (console : Console) : List RawText → Emission
  | [] => {}
  | note :: notes =>
    match console.printNote note with
    | .error failure => { failure }
    | .ok err =>
      let rest := console.printNotes notes
      { rest with printed := { err } ++ rest.printed }

namespace Report

variable (console : Console)

/-- The printing of a report as a line of JSON. -/
def emitJson (report : Report) : Emission :=
  match console.stdout.write report.toJson.line with
  | .ok out => { printed := { out } }
  | .error fault => { failure := some (.ofEncodeFault fault) }

/-- The printing of a report for people to read. -/
def emitTable (quiet : Bool) (report : Report) : Emission :=
  if report.ok then
    match HumanView.ofData report.command report.data with
    | .error fault => { failure := some fault.failure }
    | .ok view =>
      match console.printView view with
      | .error failure => { failure }
      | .ok out =>
        let rest := if quiet then {} else console.printNotes (warningNotes report.warnings)
        { rest with printed := { out } ++ rest.printed }
  else console.printNotes [errorNote report.error]

/-- The printing of a report. -/
def emit (form : OutputForm) (quiet : Bool) (report : Report) : Emission :=
  match form with
  | .json => emitJson console report
  | .table => emitTable console quiet report

end Report

end KeywordQuery
