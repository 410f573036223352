import KeywordQuery.Report.Basic

/-!
# Reports as people read them

The data of a report as a page, as a list of posts, or as names with their values.  How a view is
drawn is not said here.

* `HumanView` — a view;
* `HumanView.ofData` — the view of the data of a successful report;
* `Report.errorNote`, `Report.warningNotes` — what a report tells beside its data.
-/

namespace KeywordQuery

/-- Why data have no view. -/
inductive ViewFault where
  /-- The posts are of a kind that has no length. -/
  | unsized (kind : String)
  /-- A post is of a kind that has no fields. -/
  | fieldless (kind : String)
  deriving Repr, DecidableEq

/-- The failure of a command whose data have no view. -/
def ViewFault.failure : ViewFault → Failure
  | unsized kind => .other "TypeError" ("object of type '" ++ kind ++ "' has no len()")
  | fieldless kind => .other "AttributeError" ("'" ++ kind ++ "' object has no attribute 'get'")

/-- The texts separated by commas. -/
def RawText.commaSeparated (texts : List RawText) : RawText := join (texts.intersperse ", ")

/-- A value in a cell of a table: nothing for null, and the items of a list with commas. -/
def Json.cellText : Json → RawText
  | .null => ""
  | .arr items => .commaSeparated (items.map Json.display)
  | value => value.display

/-- Data as people read them. -/
inductive HumanView where
  /-- A text on its own. -/
  | page (text : RawText)
  /-- Posts with a line below them. -/
  | posts (rows : List (List RawText)) (footer : RawText)
  /-- Names with their values. -/
  | fields (rows : List (RawText × RawText))
  deriving Repr, DecidableEq

namespace HumanView

/-- The names of the columns of posts. -/
def postColumns : List String := ["id", "author", "text"]

/-- The row of a post. -/
def postRow : Json → Except ViewFault (List RawText)
  | .obj entries => .ok (postColumns.map fun column =>
      ((Json.field? entries column).getD .null).cellText)
  | other => .error (.fieldless other.kindName)

/-- The members of a value that has a length. -/
def membersOf : Json → Except ViewFault (List Json)
  | .arr items => .ok items
  | .obj entries => .ok (entries.map (.str ·.1))
  | .str text => .ok (text.toUnits.map fun unit => .str (.ofUnits [unit]))
  | other => .error (.unsized other.kindName)

/-- Posts with their number below them. -/
def ofPosts (count : Option Json) (value : Json) : Except ViewFault HumanView := do
  let members ← membersOf value
  let footer := (count.getD (.int members.length)).display ++ .ofString " matching post(s)"
  if members.isEmpty then return page footer
  return posts (← members.mapM postRow) footer

/-- The view of the data of a successful report. -/
def ofData (command : RawText) (data : Json) : Except ViewFault HumanView :=
  match data with
  | .obj entries =>
    if command = .ofString "version" then
      .ok (page ((Json.field? entries "version").getD (.str "")).display)
    else if command = .ofString "match" then
      match (Json.field? entries "posts").getD .null with
      | .null => .ok (page ((Json.field? entries "count").getD (.int 0)).display)
      | members => ofPosts (Json.field? entries "count") members
    else .ok (fields (entries.map fun (name, value) => (name, value.cellText)))
  | data => .ok (page data.cellText)

/-- The texts that a view shows. -/
def texts : HumanView → List RawText
  | page text => [text]
  | posts rows footer => rows.flatten ++ [footer]
  | fields rows => rows.flatMap fun (name, value) => [name, value]

end HumanView

namespace Report

/-- The words before the message of an error. -/
def errorTitle (type : RawText) : String :=
  match type.toString? with
  | none => "Error"
  | some type =>
    let type := String.ofList (Text.trim type.toList)
    if type = Failure.usageType then "Syntax error"
    else if type = Failure.validationType then "Invalid input"
    else if type = Failure.fileType then "I/O error"
    else "Error"

/-- An error in words. -/
def errorNote : Option ErrorInfo → RawText
  | some info => .ofString (errorTitle info.type ++ ": ") ++ info.message
  | none => "Error"

/-- The warnings in words. -/
def warningNotes (warnings : List RawText) : List RawText :=
  warnings.map (.ofString "Warning: " ++ ·)

end Report

end KeywordQuery
