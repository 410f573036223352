import KeywordQuery.Layout.Highlight
import KeywordQuery.Layout.Markup
import KeywordQuery.Layout.Table
import KeywordQuery.Report.Render
import KeywordQuery.Text.Digit

/-!
# A console

A console that draws on pages of a given width: a text broken into lines, posts and fields as tables
in a frame, log records in columns without one.  Both of its streams are UTF-8; an unpaired
surrogate that gets onto the page is refused by standard output, and escaped on standard error.

* `HumanView.layOut` — a view as it is drawn, with stand-ins for unpaired surrogates;
* `console` — the console for a width;
* `consoleOf` — the console that environment variables ask for.
-/

namespace KeywordQuery

open Encoding (TextStream EncodeFault)

/-! ### Unpaired surrogates -/

/-- Characters that stand in for unpaired surrogates while a text is laid out.  They take one cell,
as the surrogates do, and do not occur in the text. -/
abbrev StandIns := List (Nat × Char)

namespace StandIns

/-- The first character of the last private plane. -/
def firstPrivate : Nat := 0x100000

/-- Stand-ins for the unpaired surrogates of texts, from the private characters that do not occur
in them. -/
def ofTexts (texts : List RawText) : StandIns :=
  let units := (texts.flatMap fun text => text.broken.map (·.1)).eraseDups
  if units.isEmpty then []
  else
    let used := (texts.flatMap fun text => text.runs.flatMap String.toList).filter fun c =>
      firstPrivate ≤ c.toNat
    let free := (List.range (units.length + used.length)).map fun n => Char.ofNat (firstPrivate + n)
    units.zip (free.filter fun c => !used.contains c)

/-- The character that stands in for a unit. -/
def charOf (standIns : StandIns) (unit : Nat) : Char :=
  ((standIns.find? (·.1 == unit)).map (·.2)).getD '\ufffd'

/-- The text with the stand-ins of its unpaired surrogates. -/
def fill (standIns : StandIns) (text : RawText) : String := text.fill standIns.charOf

/-- The unit that a character is or stands in for. -/
def unitOf (standIns : StandIns) (c : Char) : TextUnit :=
  match standIns.find? (·.2 == c) with
  | some (unit, _) => .half unit
  | none => .char c

/-- What has been laid out, with unpaired surrogates in the place of their stand-ins. -/
def unfill (standIns : StandIns) (laidOut : String) : RawText :=
  .ofUnits (laidOut.toList.map standIns.unitOf)

end StandIns

/-! ### Views -/

namespace HumanView

/-- The columns of names with their values. -/
def fieldColumns : List Layout.Column := [⟨"field", .ellipsis⟩, ⟨"value", .ellipsis⟩]

/-- A view laid out on a page of the given width. -/
def layOut (width : Nat) (standIns : StandIns) : HumanView → Except Layout.MarkupFault String
  | page text => .ok (Layout.page width (standIns.fill text))
  | posts rows footer =>
    .ok (Layout.table width (postColumns.map (⟨·, .fold⟩))
        (rows.map (·.map fun cell => .ofString (standIns.fill cell))) ++
      Layout.page width (standIns.fill footer))
  | fields rows => do
    let cells ← rows.mapM fun (name, value) => do
      return [← Layout.heading (standIns.fill name), .ofString (standIns.fill value)]
    return Layout.table width fieldColumns cells

end HumanView

namespace Layout

/-! ### Consoles -/

/-- The advice to people when a text cannot be printed. -/
def encodingAdvice : String :=
  "\n*** You may need to add PYTHONIOENCODING=utf-8 to your environment ***"

/-- A view on a page of the given width, as a stream prints it. -/
def printView (stream : TextStream) (width : Nat) (view : HumanView) : Except Failure RawText :=
  let standIns := StandIns.ofTexts view.texts
  match view.layOut width standIns with
  | .error fault => .error (.other fault.kindName fault.message)
  | .ok laidOut =>
    match stream.write (standIns.unfill laidOut) with
    | .error fault =>
      .error (.ofEncodeFault { fault with reason := fault.reason ++ encodingAdvice })
    | .ok printed => .ok printed

/-- The console for pages of the given width. -/
def console (width : Nat) : Console where
  stdout := .utf8
  printView := printView .utf8 width
  printNote text := printView .utf8Escaping width (.page text)
  logRecord record := logLine width record.level.name (highlight record.text) record.place

@[simp] theorem console_stdout (width : Nat) : (console width).stdout = .utf8 := rfl

@[simp] theorem console_printView (width : Nat) (view : HumanView) :
    (console width).printView view = printView .utf8 width view := by
  rw [console]

@[simp] theorem console_printNote (width : Nat) (note : RawText) :
    (console width).printNote note = printView .utf8Escaping width (.page note) := by
  rw [console]

/-! ### The environment -/

/-- The environment variable that gives the width of the page. -/
def widthVariable : String := "COLUMNS"

/-- The environment variable that gives the height of the page. -/
def heightVariable : String := "LINES"

/-- The width of a page where nothing else is asked for. -/
def defaultWidth : Nat := 80

/-- The most digits that a number in the environment may have. -/
def maxDigits : Nat := 4300

/-- The number that a value of digits spells. -/
def numberOf (value : String) : Except Failure Nat :=
  let digits := value.toList.takeWhile Text.isDecimal
  if maxDigits < digits.length then
    .error (.other "ValueError" (JsonFault.tooManyDigits digits.length).message)
  else
    match Text.decimalOf? value.toList with
    | some number => .ok number
    | none => .error (.other "ValueError" ("invalid literal for int() with base 10: " ++
        String.ofList ((Text.quote value).toList.take 200)))

/-- The size that a value asks for; one that is not of digits asks for none. -/
def sizeOf? : Option String → Except Failure (Option Nat)
  | none | some "" => .ok none
  | some value =>
    if value.toList.all Text.isDigitForm then (numberOf value).map some else .ok none

/-- The console that environment variables ask for.  The height is of no account, but it has to be
a number if it is of digits. -/
def consoleOf (lookup : String → Option String) : Except Failure Console := do
  let width ← sizeOf? (lookup widthVariable)
  let _height ← sizeOf? (lookup heightVariable)
  return console (width.getD defaultWidth)

end Layout

end KeywordQuery
