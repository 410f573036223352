import KeywordQuery.Layout.Wrap

/-!
# Tables

A table in a frame, with a heavy line around its header, set to the width of a page.

* `columnWidths` — the widths of the columns: what they need, and less for the widest if that is
  too much;
* `tableRow` — a row, with its cells at the top or at the bottom;
* `table` — the printed table;
* `logLine` — a record of a log, set in columns without a frame.
-/

namespace KeywordQuery.Layout

/-- A column of a table. -/
structure Column where
  header : String
  overflow : Overflow
  deriving Repr, DecidableEq

/-! ### Widths -/

/-- Whether the character ends a line when a text is measured. -/
def isLineEnd (c : Char) : Bool :=
  [0x0a, 0x0b, 0x0c, 0x0d, 0x1c, 0x1d, 0x1e, 0x85, 0x2028, 0x2029].contains c.toNat

/-- The cells that the widest line of a text takes; a tab counts for nothing here. -/
def naturalWidth (cs : List Char) : Nat := ((cs.splitOnP isLineEnd).map textWidth).foldl max 0

/-- The quotient rounded to the nearest number, a tie going to the even one. -/
def nearestQuotient (num den : Nat) : Nat :=
  let quotient := num / den
  let twice := 2 * (num % den)
  if den < twice || (twice == den && quotient % 2 == 1) then quotient + 1 else quotient

/-- The widths with `excess` taken from those that are equal to `widest`, in parts that are as
equal as can be and at most `most`; `count` of them are left. -/
def reduceEvenly (widest most : Nat) : (excess count : Nat) → List Nat → List Nat
  | _, _, [] => []
  | excess, count, width :: rest =>
    if width = widest ∧ 0 < count then
      let part := min most (nearestQuotient excess count)
      (width - part) :: reduceEvenly widest most (excess - part) (count - 1) rest
    else width :: reduceEvenly widest most excess count rest

/-- One step of narrowing: the widest columns come closer to the next ones. -/
def narrowOnce (available : Nat) (widths : List Nat) : List Nat :=
  let widest := widths.foldl max 0
  let second := (widths.filter (· != widest)).foldl max 0
  let excess := total widths - available
  reduceEvenly widest (min excess (widest - second)) excess (widths.filter (· == widest)).length
    widths

/-- The widths narrowed until they fit, in at most the given number of steps. -/
def narrow (available : Nat) : (steps : Nat) → List Nat → List Nat
  | 0, widths => widths
  | steps + 1, widths =>
    if total widths ≤ available then widths
    else narrow available steps (narrowOnce available widths)

/-- The widths of columns that need the given ones, narrowed if they do not fit.  Every step takes
at least one cell away. -/
def columnWidths (available : Nat) (needed : List Nat) : List Nat :=
  let widths := needed.map (min available)
  narrow available (total widths) widths

/-! ### Frames -/

/-- The characters of one horizontal line of a frame. -/
structure Rule where
  left : Char
  line : Char
  cross : Char
  right : Char

/-- The line above the header. -/
def topRule : Rule := ⟨'┏', '━', '┳', '┓'⟩

/-- The line below the header. -/
def headRule : Rule := ⟨'┡', '━', '╇', '┩'⟩

/-- The line below the last row. -/
def bottomRule : Rule := ⟨'└', '─', '┴', '┘'⟩

/-- A horizontal line over columns of the given widths. -/
def Rule.draw (rule : Rule) (widths : List Nat) : List Char :=
  rule.left ::
    (List.intercalate [rule.cross] (widths.map (List.replicate · rule.line)) ++ [rule.right])

/-- Where a cell stands in a row that is taller. -/
inductive Standing where
  | top
  | bottom
  deriving Repr, DecidableEq

/-- The lines of cells side by side, each cell filled with blank lines to the height of the
tallest. -/
def sideBySide (standing : Standing) (widths : List Nat) (cells : List (List (List Char))) :
    List (List (List Char)) :=
  let height := (cells.map List.length).foldl max 1
  (List.range height).map fun i =>
    (widths.zip cells).map fun (width, lines) =>
      let blank := List.replicate width ' '
      match standing with
      | .top => lines.getD i blank
      | .bottom => (List.replicate (height - lines.length) blank ++ lines).getD i blank

/-- A row of a table: its cells between bars, with a blank on both sides of every cell. -/
def tableRow (bar : Char) (standing : Standing) (widths : List Nat) (overflows : List Overflow)
    (row : List StyledText) : List (List Char) :=
  let cells := (widths.zip (overflows.zip row)).map fun (width, overflow, text) =>
    (cellLines (width - 2) overflow text).map fun line => ' ' :: (line ++ [' '])
  (sideBySide standing widths cells).map fun parts => bar :: (List.intercalate [bar] parts ++ [bar])

/-- Lines with a line break after each. -/
def ofLines (lines : List (List Char)) : String :=
  String.ofList (lines.flatMap (· ++ ['\n']))

/-- A table with its frame, on a page of the given width.  A page that is too narrow for the frame
alone cuts it. -/
def table (pageWidth : Nat) (columns : List Column) (rows : List (List StyledText)) : String :=
  if pageWidth = 0 then "" else
  let headers := columns.map fun column => StyledText.ofString column.header
  let overflows := columns.map (·.overflow)
  let needed := columns.zipIdx.map fun (_, i) =>
    ((headers :: rows).map fun row => naturalWidth (row.getD i ⟨[], []⟩).chars).foldl max 0 + 2
  let widths := columnWidths (pageWidth - (columns.length + 1)) needed
  let lines := topRule.draw widths :: tableRow '┃' .bottom widths overflows headers ++
    headRule.draw widths :: rows.flatMap (tableRow '│' .top widths overflows) ++
    [bottomRule.draw widths]
  ofLines (if columns.length < pageWidth then lines else lines.map (·.take pageWidth))

/-! ### Log records -/

/-- The cells that a level takes in a log line, with the blank after it. -/
def levelWidth : Nat := 9

/-- A log record: the level, the message, broken to what is left of the page, and at the right
edge the place that the record names. -/
def logLine (pageWidth : Nat) (level : String) (message : StyledText) (place : String) : String :=
  if pageWidth = 0 then "" else
  let placeWidth := naturalWidth place.toList
  let messageWidth := max 2 (pageWidth - levelWidth - placeWidth)
  let messageLines := (cellLines (messageWidth - 1) .fold message).map (· ++ [' '])
  let widths := [levelWidth, messageWidth, placeWidth]
  let cells := [cellLines levelWidth .fold (.ofString level), messageLines,
    cellLines placeWidth .fold (.ofString place)]
  ofLines ((sideBySide .top widths cells).map List.flatten)

end KeywordQuery.Layout
