import KeywordQuery.Encoding.Utf8

/-!
# Lines of an input

A line ends at a line feed, a carriage return, or both in this order.

* `splitLines` — the lines of a text, and what stands after the last line end;
* `readLines` — the lines of an input of bytes, up to the first fault in their encoding.
-/

namespace KeywordQuery.Encoding

/-- A text read from its end: its lines, the characters after its last line end, and whether it
starts with a line feed. -/
structure LineScan where
  lines : List (List Char) := []
  last : List Char := []
  startsWithFeed : Bool := false
  deriving Repr, DecidableEq

/-- One character more at the start.  A carriage return before a line feed ends no line of its
own. -/
def LineScan.push (c : Char) (scan : LineScan) : LineScan :=
  if c = '\n' then ⟨[] :: scan.lines, scan.last, true⟩
  else if c = '\r' then
    if scan.startsWithFeed then { scan with startsWithFeed := false }
    else ⟨[] :: scan.lines, scan.last, false⟩
  else
    match scan.lines with
    | [] => ⟨[], c :: scan.last, false⟩
    | line :: lines => ⟨(c :: line) :: lines, scan.last, false⟩

/-- The lines of a text, and the characters after the last line end. -/
def splitLines (cs : List Char) : LineScan := cs.foldr LineScan.push {}

/-- The lines that can be told before a fault: those that have ended.  A carriage return at the
end of the characters may still be continued by a line feed. -/
def linesBeforeFault (cs : List Char) : List (List Char) :=
  (splitLines (if cs.getLast? = some '\r' then cs.dropLast else cs)).lines

/-- All lines of a text; what stands after the last line end is a line unless it is empty. -/
def allLines (cs : List Char) : List (List Char) :=
  let scan := splitLines cs
  if scan.last.isEmpty then scan.lines else scan.lines ++ [scan.last]

/-- The lines of an input, up to the first fault in their encoding, and that fault. -/
def readLines (bytes : List UInt8) : List String × Option DecodeFault :=
  match decode bytes with
  | (chars, none) => ((allLines chars).map String.ofList, none)
  | (chars, some fault) => ((linesBeforeFault chars).map String.ofList, some fault)

end KeywordQuery.Encoding
