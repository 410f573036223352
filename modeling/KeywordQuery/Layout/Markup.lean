import KeywordQuery.Layout.Handler
import KeywordQuery.Layout.Pictures
import KeywordQuery.Layout.Style
import KeywordQuery.Layout.Styled

/-!
# Style tags in headings

The name of a field may hold style tags in square brackets, and names of pictures.  Tags are taken
out of what is printed; a backslash before the bracket keeps one.  A tag that starts with a slash
closes the latest tag of its style, or just the latest one if it names none.  A tag that starts
with `@` is a handler, whose arguments are checked when it is closed.

* `markupParts` — a text as plain parts and tags;
* `heading` — a text as it is printed, or its first fault.
-/

namespace KeywordQuery.Layout

open Text (trim)

/-- What is wrong with the tags of a text. -/
inductive MarkupFault where
  /-- A closing tag of a style that is not open; the tag is given without brackets. -/
  | unmatched (tag : String) (position : Nat)
  /-- A closing tag without a style, where none is open. -/
  | nothingToClose (position : Nat)
  | badStyle (fault : StyleFault)
  | badHandler (fault : HandlerFault)
  deriving Repr, DecidableEq

namespace MarkupFault

/-- The name of the kind of a fault. -/
def kindName : MarkupFault → String
  | badStyle _ => "ValueError"
  | _ => "MarkupError"

/-- The message that describes a fault. -/
def message : MarkupFault → String
  | unmatched tag position => "closing tag '[" ++ tag ++ "]' at position " ++
      toString position ++ " doesn't match any open tag"
  | nothingToClose position =>
    "closing tag '[/]' at position " ++ toString position ++ " has nothing to close"
  | badStyle (.notNumber text) =>
    "invalid literal for int() with base 10: " ++ Text.quote text
  | badStyle .form => "no style"
  | badHandler fault => fault.message

end MarkupFault

/-! ### Tags -/

/-- Whether a tag may start with the character. -/
def startsTag (c : Char) : Bool :=
  ('a' ≤ c && c ≤ 'z') || c == '#' || c == '/' || c == '@'

/-- The tag whose opening bracket has been read, and the characters after its closing bracket. -/
def readTag (cs : List Char) : Option (List Char × List Char) :=
  match cs with
  | [] => none
  | c :: rest =>
    if startsTag c then
      let body := rest.takeWhile fun d => d != ']' && d != '['
      match rest.drop body.length with
      | ']' :: after => some (c :: body, after)
      | _ => none
    else none

/-- A part of a text with tags. -/
inductive MarkupPart where
  | plain (chars : List Char)
  | tag (body : List Char) (position : Nat)

/-- The parts of the characters from a position on; `plain` holds those since the last tag, the
latest first, and at most `fuel` characters are read. -/
def markupParts (fuel position : Nat) (plain : List Char) (cs : List Char) : List MarkupPart :=
  match fuel, cs with
  | 0, _ | _, [] => if plain.isEmpty then [] else [.plain plain.reverse]
  | fuel + 1, c :: rest =>
    let slashes := cs.takeWhile (· == '\\')
    let ordinary := markupParts fuel (position + 1) (c :: plain) rest
    match cs.drop slashes.length with
    | '[' :: inside =>
      match readTag inside with
      | none =>
        if slashes.isEmpty then ordinary
        else markupParts fuel (position + slashes.length) (slashes.reverse ++ plain) ('[' :: inside)
      | some (body, after) =>
        let before := if plain.isEmpty then [] else [.plain plain.reverse]
        let half := slashes.length / 2
        let literal := if half = 0 then [] else [.plain (List.replicate half '\\')]
        let finish := position + slashes.length + body.length + 2
        let this : MarkupPart :=
          if slashes.length % 2 = 1 then .plain ('[' :: (body ++ [']']))
          else .tag body (position + 2 * half)
        before ++ literal ++ this :: markupParts fuel finish [] after
    | _ =>
      if slashes.isEmpty then ordinary
      else markupParts fuel (position + slashes.length) (slashes.reverse ++ plain)
        (cs.drop slashes.length)

/-- Plain characters as they are printed: a backslash before an opening bracket is left out. -/
def unescape : List Char → List Char
  | '\\' :: '[' :: rest => '[' :: unescape rest
  | c :: rest => c :: unescape rest
  | [] => []

/-- The name of a tag, and what follows the equals sign after it. -/
def splitTag (body : List Char) : List Char × Option (List Char) :=
  let name := body.takeWhile (· != '=')
  (name, if name.length < body.length then some (body.drop (name.length + 1)) else none)

/-! ### Setting the text -/

/-- A tag that is open: where its stretch starts, its style, and what follows the equals sign. -/
structure OpenTag where
  start : Nat
  style : String
  parameters : Option (List Char)
  deriving Repr, DecidableEq

/-- The words of the style that a tag asks for. -/
def OpenTag.words (tag : OpenTag) : List Char :=
  match tag.parameters with
  | none => tag.style.toList
  | some parameters => tag.style.toList ++ ' ' :: parameters

/-- Whether a tag is a handler. -/
def OpenTag.isHandler (tag : OpenTag) : Bool := tag.style.startsWith "@"

/-- A text that is being set: what has been printed, the tags that are open, the latest first, and
those that are closed and no handlers. -/
structure Setting where
  text : StyledText := ⟨[], []⟩
  opened : List OpenTag := []
  closed : List OpenTag := []
  deriving Repr

namespace Setting

/-- Plain characters are printed. -/
def print (s : Setting) (chars : List Char) : Setting :=
  { s with text := { s.text with
      chars := s.text.chars ++ sanitize (replacePictures (unescape chars)) } }

/-- The stretch of a tag ends here. -/
def finish (s : Setting) (tag : OpenTag) (others : List OpenTag) : Except MarkupFault Setting := do
  if tag.isHandler then
    if let some parameters := tag.parameters then
      if let .error fault := checkHandler parameters then throw (.badHandler fault)
  return {
    text := { s.text with spans := s.text.spans ++ [⟨tag.start, s.text.chars.length⟩] }
    opened := others
    closed := if tag.isHandler then s.closed else s.closed ++ [tag] }

/-- The name of a style, for comparing it. -/
def nameOf (cs : List Char) : Except MarkupFault String := (styleName cs).mapError .badStyle

/-- The text after a tag. -/
def read (s : Setting) (body : List Char) (position : Nat) : Except MarkupFault Setting := do
  match splitTag body with
  | ('/' :: closed, _) =>
    if (trim closed).isEmpty then
      match s.opened with
      | [] => throw (.nothingToClose position)
      | tag :: others => s.finish tag others
    else
      let style ← nameOf (trim closed)
      match s.opened.find? (·.style == style) with
      | none => throw (.unmatched (String.ofList body) position)
      | some tag => s.finish tag (s.opened.eraseP (·.style == style))
  | (name, parameters) =>
    let style ← nameOf name
    return { s with opened := ⟨s.text.chars.length, style, parameters⟩ :: s.opened }

/-- The text after the parts. -/
def readAll (s : Setting) : List MarkupPart → Except MarkupFault Setting
  | [] => .ok s
  | .plain chars :: rest => (s.print chars).readAll rest
  | .tag body position :: rest => do (← s.read body position).readAll rest

/-- The text with the stretches of the tags that were never closed.  The styles of all stretches
are looked up. -/
def complete (s : Setting) : Except MarkupFault StyledText := do
  for tag in s.closed ++ s.opened do
    if let .error (.notNumber text) := Style.ofText tag.words then
      throw (.badStyle (.notNumber text))
  return { s.text with spans :=
      s.text.spans ++ s.opened.map fun tag => ⟨tag.start, s.text.chars.length⟩ }

end Setting

/-- A text as it is printed, with its stretches and without its tags. -/
def heading (text : String) : Except MarkupFault StyledText :=
  let cs := text.toList
  if cs.contains '[' then do
    (← Setting.readAll {} (markupParts cs.length 0 [] cs)).complete
  else .ok ⟨sanitize (replacePictures cs), []⟩

end KeywordQuery.Layout
