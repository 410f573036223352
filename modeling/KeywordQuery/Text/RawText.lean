import KeywordQuery.Text.Quoted

/-!
# Texts with unpaired surrogates

Escapes can put half of a surrogate pair into a text without its other half.  Such a half is no
character: it matches nothing, it separates words, and it cannot be printed.

* `RawText` — a text with halves in it; `RawText.ofString` and `RawText.toString?` relate it to the
  texts without any;
* `RawText.ofUnits`, `RawText.toUnits` — the text of characters and halves in order, and back;
* `RawText.join` — texts one behind the other;
* `RawText.runs` — its pieces between halves;
* `RawText.quote` — its quoted form.
-/

namespace KeywordQuery

/-- A part of a text: a character, or half of a surrogate pair without the other half. -/
inductive TextUnit where
  | char (c : Char)
  | half (unit : Nat)
  deriving Repr, DecidableEq

/-- A text that may hold unpaired surrogates: the characters before the first of them, and each of
them with the characters up to the next. -/
structure RawText where
  start : String
  broken : List (Nat × String) := []
  deriving Repr, DecidableEq, Inhabited

namespace RawText

/-- A text without unpaired surrogates. -/
def ofString (s : String) : RawText := ⟨s, []⟩

instance : Coe String RawText := ⟨ofString⟩

/-- The text as a string, if it has no unpaired surrogates. -/
def toString? (text : RawText) : Option String :=
  match text.broken with
  | [] => some text.start
  | _ :: _ => none

/-- Whether the text has no unpaired surrogates. -/
def isWhole (text : RawText) : Bool := text.broken.isEmpty

/-- The pieces between unpaired surrogates. -/
def runs (text : RawText) : List String := text.start :: text.broken.map (·.2)

/-- Whether the text holds nothing. -/
def isEmpty (text : RawText) : Bool := text.start.isEmpty && text.isWhole

@[simp] theorem toString?_ofString (s : String) : (ofString s).toString? = some s := rfl

@[simp] theorem isWhole_ofString (s : String) : (ofString s).isWhole = true := rfl

@[simp] theorem runs_ofString (s : String) : (ofString s).runs = [s] := rfl

/-! ### Units -/

/-- The units of a text without unpaired surrogates. -/
def unitsOf (s : String) : List TextUnit := s.toList.map .char

/-- The characters before the first half, and each half with the characters up to the next. -/
def split : List TextUnit → List Char × List (Nat × List Char)
  | [] => ([], [])
  | .char c :: rest => let (start, broken) := split rest; (c :: start, broken)
  | .half unit :: rest => let (start, broken) := split rest; ([], (unit, start) :: broken)

/-- The text of the units. -/
def ofUnits (units : List TextUnit) : RawText :=
  let (start, broken) := split units
  ⟨String.ofList start, broken.map fun (unit, run) => (unit, String.ofList run)⟩

/-- The units of the text. -/
def toUnits (text : RawText) : List TextUnit :=
  text.start.toList.map .char ++
    text.broken.flatMap fun (unit, run) => .half unit :: run.toList.map .char

theorem toUnits_ofString (s : String) : (ofString s).toUnits = unitsOf s := by
  simp [toUnits, ofString, unitsOf]

theorem split_map_char (cs : List Char) : split (cs.map .char) = (cs, []) := by
  induction cs with
  | nil => rfl
  | cons c cs ih => simp [split, ih]

theorem ofUnits_map_char (cs : List Char) :
    ofUnits (cs.map .char) = ofString (String.ofList cs) := by
  simp [ofUnits, split_map_char, ofString]

theorem split_map_char_append (cs : List Char) (units : List TextUnit) :
    split (cs.map .char ++ units) = (cs ++ (split units).1, (split units).2) := by
  induction cs with
  | nil => rfl
  | cons c cs ih => simp only [List.map_cons, List.cons_append, split, ih]

theorem split_flatMap (broken : List (Nat × String)) :
    split (broken.flatMap fun (unit, run) => .half unit :: run.toList.map .char) =
      ([], broken.map fun (unit, run) => (unit, run.toList)) := by
  induction broken with
  | nil => rfl
  | cons part broken ih =>
    rw [List.flatMap_cons, List.cons_append, split, split_map_char_append, ih]
    simp

@[simp] theorem ofUnits_toUnits (text : RawText) : ofUnits text.toUnits = text := by
  obtain ⟨start, broken⟩ := text
  simp only [ofUnits, toUnits, split_map_char_append, split_flatMap, List.append_nil,
    String.ofList_toList, List.map_map]
  exact congrArg (RawText.mk start) (by simp [Function.comp_def])

@[simp] theorem toUnits_ofUnits (units : List TextUnit) : (ofUnits units).toUnits = units := by
  induction units with
  | nil => rfl
  | cons unit units ih =>
    simp only [ofUnits, toUnits, String.toList_ofList] at ih
    cases unit with
    | char c => simpa [ofUnits, toUnits, split] using ih
    | half unit => simpa [ofUnits, toUnits, split] using ih

/-! ### Texts one behind the other -/

instance : Append RawText := ⟨fun left right => ofUnits (left.toUnits ++ right.toUnits)⟩

@[simp] theorem toUnits_append (left right : RawText) :
    (left ++ right).toUnits = left.toUnits ++ right.toUnits := toUnits_ofUnits _

theorem ofString_append (left right : String) :
    ofString (left ++ right) = ofString left ++ ofString right := by
  show _ = ofUnits _
  rw [toUnits_ofString, toUnits_ofString, unitsOf, unitsOf, ← List.map_append, ofUnits_map_char,
    ← String.toList_append, String.ofList_toList]

@[simp] theorem empty_append (text : RawText) : ofString "" ++ text = text := ofUnits_toUnits text

/-- Texts one behind the other. -/
def join (texts : List RawText) : RawText := ofUnits (texts.flatMap toUnits)

/-! ### Stand-ins -/

/-- The text with a character in the place of every unpaired surrogate. -/
def fill (standIn : Nat → Char) (text : RawText) : String :=
  String.ofList <| text.start.toList ++
    text.broken.flatMap fun (unit, run) => standIn unit :: run.toList

/-- The text with the replacement character in the place of every unpaired surrogate. -/
def replaced (text : RawText) : String := text.fill fun _ => '\ufffd'

/-! ### Quoting -/

/-- A unit as it stands inside a text quoted with `mark`. -/
def quoteUnit (mark : Char) : TextUnit → List Char
  | .char c => Text.quoteChar mark c
  | .half unit => '\\' :: 'u' :: Text.hexDigits 4 unit

/-- The text in quotes, with escapes. -/
def quote (text : RawText) : String :=
  let mark := Text.quoteMark (text.runs.flatMap String.toList)
  String.ofList (mark :: (text.toUnits.flatMap (quoteUnit mark) ++ [mark]))

end RawText

end KeywordQuery
