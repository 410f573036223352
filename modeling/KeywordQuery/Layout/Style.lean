import KeywordQuery.Text.Blank
import KeywordQuery.Text.Digit
import KeywordQuery.Text.Lower

/-!
# Styles

A style is described by words: effects, each perhaps with `not` before it, a colour, a colour of
the ground after `on`, and an address after `link`.

* `Style` — a style, and `Style.name` its description in a fixed order;
* `Style.ofWords` — the style that words describe;
* `styleName` — the name under which styles are compared.
-/

namespace KeywordQuery.Layout

/-- Words of a text, which blanks separate. -/
def blankSeparated (cs : List Char) : List (List Char) :=
  (cs.splitOnP Text.isBlank).filter (!·.isEmpty)

/-! ### Colours -/

/-- The names of colours. -/
def colorLines : List String :=
  ["black red green yellow blue magenta cyan white bright_black bright_red bright_green",
   "bright_yellow bright_blue bright_magenta bright_cyan bright_white grey0 gray0 navy_blue",
   "dark_blue blue3 blue1 dark_green deep_sky_blue4 dodger_blue3 dodger_blue2 green4",
   "spring_green4 turquoise4 deep_sky_blue3 dodger_blue1 green3 spring_green3 dark_cyan",
   "light_sea_green deep_sky_blue2 deep_sky_blue1 spring_green2 cyan3 dark_turquoise turquoise2",
   "green1 spring_green1 medium_spring_green cyan2 cyan1 dark_red deep_pink4 purple4 purple3",
   "blue_violet orange4 grey37 gray37 medium_purple4 slate_blue3 royal_blue1 chartreuse4",
   "dark_sea_green4 pale_turquoise4 steel_blue steel_blue3 cornflower_blue chartreuse3",
   "cadet_blue sky_blue3 steel_blue1 pale_green3 sea_green3 aquamarine3 medium_turquoise",
   "chartreuse2 sea_green2 sea_green1 aquamarine1 dark_slate_gray2 dark_magenta dark_violet",
   "purple light_pink4 plum4 medium_purple3 slate_blue1 yellow4 wheat4 grey53 gray53",
   "light_slate_grey light_slate_gray medium_purple light_slate_blue dark_olive_green3",
   "dark_sea_green light_sky_blue3 sky_blue2 dark_sea_green3 dark_slate_gray3 sky_blue1",
   "chartreuse1 light_green pale_green1 dark_slate_gray1 red3 medium_violet_red magenta3",
   "dark_orange3 indian_red hot_pink3 medium_orchid3 medium_orchid medium_purple2 dark_goldenrod",
   "light_salmon3 rosy_brown grey63 gray63 medium_purple1 gold3 dark_khaki navajo_white3 grey69",
   "gray69 light_steel_blue3 light_steel_blue yellow3 dark_sea_green2 light_cyan3",
   "light_sky_blue1 green_yellow dark_olive_green2 dark_sea_green1 pale_turquoise1 deep_pink3",
   "magenta2 hot_pink2 orchid medium_orchid1 orange3 light_pink3 pink3 plum3 violet",
   "light_goldenrod3 tan misty_rose3 thistle3 plum2 khaki3 light_goldenrod2 light_yellow3 grey84",
   "gray84 light_steel_blue1 yellow2 dark_olive_green1 honeydew2 light_cyan1 red1 deep_pink2",
   "deep_pink1 magenta1 orange_red1 indian_red1 hot_pink dark_orange salmon1 light_coral",
   "pale_violet_red1 orchid2 orchid1 orange1 sandy_brown light_salmon1 light_pink1 pink1 plum1",
   "gold1 navajo_white1 misty_rose1 thistle1 yellow1 light_goldenrod1 khaki1 wheat1 cornsilk1",
   "grey100 gray100 grey3 gray3 grey7 gray7 grey11 gray11 grey15 gray15 grey19 gray19 grey23",
   "gray23 grey27 gray27 grey30 gray30 grey35 gray35 grey39 gray39 grey42 gray42 grey46 gray46",
   "grey50 gray50 grey54 gray54 grey58 gray58 grey62 gray62 grey66 gray66 grey70 gray70 grey74",
   "gray74 grey78 gray78 grey82 gray82 grey85 gray85 grey89 gray89 grey93 gray93"]

/-- Why words describe no style. -/
inductive StyleFault where
  /-- They are not of the form of a description. -/
  | form
  /-- A part of a colour that should be a number is none. -/
  | notNumber (text : String)
  deriving Repr, DecidableEq

/-- Whether the number is one of the levels of a colour. -/
def isLevel (n : Nat) : Bool := n ≤ 255

/-- Whether the characters are the red, green and blue level of a colour. -/
def checkLevels (cs : List Char) : Except StyleFault Unit := do
  let parts := cs.splitOn ','
  if cs.isEmpty || !cs.all (fun c => c == ',' || Text.isDecimal c) || parts.length ≠ 3 then
    throw .form
  let levels ← parts.mapM fun part =>
    match part, Text.decimalOf? part with
    | _ :: _, some level => Except.ok level
    | _, _ => .error (.notNumber (String.ofList part))
  if levels.all isLevel then return () else throw .form

/-- The characters between the given start and a closing parenthesis at the end. -/
def inside? (start : String) (cs : List Char) : Option (List Char) :=
  if start.toList.isPrefixOf cs && cs.getLast? == some ')' then
    some (cs.drop start.length).dropLast
  else none

/-- Whether a lower-case word is a colour: a name, a number, or its levels. -/
def checkColor (word : String) : Except StyleFault Unit :=
  let cs := word.toList
  if word = "default" ∨ colorLines.any (fun line => (line.splitOn " ").contains word) then .ok ()
  else if let '#' :: digits := cs then
    if digits.length = 6 ∧ digits.all (fun c => c.isDigit || ('a' ≤ c && c ≤ 'f')) then .ok ()
    else .error .form
  else if let some digits := inside? "color(" cs then
    if 1 ≤ digits.length ∧ digits.length ≤ 3 ∧ digits.all Char.isDigit ∧
      isLevel (Nat.ofDigitChars 10 digits 0) then .ok ()
    else .error .form
  else if let some levels := inside? "rgb(" cs then checkLevels levels
  else .error .form

/-! ### Descriptions -/

/-- The effects, in the order of a description. -/
def effectNames : List String :=
  ["bold", "dim", "italic", "underline", "blink", "blink2", "reverse", "conceal", "strike",
   "underline2", "frame", "encircle", "overline"]

/-- The short names of effects. -/
def shortEffects : List (String × String) :=
  [("b", "bold"), ("d", "dim"), ("i", "italic"), ("u", "underline"), ("r", "reverse"),
   ("c", "conceal"), ("s", "strike"), ("uu", "underline2"), ("o", "overline")]

/-- The effect of a name. -/
def effect? (name : String) : Option String :=
  match shortEffects.find? (·.1 == name) with
  | some (_, effect) => some effect
  | none => if effectNames.contains name then some name else none

/-- A style: effects that are set or unset, colours and an address. -/
structure Style where
  effects : List (String × Bool) := []
  color : Option String := none
  ground : Option String := none
  link : Option String := none
  deriving Repr, DecidableEq

namespace Style

/-- The style with an effect set or unset. -/
def withEffect (style : Style) (effect : String) (value : Bool) : Style :=
  { style with effects := (effect, value) :: style.effects }

/-- The words that describe a style, in a fixed order. -/
def description (style : Style) : List String :=
  (effectNames.flatMap fun effect =>
    match style.effects.find? (·.1 == effect) with
    | some (_, true) => [effect]
    | some (_, false) => ["not", effect]
    | none => []) ++
  style.color.toList ++ (style.ground.toList.flatMap fun color => ["on", color]) ++
  style.link.toList.flatMap fun address => ["link", address]

/-- The description of a style in one text. -/
def name (style : Style) : String :=
  if style.description.isEmpty then "none" else String.intercalate " " style.description

/-- The style that words describe, beginning with the given one. -/
def ofWords (style : Style) : List String → Except StyleFault Style
  | [] => .ok style
  | word :: rest =>
    let lowered := Text.lowerText word
    if lowered = "on" then
      match rest with
      | [] => .error .form
      | color :: rest =>
        let color := Text.lowerText color
        match checkColor color with
        | .error fault => .error fault
        | .ok () => ofWords { style with ground := some color } rest
    else if lowered = "not" then
      match rest with
      | [] => .error .form
      | name :: rest =>
        match effect? name with
        | none => .error .form
        | some effect => ofWords (style.withEffect effect false) rest
    else if lowered = "link" then
      match rest with
      | [] => .error .form
      | address :: rest => ofWords { style with link := some address } rest
    else
      match effect? lowered with
      | some effect => ofWords (style.withEffect effect true) rest
      | none =>
        match checkColor lowered with
        | .error fault => .error fault
        | .ok () => ofWords { style with color := some lowered } rest

/-- The style that a text describes. -/
def ofText (cs : List Char) : Except StyleFault Style :=
  if Text.trim cs = "none".toList then .ok {}
  else ofWords {} ((blankSeparated cs).map String.ofList)

end Style

/-- The name under which styles are compared: the description of a style, and in lower case the
name of something else. -/
def styleName (cs : List Char) : Except StyleFault String :=
  match Style.ofText cs with
  | .ok style => .ok style.name
  | .error .form => .ok (String.ofList (Text.lower (Text.trim cs)))
  | .error fault => .error fault

end KeywordQuery.Layout
