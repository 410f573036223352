import KeywordQuery.Layout.PictureTable
import KeywordQuery.Text.Blank
import KeywordQuery.Text.Lower

/-!
# Pictures by name

A name between two colons stands for a picture.  `-emoji` or `-text` after the name asks for one of
its two forms.

* `picture?` — the picture of a name;
* `replacePictures` — a text with pictures in the place of their names.
-/

namespace KeywordQuery.Layout

/-- What follows a name in a sequence of names, each with its value after it. -/
def valueAfter? (name : String) : List String → Option String
  | key :: value :: rest => if key == name then some value else valueAfter? name rest
  | _ => none

/-- The picture of a name. -/
def picture? (name : String) : Option String :=
  pictureLines.findSome? fun line => valueAfter? name (line.splitOn " ")

/-- The selectors of the two forms of a picture, and the endings that ask for them. -/
def pictureForms : List (List Char × Char) :=
  [("-emoji".toList, '\ufe0f'), ("-text".toList, '\ufe0e')]

/-- The characters that a name between two colons stands for; it is not told apart by case. -/
def pictureOf? (name : List Char) : Option (List Char) :=
  let (name, form) := match pictureForms.find? (·.1.isSuffixOf name) with
    | some (ending, selector) => (name.take (name.length - ending.length), [selector])
    | none => (name, [])
  (picture? (String.ofList (Text.lower name))).map (·.toList ++ form)

/-- The characters with pictures in the place of the names between colons that stand for one.  A
name has no blanks. -/
def replacePictures (cs : List Char) : List Char :=
  match cs with
  | [] => []
  | ':' :: rest =>
    let name := rest.takeWhile fun c => c != ':' && !Text.isBlank c
    match _h : rest.drop name.length with
    | ':' :: after => (pictureOf? name).getD (':' :: (name ++ [':'])) ++ replacePictures after
    | _ => ':' :: replacePictures rest
  | c :: rest => c :: replacePictures rest
termination_by cs.length
decreasing_by
  · have := congrArg List.length _h
    simp only [List.length_drop, List.length_cons] at this ⊢
    omega
  · simp
  · simp

end KeywordQuery.Layout
