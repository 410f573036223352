import KeywordQuery.Proofs.JsonLine
import KeywordQuery.Report.Render

/-!
# Values on streams

A value is printed as its written form on a line.  A stream takes the line exactly if it takes every
text and every name in the value, since what is escaped in a string is ASCII.

* `Json.takes_line` — whether a stream takes the line of a value;
* `TextStream.takes_utf8`, `TextStream.keeps_utf8` — strict UTF-8 takes what holds no unpaired
  surrogate, and prints it as it is;
* `Post.allTexts`, `Post.allTexts_toJson` — the texts of a post are those of its row.
-/

namespace KeywordQuery

open Encoding (TextStream)
open Text (IsPlain isPlain_of_mem_hexDigits)

/-! ### Texts -/

theorem TextUnit.all_isChar_map (cs : List Char) : (cs.map char).all isChar = true := by
  rw [List.all_map]
  exact List.all_eq_true.mpr fun _ _ => rfl

theorem RawText.all_isChar_toUnits (text : RawText) :
    text.toUnits.all TextUnit.isChar = text.isWhole := by
  obtain ⟨start, broken⟩ := text
  rw [toUnits, List.all_append, TextUnit.all_isChar_map, Bool.true_and]
  cases broken with
  | nil => rfl
  | cons part broken => rfl

namespace Encoding.TextStream

theorem takesUnit_utf8 (unit : TextUnit) : utf8.takesUnit unit = unit.isChar := by
  cases unit with
  | char c => rfl
  | half unit => rfl

/-- Strict UTF-8 takes the texts without unpaired surrogates. -/
theorem takes_utf8 (text : RawText) : utf8.takes text = text.isWhole := by
  rw [takes, ← text.all_isChar_toUnits]
  exact congrArg text.toUnits.all (funext takesUnit_utf8)

theorem takesStrings_utf8 : utf8.TakesStrings := fun text => takes_utf8 text

theorem keeps_utf8 {text : RawText} (h : utf8.takes text = true) : utf8.Keeps text := by
  intro unit member
  have taken := List.all_eq_true.mp h unit member
  cases unit with
  | char c => rfl
  | half unit => cases taken

theorem takes_ofString {stream : TextStream} {text : String} (h : Text.isAscii text = true) :
    stream.takes (.ofString text) = true :=
  takes_of_keeps (keeps_of_isAscii h)

end Encoding.TextStream

/-! ### Lines -/

namespace Json

variable (stream : TextStream)

theorem takesUnit_of_isPlain (c : Char) (h : IsPlain c) : stream.takesUnit (.char c) = true :=
  TextStream.takesUnit_of_isAscii (decide_eq_true h.2)

theorem isAscii_of_simpleEscape? {unit : TextUnit} {c : Char} (h : simpleEscape? unit = some c) :
    unit.isAscii = true ∧ (TextUnit.char c).isAscii = true := by
  unfold simpleEscape? at h
  split at h
  all_goals first | (cases h; exact ⟨rfl, rfl⟩) | cases h

/-- An escape is ASCII, and so is what it stands for. -/
theorem all_escapeUnit (unit : TextUnit) :
    (escapeUnit unit).all stream.takesUnit = stream.takesUnit unit := by
  cases unit with
  | half unit => rw [escapeUnit, List.all_cons, List.all_nil, Bool.and_true]
  | char c =>
    rw [escapeUnit]
    obtain ⟨escaped, simple, written⟩ | ⟨low, written⟩ | ⟨-, -, -, written⟩ := escapeChar_cases c
    · obtain ⟨letter, character⟩ := isAscii_of_simpleEscape? simple
      rw [written, TextStream.takesUnit_of_isAscii character]
      simp only [List.map_cons, List.map_nil, List.all_cons, List.all_nil, Bool.and_true,
        takesUnit_of_isPlain stream '\\' (by decide), TextStream.takesUnit_of_isAscii letter]
    · have ascii : (TextUnit.char c).isAscii = true := decide_eq_true (by omega)
      rw [written, TextStream.takesUnit_of_isAscii ascii]
      refine all_map_of_isPlain (takesUnit_of_isPlain stream) fun digit member => ?_
      simp only [List.mem_cons] at member
      rcases member with rfl | rfl | member
      · decide
      · decide
      · exact isPlain_of_mem_hexDigits member
    · rw [written, List.map_singleton, List.all_cons, List.all_nil, Bool.and_true]

/-- A stream takes the line of a value exactly if it takes all texts and names in the value. -/
theorem takes_line (value : Json) : stream.takes value.line = value.allTexts stream.takes := by
  have strings (s : RawText) : (encodeString s).all stream.takesUnit = stream.takes s := by
    rw [all_encodeString (takesUnit_of_isPlain stream)]
    exact congrArg s.toUnits.all (funext (all_escapeUnit stream))
  have ended : stream.takes (.ofString "\n") = true := TextStream.takes_ofString (by decide)
  have written : stream.takes value.toLine = value.allTexts stream.takes := by
    rw [TextStream.takes, toLine, RawText.toUnits_ofUnits]
    exact all_encode (takesUnit_of_isPlain stream) strings value
  rw [line, TextStream.takes_append, written, ended, Bool.and_true]

end Json

/-! ### Posts -/

/-- Whether the texts of an identifier meet the condition. -/
def PostId.allTexts (p : RawText → Bool) : PostId → Bool
  | number _ => true
  | name value => p value

/-- Whether all texts of a post meet the condition. -/
def Post.allTexts (p : RawText → Bool) (post : Post) : Bool :=
  post.id.all (PostId.allTexts p) && (post.author.all p && p post.text)

theorem Json.allTexts_ofOption {α : Type} {p : RawText → Bool} {toJson : α → Json} {q : α → Bool}
    (h : ∀ value, (toJson value).allTexts p = q value) (value : Option α) :
    (Json.ofOption toJson value).allTexts p = value.all q := by
  cases value with
  | none => rfl
  | some value => exact h value

theorem PostId.allTexts_toJson (p : RawText → Bool) (id : PostId) :
    id.toJson.allTexts p = id.allTexts p := by
  cases id with
  | number value => rfl
  | name value => rfl

/-- The texts of a post are those of its row, apart from the names of the fields. -/
theorem Post.allTexts_toJson {p : RawText → Bool}
    (names : ∀ name ∈ ["id", "author", "text"], p (.ofString name) = true) (post : Post) :
    post.toJson.allTexts p = post.allTexts p := by
  have id := Json.allTexts_ofOption (PostId.allTexts_toJson p) post.id
  have author : (Json.ofOption Json.str post.author).allTexts p = _ :=
    Json.allTexts_ofOption (fun _ => rfl) post.author
  have named := names "id" (by simp)
  have credited := names "author" (by simp)
  have worded := names "text" (by simp)
  simp only [Post.toJson, Json.allTexts, Json.allFieldTexts, id, author, named, credited, worded,
    Bool.true_and, Bool.and_true, Post.allTexts]

/-- Whether the post holds no unpaired surrogate. -/
def Post.isWhole (post : Post) : Bool := post.allTexts RawText.isWhole

/-- Strict UTF-8 takes the posts without unpaired surrogates. -/
theorem Post.allTexts_takes_utf8 : Post.allTexts TextStream.utf8.takes = Post.isWhole :=
  congrArg Post.allTexts (funext TextStream.takes_utf8)

end KeywordQuery
