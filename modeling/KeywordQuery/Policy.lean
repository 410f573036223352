import KeywordQuery.Text.Blank
import KeywordQuery.Text.Lower
import KeywordQuery.Text.RawText
import KeywordQuery.Text.WordChar

/-!
# Matching policies

How a term is looked for in a text.  Both policies disregard case.

* `MatchPolicy.contains` — whether a term occurs in a text, and `MatchPolicy.occursIn` the same
  for a text with unpaired surrogates; `occursIn_ofString` says that they agree;
* `words` — the words of a text, which the word policy compares.
-/

namespace KeywordQuery

open Text (dropEnds lower isWordChar)

/-- How a term is looked for in a text. -/
inductive MatchPolicy where
  /-- Anywhere in the characters of the text. -/
  | substring
  /-- As a run of whole words. -/
  | word
  deriving Repr, DecidableEq, Inhabited, Hashable

namespace MatchPolicy

/-- The name under which a policy is chosen. -/
def name : MatchPolicy → String
  | .substring => "substring"
  | .word => "word"

/-- All policies, in the order in which they are offered. -/
def all : List MatchPolicy := [.substring, .word]

/-- The policy of a name. -/
def ofName? (name : String) : Option MatchPolicy := all.find? (·.name == name)

@[simp] theorem ofName?_name (policy : MatchPolicy) : ofName? policy.name = some policy := by
  cases policy <;> decide

end MatchPolicy

/-- Whether `needle` is a contiguous block of the list. -/
def isBlockOf {α : Type} [BEq α] (needle : List α) : List α → Bool
  | [] => needle.isEmpty
  | x :: rest => needle.isPrefixOf (x :: rest) || isBlockOf needle rest

/-! ### Words -/

/-- Whether a chunk of text may hold the character: word characters, the marks of hashtags and
mentions, and the apostrophe. -/
def isChunkChar (c : Char) : Bool := isWordChar c || c == '#' || c == '@' || c == '\''

/-- Whether the character marks a hashtag or a mention. -/
def isMark (c : Char) : Bool := c == '#' || c == '@'

/-- The pieces between characters outside the class; a piece is empty where two of them meet, and
at an end that is one of them. -/
def chunksBy (p : Char → Bool) : List Char → List (List Char)
  | [] => [[]]
  | c :: rest =>
    match chunksBy p rest with
    | [] => [[c]]
    | chunk :: chunks => if p c then (c :: chunk) :: chunks else [] :: chunk :: chunks

/-- A chunk as a bare word: without apostrophes at its ends, then without marks at its start. -/
def bareWord (chunk : List Char) : List Char := (dropEnds (· == '\'') chunk).dropWhile isMark

/-- The words of a lower-case text. -/
def wordsOfLower (cs : List Char) : List (List Char) :=
  ((chunksBy isChunkChar cs).map bareWord).filter (!·.isEmpty)

/-- The words of a text, in lower case; a hashtag or a mention counts as the bare word. -/
def words (text : String) : List String := (wordsOfLower (lower text.toList)).map String.ofList

/-- Whether the term occurs in the text under the policy.  A term is split into words as a text
is, and one without words occurs nowhere. -/
def MatchPolicy.contains (policy : MatchPolicy) (text term : String) : Bool :=
  match policy with
  | .substring => isBlockOf (lower term.toList) (lower text.toList)
  | .word => !(words term).isEmpty && isBlockOf (words term) (words text)

/-- Whether the term occurs in a text that may hold unpaired surrogates: they stand for no
character of a term, and they separate words. -/
def MatchPolicy.occursIn (policy : MatchPolicy) (text : RawText) (term : String) : Bool :=
  match policy with
  | .substring => text.runs.any fun run => isBlockOf (lower term.toList) (lower run.toList)
  | .word => !(words term).isEmpty && isBlockOf (words term) (text.runs.flatMap words)

@[simp] theorem MatchPolicy.occursIn_ofString (policy : MatchPolicy) (text term : String) :
    policy.occursIn (.ofString text) term = policy.contains text term := by
  cases policy <;> simp [occursIn, contains]

end KeywordQuery
