import KeywordQuery.Literal.Fault

/-!
# Phrases of literal notation

What is known of a phrase after reading: as much as is needed to tell whether it is a literal, and
to name it in a fault.

* `Phrase` — the phrases, with the parts of a list of arguments among them;
* `Phrase.title` — the name of a phrase in a fault;
* `Phrase.badTarget?` — the part of a phrase that a loop cannot assign to.
-/

namespace KeywordQuery.Literal

/-- A phrase.  Those that no literal holds keep only what names them. -/
inductive Phrase
  | name (text : String)
  | number (imaginary : Bool)
  | text
  | fieldText
  | truth (word : String)
  | ellipsis
  | tuple (items : List Phrase)
  | set (items : List Phrase)
  | dict (entries : List Phrase)
  /-- A phrase after a plus or minus sign. -/
  | signed (operand : Phrase)
  /-- A sum or difference. -/
  | sum (left right : Phrase)
  /-- A call of the name `set` without arguments. -/
  | emptySet
  | starred (inner : Phrase)
  /-- A chain of comparisons; `inside` holds if the first one asks whether `left` is a member. -/
  | comparison (left : Phrase) (inside : Bool)
  /-- Any other phrase, by its title. -/
  | other (title : String)
  | entry (key value : Phrase)
  /-- A mapping that is spread out. -/
  | spread (inner : Phrase)
  | keyword
  | arguments (items : List Phrase)
  deriving Repr, Inhabited

namespace Phrase

/-- The name of a phrase in a fault. -/
def title : Phrase → String
  | name _ => "name"
  | number _ | text => "literal"
  | fieldText => "f-string expression"
  | truth word => word
  | ellipsis => "ellipsis"
  | tuple _ => "tuple"
  | set _ => "set display"
  | dict _ => "dict literal"
  | signed _ | sum _ _ => "expression"
  | emptySet => "function call"
  | starred _ => "starred"
  | comparison _ _ => "comparison"
  | other title => title
  | entry _ _ | spread _ | keyword | arguments _ => "expression"

mutual

/-- The first part of a phrase that a loop cannot assign to. -/
def badTarget? : Phrase → Option Phrase
  | name _ => none
  | tuple items => badTargetIn? items
  | starred inner => inner.badTarget?
  | comparison left true => left.badTarget?
  | comparison _ false => none
  | other "attribute" => none
  | phrase => some phrase

/-- The first part of some phrases that a loop cannot assign to. -/
def badTargetIn? : List Phrase → Option Phrase
  | [] => none
  | item :: rest => item.badTarget? <|> badTargetIn? rest

end

/-- Whether a phrase in a list of arguments is given by position. -/
def isPositional : Phrase → Bool
  | spread _ | keyword => false
  | _ => true

/-- Whether a phrase in a list of arguments is a mapping that is spread out. -/
def isSpread : Phrase → Bool
  | spread _ => true
  | _ => false

/-- Whether the phrase is the name of a former statement, after which brackets are now needed. -/
def isFormerStatement : Phrase → Bool
  | name word => word == "print" || word == "exec"
  | _ => false

end Phrase

end KeywordQuery.Literal
