import KeywordQuery.Literal.Reader

/-!
# Literals

The phrases that are literals: numbers, texts, the three constant words, and tuples, sets and
mappings of literals.  A number may have a sign, and a sum may join a real and an imaginary number.

* `checkLiteral` — the first fault of a phrase as a literal;
* `LiteralFault` — the faults of an expression that should be a literal.
-/

namespace KeywordQuery.Literal

/-- What is wrong with an expression that should be a literal. -/
inductive LiteralFault
  | syntactic (fault : SyntaxFault)
  /-- The phrase is not a literal. -/
  | computed
  /-- A mapping is spread out in another one. -/
  | spread
  /-- A set or mapping stands where only unchanging values can. -/
  | changeable (word : String)
  deriving Repr, DecidableEq

/-- The wording of a fault. -/
def LiteralFault.message : LiteralFault → String
  | syntactic fault => fault.message
  | computed => "malformed node or string"
  | spread => "malformed node or string: None"
  | changeable word => "unhashable type: '" ++ word ++ "'"

/-- Whether a phrase is a number, perhaps with a sign, and which kind. -/
def numberKind? (signed : Bool) : Phrase → Option Bool
  | .number imaginary => some imaginary
  | .signed (.number imaginary) => if signed then some imaginary else none
  | _ => none

mutual

/-- The word for the first set or mapping in a phrase that is a literal, sets and mappings
themselves included, their members not. -/
def changeable? : Phrase → Option String
  | .set _ | .emptySet => some "set"
  | .dict _ => some "dict"
  | .tuple items => changeableIn? items
  | _ => none

/-- The word for the first set or mapping in some literals. -/
def changeableIn? : List Phrase → Option String
  | [] => none
  | item :: rest => changeable? item <|> changeableIn? rest

end

/-- A value that is kept in a set or as a key must not change. -/
def checkKept (phrase : Phrase) : Except LiteralFault Unit :=
  match changeable? phrase with
  | some word => .error (.changeable word)
  | none => .ok ()

mutual

/-- Checks that a phrase is a literal. -/
def checkLiteral : Phrase → Except LiteralFault Unit
  | .number _ | .text | .truth _ | .ellipsis | .emptySet => .ok ()
  | .signed (.number _) => .ok ()
  | .sum left right =>
    if numberKind? true left = some false && numberKind? false right = some true then .ok ()
    else .error .computed
  | .tuple items => checkItems items
  | .set items => checkMembers items
  | .dict entries => checkEntries entries
  | _ => .error .computed

/-- Checks the items of a tuple. -/
def checkItems : List Phrase → Except LiteralFault Unit
  | [] => .ok ()
  | item :: rest => do checkLiteral item; checkItems rest

/-- Checks the members of a set. -/
def checkMembers : List Phrase → Except LiteralFault Unit
  | [] => .ok ()
  | item :: rest => do checkLiteral item; checkKept item; checkMembers rest

/-- Checks the entries of a mapping. -/
def checkEntries : List Phrase → Except LiteralFault Unit
  | [] => .ok ()
  | .entry key value :: rest => do
    checkLiteral key
    checkLiteral value
    checkKept key
    checkEntries rest
  | _ :: _ => .error .spread

end

/-- Checks that the characters are a literal. -/
def checkChars (cs : List Char) : Except LiteralFault Unit :=
  match readPhrase cs with
  | .error fault => .error (.syntactic fault)
  | .ok phrase => checkLiteral phrase

end KeywordQuery.Literal
