import KeywordQuery.Text.Blank

/-!
# Tokens of a query text

A query text is a sequence of parentheses and words.  A parenthesis always stands alone; every
other run of characters that are neither blank nor parentheses is one word, even when it is written
`and`, `or` or `not`.

* `lexemes` — the tokens of a text with the position of their first characters;
* `Token.ofText` — what the grammar takes a token for, and `Token.text` its spelling;
* `Cursor` — a place in a text, from which tokens are scanned one by one.

Positions count characters from the start of the text.
-/

namespace KeywordQuery

open Text (isBlank)

/-- A token with the position of its first character. -/
structure Lexeme where
  text : String
  start : Nat
  deriving Repr, DecidableEq

/-- Whether the character is a parenthesis. -/
def isParen (c : Char) : Bool := c == '(' || c == ')'

/-- Whether the character can stand inside a word. -/
def isWordPart (c : Char) : Bool := !isBlank c && !isParen c

/-- The tokens of the characters from position `pos` on. -/
def lexemesFrom (pos : Nat) : List Char → List Lexeme
  | [] => []
  | c :: rest =>
    if isBlank c then lexemesFrom (pos + 1) rest
    else if isParen c then ⟨String.singleton c, pos⟩ :: lexemesFrom (pos + 1) rest
    else
      let run := c :: rest.takeWhile isWordPart
      ⟨String.ofList run, pos⟩ :: lexemesFrom (pos + run.length) (rest.dropWhile isWordPart)
termination_by cs => cs.length
decreasing_by
  all_goals have : (rest.dropWhile isWordPart).length ≤ rest.length :=
    (List.dropWhile_suffix isWordPart).length_le
  all_goals simp only [List.length_cons]
  all_goals omega

/-- The tokens of a text, from left to right. -/
def lexemes (text : String) : List Lexeme := lexemesFrom 0 text.toList

/-- A token as the grammar sees it. -/
inductive Token where
  | lparen
  | rparen
  | and
  | or
  | not
  | word (term : String)
  deriving Repr, DecidableEq

/-- What the grammar takes a spelling for; only the lower-case operators are reserved. -/
def Token.ofText (text : String) : Token :=
  if text = "(" then .lparen
  else if text = ")" then .rparen
  else if text = "and" then .and
  else if text = "or" then .or
  else if text = "not" then .not
  else .word text

/-- The spelling of a token. -/
def Token.text : Token → String
  | .lparen => "("
  | .rparen => ")"
  | .and => "and"
  | .or => "or"
  | .not => "not"
  | .word term => term

@[simp]
theorem Token.text_ofText (text : String) : (Token.ofText text).text = text := by
  unfold Token.ofText
  repeat' split
  all_goals simp_all [Token.text]

/-- The tokens of a text without their positions. -/
def tokens (text : String) : List Token := (lexemes text).map (Token.ofText ·.text)

/-! ### Reading tokens one by one -/

/-- A place in a text: the token to be read next, its position, and the characters after it.  At
the end of the text there is no token, and the position is the length of the text. -/
structure Cursor where
  current : Option String
  position : Nat
  rest : List Char
  deriving Repr, DecidableEq

namespace Cursor

/-- The place of the first token among the characters from position `pos` on. -/
def seek (pos : Nat) : List Char → Cursor
  | [] => ⟨none, pos, []⟩
  | c :: rest =>
    if isBlank c then seek (pos + 1) rest
    else if isParen c then ⟨some (String.singleton c), pos, rest⟩
    else
      ⟨some (String.ofList (c :: rest.takeWhile isWordPart)), pos, rest.dropWhile isWordPart⟩

/-- The place of the first token of a text. -/
def start (text : String) : Cursor := seek 0 text.toList

/-- The place of the token after the one to be read next; the end of the text is left alone. -/
def advance (cursor : Cursor) : Cursor :=
  match cursor.current with
  | none => cursor
  | some token => seek (cursor.position + token.length) cursor.rest

end Cursor

end KeywordQuery
