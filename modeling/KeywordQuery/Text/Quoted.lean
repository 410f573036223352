import KeywordQuery.Text.Printable

/-!
# Quoted texts

A text in quotes, as it is shown in messages: single quotes, or double quotes when the text holds
a single quote and no double quote.  The quote in use and the backslash are escaped, and so is
every character that is not printable, in the shortest hexadecimal form that fits.

* `quote` — the quoted form;
* `hexDigits` — the last digits of a number in base 16, as many as asked for.
-/

namespace KeywordQuery.Text

/-- The last `width` hexadecimal digits of `n`, the highest first. -/
def hexDigits : (width n : Nat) → List Char
  | 0, _ => []
  | width + 1, n => hexDigits width (n / 16) ++ [Nat.digitChar (n % 16)]

/-- The quote that a text is put into. -/
def quoteMark (cs : List Char) : Char :=
  if cs.contains '\'' && !cs.contains '"' then '"' else '\''

/-- The hexadecimal escape of a character. -/
def hexEscape (c : Char) : List Char :=
  let n := c.toNat
  if n < 0x100 then '\\' :: 'x' :: hexDigits 2 n
  else if n < 0x10000 then '\\' :: 'u' :: hexDigits 4 n
  else '\\' :: 'U' :: hexDigits 8 n

/-- A character as it stands inside a text quoted with `mark`. -/
def quoteChar (mark c : Char) : List Char :=
  if c = mark || c = '\\' then ['\\', c]
  else if c = '\n' then ['\\', 'n']
  else if c = '\r' then ['\\', 'r']
  else if c = '\t' then ['\\', 't']
  else if isPrintable c then [c]
  else hexEscape c

/-- The text in quotes, with escapes. -/
def quote (s : String) : String :=
  let mark := quoteMark s.toList
  String.ofList (mark :: (s.toList.flatMap (quoteChar mark) ++ [mark]))

end KeywordQuery.Text
