import KeywordQuery.Layout.Pattern
import KeywordQuery.Text.Digit

/-!
# Highlighted stretches

In log records the values that are known by their look are set in styles of their own: tags,
fields, brackets, addresses, calls, constants, numbers, paths, strings and links, and the names of
requests.

* `highlights` — the patterns;
* `highlight` — a message with its stretches.
-/

namespace KeywordQuery.Layout

open Text (isWordChar isDecimal)
open Pattern

/-- An ASCII digit. -/
def asciiDigit : Pattern := one Char.isDigit

/-- A hexadecimal digit. -/
def hexadecimal : Pattern := one fun c =>
  c.isDigit || ('a' ≤ c && c ≤ 'f') || ('A' ≤ c && c ≤ 'F')

/-- A given character. -/
def mark (c : Char) : Pattern := one (· == c)

/-- A word character or one of the others. -/
def wordOr (others : String) : Pattern := one fun c => isWordChar c || others.contains c

/-- Anything between two equal quotes on one line, up to the first one without a backslash. -/
def quotation (quote : String) : Pattern :=
  seq [optional (mark 'b'), word quote, few 0 (one (· != '\n')), notAfter (· == '\\'), word quote]

/-- Groups of hexadecimal digits with a sign between them. -/
def hexGroups (least most count : Nat) (sign : Char) : Pattern :=
  seq [times count count (seq [times least most hexadecimal, mark sign]),
    times least most hexadecimal]

/-- A link-layer address of a number of bytes, of which the last stands after the given count. -/
def hardwareAddress (count : Nat) : Pattern :=
  either [hexGroups 1 2 count '-', hexGroups 1 2 count ':', hexGroups 4 4 (count / 2) '.']

/-- A sign before an exponent. -/
def exponentStart : Pattern := seq [mark 'e', optional (one fun c => c == '-' || c == '+')]

/-- Digits before and after a point. -/
def decimalDigits : Pattern := seq [many 1 asciiDigit, optional (mark '.'), many 0 asciiDigit]

/-- A number, and one with an imaginary part. -/
def numbers : List Pattern :=
  let digit := one isDecimal
  let first := seq [optional (mark '-'), decimalDigits,
    optional (seq [exponentStart, few 1 digit])]
  let second := seq [one fun c => c == '-' || c == '+', decimalDigits,
    optional (seq [exponentStart, many 1 digit])]
  [ named (seq [notAfter isWordChar, first, optional second, mark 'j']),
    named (either [
      seq [notAfter isWordChar, first, wordEdge],
      seq [word "0x", many 0 hexadecimal]]) ]

/-- The characters that a link may hold after its scheme. -/
def isLinkChar (c : Char) : Bool := c.isAlphanum || "-$_+!`(),.?/;:&=%#~@".contains c

/-- The values that start at one place; the first that fits counts. -/
def values : Pattern := either <| [
  named (seq [times 3 3 (seq [times 1 3 asciiDigit, mark '.']), times 1 3 asciiDigit]),
  named (seq [times 1 7 (seq [times 1 4 hexadecimal, mark ':', optional (mark ':')]),
    times 1 4 hexadecimal]),
  named (hardwareAddress 7),
  named (hardwareAddress 5),
  named (seq [times 8 8 hexadecimal, mark '-',
    times 3 3 (seq [times 4 4 hexadecimal, mark '-']), times 12 12 hexadecimal]),
  seq [named (few 0 (wordOr ".")), mark '('],
  seq [wordEdge, named (word "True"), wordEdge],
  seq [wordEdge, named (word "False"), wordEdge],
  seq [wordEdge, named (word "None"), wordEdge],
  named (word "...")] ++ numbers ++ [
  seq [named (seq [noWordEdge, many 0 (seq [mark '/', many 1 (wordOr "-._+")]), mark '/']),
    optional (named (many 0 (wordOr "-._+")))],
  seq [notAfter fun c => c == '\\' || isWordChar c,
    named (either (["'''", "'", "\"\"\"", "\""].map quotation))],
  named (seq [either (["file", "https", "http", "ws", "wss"].map word), word "://",
    many 0 (one isLinkChar)])]

/-- The names of requests. -/
def requestNames : List String :=
  ["GET", "POST", "HEAD", "PUT", "DELETE", "OPTIONS", "TRACE", "PATCH"]

/-- The patterns whose stretches have styles of their own. -/
def highlights : List Pattern := [
  seq [named (mark '<'), named (many 0 (wordOr "-.:|")), named (many 0 (one fun _ => true)),
    named (mark '>')],
  seq [named (times 1 50 (one isWordChar)), mark '=',
    optional (named (seq [optional (mark '"'), many 1 (one isWordChar), optional (mark '"')]))],
  named (one fun c => "][\x7b\x7d()".contains c),
  values,
  named (either (requestNames.map word))]

/-- A message with its stretches.  They are of no account for a message without joiners and
variation selectors, as the widths of its segments add up to its own. -/
def highlight (message : String) : StyledText :=
  let cs := sanitize message.toList
  if cs.any fun c => c == joiner || c == pictureSelector then
    ⟨cs, highlights.flatMap fun pattern => pattern.findAll cs⟩
  else ⟨cs, []⟩

end KeywordQuery.Layout
