import KeywordQuery.Text.Printable
import KeywordQuery.Text.Quoted

/-!
# Faults of literal notation

What can be wrong with the notation of a literal, and how each fault is worded.

* `SyntaxFault` — the causes, in groups: the lexemes, the arguments and parameters, the other
  phrases, and what stands between quotes;
* `SyntaxFault.message` — the wording.
-/

namespace KeywordQuery.Literal

/-- The ways to write a number. -/
inductive NumberKind
  | decimal
  | hexadecimal
  | octal
  | binary
  | imaginary
  deriving Repr, DecidableEq

/-- The word for a way to write a number. -/
def NumberKind.word : NumberKind → String
  | decimal => "decimal"
  | hexadecimal => "hexadecimal"
  | octal => "octal"
  | binary => "binary"
  | imaginary => "imaginary"

/-- What is wrong with an escape between quotes. -/
inductive EscapeFault
  | shortByte
  | shortUnit
  | shortPoint
  /-- The number is beyond the last code point. -/
  | outOfRange
  | badName
  | unknownName
  deriving Repr, DecidableEq

/-- The wording of a fault in an escape. -/
def EscapeFault.message : EscapeFault → String
  | shortByte => "truncated \\xXX escape"
  | shortUnit => "truncated \\uXXXX escape"
  | shortPoint => "truncated \\UXXXXXXXX escape"
  | outOfRange => "illegal Unicode character"
  | badName => "malformed \\N character escape"
  | unknownName => "unknown Unicode character name"

/-- What is wrong with the notation of a literal. -/
inductive SyntaxFault
  | nullCharacter
  /-- The kind of number has no such form. -/
  | badNumber (kind : NumberKind)
  | badDigit (digit : Char) (kind : NumberKind)
  | leadingZeros
  | tooManyDigits (count : Nat)
  /-- The closing quotes are missing; the line is the last one that was searched. -/
  | openQuote (triple : Bool) (line : Nat)
  | badCharacter (c : Char)
  | unmatched (closing : Char)
  /-- The line is given if the brackets are on different lines. -/
  | mismatched (closing opening : Char) (line : Option Nat)
  | tooNested
  | unclosed (opening : Char)
  | afterContinuation
  | mixedIndent
  | unevenDedent
  | tooIndented
  | indented
  | dedented
  /-- No rule says more. -/
  | unexpected
  | missingComma
  | missingElse
  | missingCall (name : String)
  | equalsSign
  | assignedHere (title : String)
  | assigned (title : String)
  | assignedWith (title : String)
  | loneStar
  | starredGroup
  | doublyStarredGroup
  | starredComprehension
  | bareTarget
  | spreadComprehension
  | starredValue
  | missingValue
  | missingColon
  | starredAfterSpread
  | bareGenerator
  | positionalAfterSpread
  | positionalAfterKeyword
  | assignedArgument
  | requiredAfterDefault
  | parameterGroup
  | leadingSlash
  | secondSlash
  | slashAfterStar
  | slashBeforeStar
  | bareStar
  | starredDefault
  | secondStar
  | spreadDefault
  | afterSpread
  | missingDefault
  /-- A text of bytes holds another character. -/
  | wideByte
  | mixedQuotes
  /-- An escape in a text, with the positions of its first and last character. -/
  | badEscape (fault : EscapeFault) (first last : Nat)
  /-- An escape in a text of bytes, with its position. -/
  | badByteEscape (position : Nat)
  | loneBrace
  | openField
  | emptyField
  /-- Nothing but blanks stands before a sign in a field. -/
  | missingField (sign : Char)
  | nestedField
  | fieldBackslash
  | fieldComment
  | fieldQuote
  | fieldBracket (bracket : Char)
  | fieldMismatch (closing opening : Char)
  | fieldDepth
  | badConversion
  /-- A fault of the phrase in a field of a text. -/
  | field (fault : SyntaxFault)
  deriving Repr, DecidableEq

namespace SyntaxFault

/-- A character between single quotes. -/
def bracket (c : Char) : String := String.ofList ['\'', c, '\'']

/-- The number of a character in at least four hexadecimal digits. -/
def codePoint (c : Char) : String :=
  let width := if c.toNat < 0x10000 then 4 else if c.toNat < 0x100000 then 5 else 6
  "U+" ++ (String.ofList (Text.hexDigits width c.toNat)).toUpper

/-- The wording of a fault. -/
def message : SyntaxFault → String
  | nullCharacter => "source code string cannot contain null bytes"
  | badNumber kind => "invalid " ++ kind.word ++ " literal"
  | badDigit digit kind =>
    "invalid digit " ++ bracket digit ++ " in " ++ kind.word ++ " literal"
  | leadingZeros => "leading zeros in decimal integer literals are not permitted; " ++
      "use an 0o prefix for octal integers"
  | tooManyDigits count =>
    "Exceeds the limit (4300 digits) for integer string conversion: value has " ++
      toString count ++ " digits; use sys.set_int_max_str_digits() to increase the limit" ++
      " - Consider hexadecimal for huge integer literals to avoid decimal conversion limits."
  | openQuote triple line => "unterminated " ++ (if triple then "triple-quoted " else "") ++
      "string literal (detected at line " ++ toString line ++ ")"
  | badCharacter c =>
    if Text.isPrintable c then "invalid character " ++ bracket c ++ " (" ++ codePoint c ++ ")"
    else "invalid non-printable character " ++ codePoint c
  | unmatched closing => "unmatched " ++ bracket closing
  | mismatched closing opening line =>
    "closing parenthesis " ++ bracket closing ++ " does not match opening parenthesis " ++
      bracket opening ++ (match line with
        | none => ""
        | some line => " on line " ++ toString line)
  | tooNested => "too many nested parentheses"
  | unclosed opening => bracket opening ++ " was never closed"
  | afterContinuation => "unexpected character after line continuation character"
  | mixedIndent => "inconsistent use of tabs and spaces in indentation"
  | unevenDedent => "unindent does not match any outer indentation level"
  | tooIndented => "too many levels of indentation"
  | indented => "unexpected indent"
  | dedented => "unexpected unindent"
  | unexpected => "invalid syntax"
  | missingComma => "invalid syntax. Perhaps you forgot a comma?"
  | missingElse => "expected 'else' after 'if' expression"
  | missingCall name =>
    "Missing parentheses in call to '" ++ name ++ "'. Did you mean " ++ name ++ "(...)?"
  | equalsSign => "invalid syntax. Maybe you meant '==' or ':=' instead of '='?"
  | assignedHere title =>
    "cannot assign to " ++ title ++ " here. Maybe you meant '==' instead of '='?"
  | assigned title => "cannot assign to " ++ title
  | assignedWith title => "cannot use assignment expressions with " ++ title
  | loneStar => "Invalid star expression"
  | starredGroup => "cannot use starred expression here"
  | doublyStarredGroup => "cannot use double starred expression here"
  | starredComprehension => "iterable unpacking cannot be used in comprehension"
  | bareTarget => "did you forget parentheses around the comprehension target?"
  | spreadComprehension => "dict unpacking cannot be used in dict comprehension"
  | starredValue => "cannot use a starred expression in a dictionary value"
  | missingValue => "expression expected after dictionary key and ':'"
  | missingColon => "':' expected after dictionary key"
  | starredAfterSpread => "iterable argument unpacking follows keyword argument unpacking"
  | bareGenerator => "Generator expression must be parenthesized"
  | positionalAfterSpread => "positional argument follows keyword argument unpacking"
  | positionalAfterKeyword => "positional argument follows keyword argument"
  | assignedArgument => "expression cannot contain assignment, perhaps you meant \"==\"?"
  | requiredAfterDefault => "non-default argument follows default argument"
  | parameterGroup => "Lambda expression parameters cannot be parenthesized"
  | leadingSlash => "at least one argument must precede /"
  | secondSlash => "/ may appear only once"
  | slashAfterStar => "/ must be ahead of *"
  | slashBeforeStar => "expected comma between / and *"
  | bareStar => "named arguments must follow bare *"
  | starredDefault => "var-positional argument cannot have default value"
  | secondStar => "* argument may appear only once"
  | spreadDefault => "var-keyword argument cannot have default value"
  | afterSpread => "arguments cannot follow var-keyword argument"
  | missingDefault => "expected default value expression"
  | wideByte => "bytes can only contain ASCII literal characters"
  | mixedQuotes => "cannot mix bytes and nonbytes literals"
  | badEscape fault first last =>
    "(unicode error) 'unicodeescape' codec can't decode bytes in position " ++
      toString first ++ "-" ++ toString last ++ ": " ++ fault.message
  | badByteEscape position =>
    "(value error) invalid \\x escape at position " ++ toString position
  | loneBrace => "f-string: single '\x7d' is not allowed"
  | openField => "f-string: expecting '\x7d'"
  | emptyField => "f-string: empty expression not allowed"
  | missingField sign => "f-string: expression required before " ++ bracket sign
  | nestedField => "f-string: expressions nested too deeply"
  | fieldBackslash => "f-string expression part cannot include a backslash"
  | fieldComment => "f-string expression part cannot include '#'"
  | fieldQuote => "f-string: unterminated string"
  | fieldBracket c => "f-string: unmatched " ++ bracket c
  | fieldMismatch closing opening => "f-string: closing parenthesis " ++ bracket closing ++
      " does not match opening parenthesis " ++ bracket opening
  | fieldDepth => "f-string: too many nested parenthesis"
  | badConversion => "f-string: invalid conversion character: expected 's', 'r', or 'a'"
  | field fault => "f-string: " ++ fault.message

end SyntaxFault

end KeywordQuery.Literal
