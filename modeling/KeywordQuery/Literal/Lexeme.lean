import KeywordQuery.Literal.Fault
import KeywordQuery.Text.Identifier

/-!
# Lexemes of literal notation

An expression is cut into names, numbers, quoted texts, words and signs.  Lines end a phrase
unless a bracket is open, and the blanks that start a line give its depth.

* `Lexeme` — a piece of an expression, with its line and the number of brackets around it;
* `Lexemes` — the pieces of an expression, up to the place where reading stops;
* `lexemes` — reading all pieces.
-/

namespace KeywordQuery.Literal

/-- What a lexeme is. -/
inductive LexemeKind
  | name (text : String)
  | number (text : List Char)
  /-- The characters with the letters before the quotes and the quotes. -/
  | quoted (chars : List Char)
  /-- A word with a meaning of its own, or a sign. -/
  | word (text : String)
  | newline
  | indent
  | dedent
  | finish
  deriving Repr, DecidableEq, Inhabited

/-- A piece of an expression: the line it starts on, the number of brackets open after it, and
whether the end of the expression had to be seen to tell where the piece ends. -/
structure Lexeme where
  kind : LexemeKind
  line : Nat
  depth : Nat
  sawEnd : Bool
  deriving Repr, DecidableEq, Inhabited

/-- Why reading stops before the end.  Some faults matter only to who asks for the next lexeme. -/
structure Stop where
  fault : SyntaxFault
  onDemand : Bool
  deriving Repr, DecidableEq

/-- The lexemes of an expression, why they stop, and the brackets that are open there, each with
its line, the innermost first. -/
structure Lexemes where
  items : Array Lexeme
  stop : Option Stop
  opened : List (Char × Nat)
  deriving Repr

/-! ### Names -/

/-- The words that are not names. -/
def reservedWords : List String :=
  ["False", "None", "True", "and", "as", "assert", "async", "await", "break", "class", "continue",
   "def", "del", "elif", "else", "except", "finally", "for", "from", "global", "if", "import",
   "in", "is", "lambda", "nonlocal", "not", "or", "pass", "raise", "return", "try", "while",
   "with", "yield"]

/-- Whether a name may start with the character, as far as can be told from its width. -/
def opensName (c : Char) : Bool := c.isAlpha || c == '_' || 0x80 ≤ c.toNat

/-- Whether a name goes on with the character, as far as can be told from its width. -/
def extendsName (c : Char) : Bool := opensName c || c.isDigit

/-- The first character that keeps a run of characters from being a name. -/
def misfit? : List Char → Option Char
  | [] => none
  | c :: rest =>
    if Text.startsIdentifier c then rest.find? (!Text.continuesIdentifier ·) else some c

/-- The name or word at the start of the characters. -/
def readName (cs : List Char) : Except SyntaxFault (LexemeKind × List Char) :=
  let run := cs.takeWhile extendsName
  match misfit? run with
  | some c => .error (.badCharacter c)
  | none =>
    let text := String.ofList run
    .ok (if reservedWords.contains text then .word text else .name text, cs.drop run.length)

/-! ### Numbers -/

/-- What follows digits and single underscores between them. -/
def afterDigits (isDigit : Char → Bool) (refuse : Option Char → SyntaxFault) :
    List Char → Except SyntaxFault (List Char)
  | '_' :: c :: rest =>
    if isDigit c then afterDigits isDigit refuse rest else .error (refuse (some c))
  | ['_'] => .error (refuse none)
  | c :: rest => if isDigit c then afterDigits isDigit refuse rest else .ok (c :: rest)
  | [] => .ok []

/-- The words that may follow a number without a blank between. -/
def numberFollowers : List String := ["and", "else", "for", "or", "not"]

/-- Whether an ASCII character could go on a name. -/
def sticks (c : Char) : Bool := c.isAlphanum || c == '_'

/-- A number ends where no name of ASCII characters could go on, or where one of some words
starts. -/
def checkEnd (kind : NumberKind) (cs : List Char) : Except SyntaxFault Unit :=
  let follows := numberFollowers.any fun word =>
    word.toList.isPrefixOf cs && !((cs.drop word.length).head?.any extendsName)
  if follows || ["if", "in", "is"].any (·.toList.isPrefixOf cs) then .ok ()
  else if cs.head?.any sticks then .error (.badNumber kind)
  else .ok ()

/-- The fault of a character that should be a digit. -/
def refuseDigit (kind : NumberKind) : Option Char → SyntaxFault
  | some c => if c.isDigit then .badDigit c kind else .badNumber kind
  | none => .badNumber kind

/-- What follows a number in a base that its second character names. -/
def afterBased (kind : NumberKind) (isDigit : Char → Bool) (cs : List Char) :
    Except SyntaxFault (List Char) := do
  let body := if cs.head? = some '_' then cs.tail else cs
  unless body.head?.any isDigit do throw (refuseDigit kind body.head?)
  let rest ← afterDigits isDigit (refuseDigit kind) body
  if let some c := rest.head? then
    if c.isDigit then throw (.badDigit c kind)
  checkEnd kind rest
  return rest

/-- What follows decimal digits. -/
def afterDecimals : List Char → Except SyntaxFault (List Char) :=
  afterDigits Char.isDigit fun _ => .badNumber .decimal

/-- Whether the characters start with a digit. -/
def startsDigit (cs : List Char) : Bool := cs.head?.any Char.isDigit

/-- What follows the mark of an imaginary number, if there is one, where a number may end. -/
def afterUnit (cs : List Char) : Except SyntaxFault (List Char) :=
  match cs with
  | 'j' :: rest | 'J' :: rest => do checkEnd .imaginary rest; return rest
  | _ => do checkEnd .decimal cs; return cs

/-- What follows an exponent, if there is one, and the rest of the number. -/
def afterExponent (cs : List Char) : Except SyntaxFault (List Char) :=
  match cs with
  | [] => .ok []
  | c :: rest =>
    if c = 'e' || c = 'E' then
      if rest.head? = some '+' || rest.head? = some '-' then
        if startsDigit rest.tail then do afterUnit (← afterDecimals rest.tail)
        else .error (.badNumber .decimal)
      else if startsDigit rest then do afterUnit (← afterDecimals rest)
      else do checkEnd .decimal cs; return cs
    else afterUnit cs

/-- What follows the digits after a point and the rest of the number. -/
def afterPoint (cs : List Char) : Except SyntaxFault (List Char) := do
  afterExponent (← if startsDigit cs then afterDecimals cs else .ok cs)

/-- What follows the number at the start of the characters. -/
def afterNumber (cs : List Char) : Except SyntaxFault (List Char) :=
  match cs with
  | '.' :: rest => afterPoint rest
  | '0' :: 'x' :: rest | '0' :: 'X' :: rest =>
    afterBased .hexadecimal (fun c => c.isDigit || ('a' ≤ c.toLower && c.toLower ≤ 'f')) rest
  | '0' :: 'o' :: rest | '0' :: 'O' :: rest => afterBased .octal (fun c => '0' ≤ c && c < '8') rest
  | '0' :: 'b' :: rest | '0' :: 'B' :: rest => afterBased .binary (fun c => c == '0' || c == '1') rest
  | _ => do
    let rest ← afterDecimals cs
    match rest with
    | '.' :: fraction => afterPoint fraction
    | _ =>
      let digits := cs.take (cs.length - rest.length)
      let padded := digits.head? = some '0' && digits.any fun c => c.isDigit && c != '0'
      let goesOn := rest.head?.any ['e', 'E', 'j', 'J'].contains
      if padded && !goesOn then throw .leadingZeros
      afterExponent rest

/-! ### Quoted texts -/

/-- The letters that may stand before quotes, in lower case. -/
def quoteLetters : List String := ["", "b", "r", "u", "f", "br", "rb", "fr", "rf"]

/-- How many letters stand before the quotes that the characters start with, if they do. -/
def lettersBeforeQuote? (cs : List Char) : Option Nat :=
  let letters := cs.takeWhile Char.isAlpha
  if quoteLetters.contains (String.ofList letters).toLower then
    match cs.drop letters.length with
    | '\'' :: _ | '"' :: _ => some letters.length
    | _ => none
  else none

/-- What follows the closing quotes; else how many lines were searched after the first. -/
def afterQuotes (triple : Bool) (mark : Char) (lines : Nat) : List Char → Except Nat (List Char)
  | [] => .error lines
  | '\\' :: c :: rest => afterQuotes triple mark (if c = '\n' then lines + 1 else lines) rest
  | c :: rest =>
    if c = mark then
      if !triple then .ok rest
      else if [mark, mark].isPrefixOf rest then .ok (rest.drop 2)
      else afterQuotes triple mark lines rest
    else if c = '\n' then
      if triple then afterQuotes triple mark (lines + 1) rest else .error lines
    else afterQuotes triple mark lines rest

/-- What follows the quoted text whose quotes the characters start with. -/
def afterQuoted (line : Nat) (cs : List Char) : Except SyntaxFault (List Char) :=
  match cs with
  | [] => .ok []
  | mark :: rest =>
    let triple := [mark, mark].isPrefixOf rest
    let found := if triple then afterQuotes true mark 0 (rest.drop 2)
      else afterQuotes false mark 0 rest
    found.mapError fun lines => .openQuote triple (line + lines)

/-! ### Signs -/

/-- The signs of several characters, the longer ones first. -/
def signs : List String :=
  ["**=", "...", "//=", "<<=", ">>=", "!=", "%=", "&=", "**", "*=", "+=", "-=", "->", "//", "/=",
   ":=", "<<", "<=", "<>", "==", ">=", ">>", "@=", "^=", "|="]

/-- The longest sign that the characters start with. -/
def readSign (cs : List Char) : List Char :=
  match signs.find? (·.toList.isPrefixOf cs) with
  | some sign => sign.toList
  | none => cs.take 1

/-- The bracket that an opening one asks for. -/
def closingOf : Char → Char
  | '(' => ')'
  | '[' => ']'
  | '\x7b' => '\x7d'
  | c => c

/-- Whether the character is an opening bracket. -/
def isOpening (c : Char) : Bool := c == '(' || c == '[' || c == '\x7b'

/-- Whether the character is a closing bracket. -/
def isClosing (c : Char) : Bool := c == ')' || c == ']' || c == '\x7d'

/-! ### Lines -/

/-- The depth of a line: its column, with a tab stop at every eighth one, and its column if a tab
counts as one. -/
structure Indent where
  column : Nat
  narrow : Nat
  deriving Repr, DecidableEq, Inhabited

/-- The state of reading: the line, the open brackets with their lines and the depths of the
phrases around the line, the innermost first. -/
structure Scanner where
  line : Nat
  opened : List (Char × Nat)
  indents : List Indent
  deriving Repr

/-- The blanks at the start of a line: their depth, how many lines they go on, and what follows.
If a backslash splits them, the part before it counts. -/
def readIndent (held : Nat) (lines : Nat) (indent : Indent) :
    List Char → Except SyntaxFault (Indent × Nat × List Char)
  | ' ' :: rest => readIndent held lines ⟨indent.column + 1, indent.narrow + 1⟩ rest
  | '\t' :: rest => readIndent held lines ⟨(indent.column / 8 + 1) * 8, indent.narrow + 1⟩ rest
  | '\x0c' :: rest => readIndent held lines ⟨0, 0⟩ rest
  | '\\' :: '\n' :: rest =>
    readIndent (if held = 0 then indent.column else held) (lines + 1) indent rest
  | '\\' :: _ => .error .afterContinuation
  | rest => .ok (if held = 0 then indent else ⟨held, held⟩, lines, rest)

/-- The lexemes that a line of a given depth starts with, and the depths around it. -/
def indentChange (indents : List Indent) (indent : Indent) :
    Except SyntaxFault (List LexemeKind × List Indent) :=
  let top := indents.head?.getD ⟨0, 0⟩
  if top.column < indent.column then
    if 99 ≤ indents.length then .error .tooIndented
    else if indent.narrow ≤ top.narrow then .error .mixedIndent
    else .ok ([.indent], indent :: indents)
  else
    let outer := indents.dropWhile fun deeper => indent.column < deeper.column
    let around := outer.head?.getD ⟨0, 0⟩
    if indent.column ≠ around.column then .error .unevenDedent
    else if indent.narrow ≠ around.narrow then .error .mixedIndent
    else .ok (List.replicate (indents.length - outer.length) .dedent, outer)

/-- What follows a comment, if there is one. -/
def skipComment (cs : List Char) : List Char :=
  if cs.head? = some '#' then cs.dropWhile (· != '\n') else cs

namespace Scanner

/-- A lexeme that starts here. -/
def lexeme (s : Scanner) (kind : LexemeKind) (sawEnd : Bool) : Lexeme :=
  ⟨kind, s.line, s.opened.length, sawEnd⟩

/-- Reading ends here, with or without a fault. -/
def stopped (s : Scanner) (items : Array Lexeme) (stop : Option Stop) : Lexemes :=
  ⟨items, stop, s.opened⟩

/-- The end of the expression: no bracket may be open. -/
def ended (s : Scanner) (items : Array Lexeme) : Lexemes :=
  match s.opened with
  | (opening, _) :: _ => s.stopped items (some ⟨.unclosed opening, true⟩)
  | [] => s.stopped (items.push (s.lexeme .finish true)) none

/-- A single character that starts no name, number or quoted text: the brackets that are open
after it. -/
def sign (s : Scanner) (c : Char) : Except SyntaxFault Scanner :=
  if isOpening c then
    if 200 ≤ s.opened.length then .error .tooNested
    else .ok { s with opened := (c, s.line) :: s.opened }
  else if isClosing c then
    match s.opened with
    | [] => .error (.unmatched c)
    | (opening, line) :: outer =>
      if closingOf opening = c then .ok { s with opened := outer }
      else .error (.mismatched c opening (if line = s.line then none else some line))
  else if Text.isPrintable c then .ok s
  else .error (.badCharacter c)

/-- The lexeme at the start of the characters, which are neither blank nor the end of a line; what
follows, and the state after it. -/
def next (s : Scanner) (cs : List Char) : Except SyntaxFault (Lexeme × Scanner × List Char) :=
  let c := cs.head?.getD ' '
  match lettersBeforeQuote? cs with
  | some letters => do
    let rest ← afterQuoted s.line (cs.drop letters)
    let chars := cs.take (cs.length - rest.length)
    let sawEnd := rest.isEmpty && chars.length = letters + 2
    return (s.lexeme (.quoted chars) sawEnd, { s with line := s.line + chars.count '\n' }, rest)
  | none =>
    if opensName c then do
      let (kind, rest) ← readName cs
      return (s.lexeme kind rest.isEmpty, s, rest)
    else if c.isDigit || (c == '.' && startsDigit cs.tail) then do
      let rest ← afterNumber cs
      return (s.lexeme (.number (cs.take (cs.length - rest.length))) rest.isEmpty, s, rest)
    else do
      let chars := readSign cs
      let s ← if chars.length = 1 then s.sign c else .ok s
      let rest := cs.drop chars.length
      let sawEnd := rest.isEmpty && chars.length < 3
      return (s.lexeme (.word (String.ofList chars)) sawEnd, s, rest)

/-- All lexemes of the characters, of which at most `fuel` are read; `fresh` holds where a line
starts. -/
def scan (s : Scanner) (fresh : Bool) (items : Array Lexeme) (fuel : Nat) (cs : List Char) :
    Lexemes :=
  match fuel with
  | 0 => s.stopped items none
  | fuel + 1 =>
    if fresh then
      match readIndent 0 0 ⟨0, 0⟩ cs with
      | .error fault => s.stopped items (some ⟨fault, true⟩)
      | .ok (indent, lines, rest) =>
        let s := { s with line := s.line + lines }
        if rest.head? = some '#' || rest.head? = some '\n' then
          match skipComment rest with
          | [] => s.ended items
          | _ :: rest => { s with line := s.line + 1 }.scan true items fuel rest
        else if s.opened.isEmpty then
          match indentChange s.indents indent with
          | .error fault => s.stopped items (some ⟨fault, true⟩)
          | .ok (kinds, indents) =>
            let s := { s with indents }
            s.scan false (items ++ (kinds.map (s.lexeme · false)).toArray) fuel rest
        else s.scan false items fuel rest
    else
      match skipComment (cs.dropWhile fun c => c == ' ' || c == '\t' || c == '\x0c') with
      | [] => s.ended items
      | '\n' :: rest =>
        let items := if s.opened.isEmpty then items.push (s.lexeme .newline false) else items
        { s with line := s.line + 1 }.scan true items fuel rest
      | '\\' :: '\n' :: rest => { s with line := s.line + 1 }.scan false items fuel rest
      | '\\' :: _ => s.stopped items (some ⟨.afterContinuation, true⟩)
      | cs =>
        match s.next cs with
        | .error fault => s.stopped items (some ⟨fault, false⟩)
        | .ok (lexeme, s, rest) => s.scan false (items.push lexeme) fuel rest

end Scanner

/-- Ends of lines are line feeds: a carriage return counts as one, alone or before a line feed. -/
def unifyLines : List Char → List Char
  | '\r' :: '\n' :: rest => '\n' :: unifyLines rest
  | '\r' :: rest => '\n' :: unifyLines rest
  | c :: rest => c :: unifyLines rest
  | [] => []

/-- The lexemes of an expression. -/
def lexemes (cs : List Char) : Lexemes :=
  let cs := unifyLines cs
  ({ line := 1, opened := [], indents := [] } : Scanner).scan true #[] (2 * cs.length + 2) cs

end KeywordQuery.Literal
