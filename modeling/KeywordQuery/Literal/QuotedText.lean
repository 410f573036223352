import KeywordQuery.Literal.Fault

/-!
# What stands between quotes

A quoted text may hold escapes; a text of bytes holds ASCII characters alone; a text with fields
holds phrases in braces.  Reading such texts here means finding their first fault.

* `escapeFault?`, `byteFault?` — the first fault of an escape;
* `checkFields` — a text with fields;
* `checkQuoted` — quoted texts that stand side by side.
-/

namespace KeywordQuery.Literal

/-! ### Escapes -/

/-- Whether the character is a hexadecimal digit. -/
def isHexDigit (c : Char) : Bool := c.isDigit || ('a' ≤ c.toLower && c.toLower ≤ 'f')

/-- The number of hexadecimal digits at the start of the characters, `most` at the most. -/
def hexCount (most : Nat) (cs : List Char) : Nat := ((cs.take most).takeWhile isHexDigit).length

/-- The number that hexadecimal digits spell. -/
def hexValue (cs : List Char) : Nat :=
  cs.foldl (fun value c => value * 16 +
    (if c.isDigit then c.toNat - '0'.toNat else c.toLower.toNat - 'a'.toNat + 10)) 0

/-- How many characters a text has if those that are not ASCII are written as escapes of ten. -/
def spelledLength : List Char → Nat
  | '\\' :: c :: rest => (if c.toNat < 0x80 then 2 else 16) + spelledLength rest
  | ['\\'] => 6
  | c :: rest => (if c.toNat < 0x80 then 1 else 10) + spelledLength rest
  | [] => 0

/-- The fault of an escape by number that has too few digits, or is beyond the last code point. -/
def numberFault? (position width : Nat) (short : EscapeFault) (rest : List Char) :
    Option SyntaxFault :=
  let count := hexCount width rest
  if count < width then some (.badEscape short position (position + 1 + count))
  else if 0x10FFFF < hexValue (rest.take width) then
    some (.badEscape .outOfRange position (position + 1 + width))
  else none

/-- The fault of an escape by name, before whose name the characters stand.  No names are known. -/
def nameFault (position : Nat) : List Char → SyntaxFault
  | '\x7b' :: rest =>
    let name := rest.takeWhile (· != '\x7d')
    if rest.length = name.length then
      .badEscape .badName position (position + 2 + spelledLength name)
    else if name.isEmpty then .badEscape .badName position (position + 2)
    else .badEscape .unknownName position (position + 3 + spelledLength name)
  | _ => .badEscape .badName position (position + 1)

/-- The first fault in the escapes of a text, whose positions count as in `spelledLength`. -/
def escapeFault? (position : Nat) : List Char → Option SyntaxFault
  | '\\' :: c :: rest =>
    let later := escapeFault? (position + if c.toNat < 0x80 then 2 else 16) rest
    match c with
    | 'x' => numberFault? position 2 .shortByte rest <|> later
    | 'u' => numberFault? position 4 .shortUnit rest <|> later
    | 'U' => numberFault? position 8 .shortPoint rest <|> later
    | 'N' => some (nameFault position rest)
    | _ => later
  | c :: rest => escapeFault? (position + if c.toNat < 0x80 then 1 else 10) rest
  | [] => none

/-- The first fault in the escapes of a text of bytes. -/
def byteFault? (position : Nat) : List Char → Option SyntaxFault
  | '\\' :: c :: rest =>
    if c = 'x' && hexCount 2 rest < 2 then some (.badByteEscape position)
    else byteFault? (position + 2) rest
  | _ :: rest => byteFault? (position + 1) rest
  | [] => none

/-! ### Fields -/

/-- A piece of a text with fields: the characters before a field, a doubled brace or the end,
whether a doubled brace ends it, and what follows. -/
structure Plain where
  chars : List Char
  doubled : Bool
  rest : List Char
  deriving Repr, DecidableEq

/-- The piece that ends at a brace.  At the top a doubled brace stands for one, and a single closing
brace is a fault. -/
def Plain.atBrace (top : Bool) (taken : List Char) (brace : Char) (rest : List Char) :
    Except SyntaxFault Plain :=
  if top && rest.head? = some brace then .ok ⟨(brace :: taken).reverse, true, rest.tail⟩
  else if top && brace = '\x7d' then .error .loneBrace
  else .ok ⟨taken.reverse, false, brace :: rest⟩

/-- Whether the character is a brace. -/
def isBrace (c : Char) : Bool := c == '\x7b' || c == '\x7d'

/-- The piece of a text with fields that goes on from the characters taken, the latest first;
`named` holds inside the name of a character. -/
def Plain.read (raw top named : Bool) (taken : List Char) : List Char → Except SyntaxFault Plain
  | [] => .ok ⟨taken.reverse, false, []⟩
  | c :: rest =>
    if named then Plain.read raw top (c != '\x7d') (c :: taken) rest
    else if c = '\\' && !raw then
      match rest with
      | 'N' :: d :: rest => Plain.read raw top (d == '\x7b') (d :: 'N' :: c :: taken) rest
      | d :: rest =>
        if isBrace d then Plain.atBrace top (c :: taken) d rest
        else Plain.read raw top false (d :: c :: taken) rest
      | [] => .ok ⟨(c :: taken).reverse, false, []⟩
    else if isBrace c then Plain.atBrace top taken c rest
    else Plain.read raw top false (c :: taken) rest

/-- The bracket that a closing one asks for. -/
def openingOf : Char → Char
  | ')' => '('
  | ']' => '['
  | '\x7d' => '\x7b'
  | c => c

/-- The phrase at the start of a field, and what follows from the sign that ends it.  `skip`
characters belong to what came before; `quote` is the quote that is open, and whether it is a
triple one; `opened` holds the open brackets. -/
def splitPhrase (skip : Nat) (quote : Option (Char × Bool)) (opened taken : List Char) :
    List Char → Except SyntaxFault (List Char × List Char)
  | [] =>
    match quote, opened with
    | some _, _ => .error .fieldQuote
    | none, c :: _ => .error (.fieldBracket c)
    | none, [] => .error .openField
  | c :: rest =>
    let triple := [c, c].isPrefixOf rest
    match skip with
    | skip + 1 => splitPhrase skip quote opened (c :: taken) rest
    | 0 =>
      if c = '\\' then .error .fieldBackslash
      else match quote with
        | some (mark, wide) =>
          if c = mark && (!wide || triple) then
            splitPhrase (if wide then 2 else 0) none opened (c :: taken) rest
          else splitPhrase 0 quote opened (c :: taken) rest
        | none =>
          if c = '\'' || c = '"' then
            splitPhrase (if triple then 2 else 0) (some (c, triple)) opened (c :: taken) rest
          else if c = '[' || c = '\x7b' || c = '(' then
            if 200 ≤ opened.length then .error .fieldDepth
            else splitPhrase 0 none (c :: opened) (c :: taken) rest
          else if c = '#' then .error .fieldComment
          else if opened.isEmpty && ['!', ':', '\x7d', '=', '<', '>'].contains c then
            if rest.head? = some '=' && ['!', '=', '<', '>'].contains c then
              splitPhrase 1 none opened (c :: taken) rest
            else if c = '<' || c = '>' then splitPhrase 0 none opened (c :: taken) rest
            else .ok (taken.reverse, c :: rest)
          else if c = ']' || c = '\x7d' || c = ')' then
            match opened with
            | [] => .error (.fieldBracket c)
            | opening :: outer =>
              if opening = openingOf c then splitPhrase 0 none outer (c :: taken) rest
              else .error (.fieldMismatch c opening)
          else splitPhrase 0 none opened (c :: taken) rest

/-- Checks the phrase of a field that a sign ends; it must not be blank. -/
def checkPhrase (phrase : List Char → Except SyntaxFault Unit) (cs : List Char)
    (sign : Option Char) : Except SyntaxFault Unit :=
  if cs.all fun c => c == ' ' || c == '\t' || c == '\n' || c == '\x0c' then
    match sign with
    | some '\x7d' | none => .error .emptyField
    | some c => .error (.missingField c)
  else phrase cs

/-- What follows the conversion in a field, if there is one. -/
def afterConversion : List Char → Except SyntaxFault (List Char)
  | '!' :: c :: rest =>
    if c = 's' || c = 'r' || c = 'a' then .ok rest else .error .badConversion
  | ['!'] => .error .openField
  | cs => .ok cs

/-- What follows the fields of a text: nothing at the top, a closing brace in a field.  `phrase`
checks the phrase of a field, and at most `fuel` pieces are read. -/
def checkFields (phrase : List Char → Except SyntaxFault Unit) (raw : Bool) (fuel level : Nat)
    (cs : List Char) : Except SyntaxFault (List Char) :=
  match fuel with
  | 0 => .ok []
  | fuel + 1 => do
    let plain ← Plain.read raw (level == 0) false [] cs
    unless raw do
      if let some fault := escapeFault? 0 plain.chars then throw fault
    if plain.doubled then checkFields phrase raw fuel level plain.rest
    else match plain.rest with
      | '\x7b' :: inner => do
        if 2 ≤ level then throw .nestedField
        let (words, rest) ← splitPhrase 0 none [] [] inner
        checkPhrase phrase words rest.head?
        let rest ← afterConversion (if rest.head? = some '=' then rest.tail else rest)
        let rest ← match rest with
          | [':'] => throw .openField
          | ':' :: format => checkFields phrase raw fuel (level + 1) format
          | _ => .ok rest
        match rest with
        | '\x7d' :: rest => checkFields phrase raw fuel level rest
        | _ => throw .openField
      | rest =>
        if level = 0 || rest.head? = some '\x7d' then return rest
        else throw .openField

/-! ### Quoted texts -/

/-- A quoted text: whether it is made of bytes, has fields and has no escapes, and the characters
between its quotes. -/
structure QuotedText where
  bytes : Bool
  fields : Bool
  raw : Bool
  inner : List Char
  deriving Repr, DecidableEq

namespace QuotedText

/-- The quoted text that is written with letters before its quotes. -/
def ofChars (cs : List Char) : QuotedText :=
  let letters := (cs.takeWhile Char.isAlpha).map Char.toLower
  let body := cs.drop letters.length
  let opening := body.take 3
  let width := if opening = ['\'', '\'', '\''] || opening = ['"', '"', '"'] then 3 else 1
  { bytes := letters.contains 'b'
    fields := letters.contains 'f'
    raw := letters.contains 'r'
    inner := (body.drop width).take (body.length - 2 * width) }

/-- Checks the characters between the quotes, the fields apart. -/
def checkChars (text : QuotedText) : Except SyntaxFault Unit :=
  if text.bytes then
    if text.inner.any fun c => 0x80 ≤ c.toNat then .error .wideByte
    else match if text.raw then none else byteFault? 0 text.inner with
      | some fault => .error fault
      | none => .ok ()
  else match if text.fields || text.raw then none else escapeFault? 0 text.inner with
    | some fault => .error fault
    | none => .ok ()

end QuotedText

/-- Checks quoted texts that stand side by side, after one that is or is not made of bytes.  The
answer tells whether one of them has fields. -/
def checkQuoted (phrase : List Char → Except SyntaxFault Unit) (bytes : Option Bool) :
    List QuotedText → Except SyntaxFault Bool
  | [] => .ok false
  | text :: rest => do
    text.checkChars
    if bytes.any (· != text.bytes) then throw .mixedQuotes
    if text.fields then
      let _ ← checkFields phrase text.raw (text.inner.length + 1) 0 text.inner
    let others ← checkQuoted phrase (some text.bytes) rest
    return text.fields || others

end KeywordQuery.Literal
