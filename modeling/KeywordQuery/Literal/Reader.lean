import KeywordQuery.Literal.Grammar
import KeywordQuery.Literal.Lexeme
import KeywordQuery.Literal.QuotedText
import Std.Data.HashMap

/-!
# Reading literal notation

An expression is read by the rules of the grammar, first leniently.  If no phrase fits, it is read
once more with the strict rules, which look for a fault with a name of its own.  A fault in the
lexemes goes before any other fault.

* `Found`, `Reading` — what is found at a place, and the computations that find it;
* `Reader.form`, `Reader.rule` — reading a form and a rule;
* `readPhrase` — the phrase of an expression, or its fault.
-/

namespace KeywordQuery.Literal

/-- What is found at a place, and the place after it. -/
structure Found where
  phrases : List Phrase
  next : Nat
  deriving Repr

/-- How many lexemes have been asked for, and what rules have found. -/
structure Progress where
  asked : Nat := 0
  known : Std.HashMap (Rule × Bool × Nat) (Option Found) := {}

/-- Computations that read lexemes and may meet a fault. -/
abbrev Reading := ExceptT SyntaxFault (StateM Progress)

/-- What stays the same while an expression is read: its lexemes, and how the phrase in a field of a
text is checked. -/
structure Reader where
  lexemes : Lexemes
  field : List Char → Except SyntaxFault Unit

namespace Reader

/-- The lexeme at a place.  To ask for one where reading has stopped is a fault. -/
def lexeme (r : Reader) (place : Nat) : Reading LexemeKind := do
  modify fun progress => { progress with asked := max progress.asked (place + 1) }
  match r.lexemes.items[place]? with
  | some lexeme => return lexeme.kind
  | none => throw ((r.lexemes.stop.map Stop.fault).getD .unexpected)

/-- The quoted texts from a place on. -/
def quotedFrom (r : Reader) : (fuel place : Nat) → Reading (List QuotedText × Nat)
  | 0, place => return ([], place)
  | fuel + 1, place => do
    match ← r.lexeme place with
    | .quoted chars => do
      let (texts, next) ← r.quotedFrom fuel (place + 1)
      return (QuotedText.ofChars chars :: texts, next)
    | _ => return ([], place)

/-- Checks a number: a decimal integer has at most 4300 digits. -/
def checkNumber (chars : List Char) : Except SyntaxFault Phrase :=
  let digits := chars.filter (· != '_')
  if digits.all Char.isDigit && digits.head? != some '0' && 4300 < digits.length then
    .error (.tooManyDigits digits.length)
  else
    let based := ["0x", "0X"].any (·.toList.isPrefixOf chars)
    .ok (.number (!based && (chars.getLast? == some 'j' || chars.getLast? == some 'J')))

/-- The names with a meaning of their own in some places. -/
def softNames : List String := ["_", "case", "match"]

/-- Whether a name is, or is the start of, one with a meaning of its own in some places. -/
def isSoft (text : String) : Bool := softNames.any fun name => text.toList.isPrefixOf name.toList

/-- A form that is a single lexeme, or none. -/
def leaf (r : Reader) (form : Form) (place : Nat) : Reading (Option Found) := do
  if let .enclosed := form then
    let depth := (r.lexemes.items[place - 1]?).elim 0 Lexeme.depth
    return if depth = 0 then none else some ⟨[], place⟩
  let kind ← r.lexeme place
  match form, kind with
  | .word text, .word other => return if text = other then some ⟨[], place + 1⟩ else none
  | .name, .name text => return some ⟨[.name text], place + 1⟩
  | .softName, .name text =>
    return if isSoft text then some ⟨[], place + 1⟩ else none
  | .number, .number chars =>
    match checkNumber chars with
    | .ok phrase => return some ⟨[phrase], place + 1⟩
    | .error fault => throw fault
  | .quote, .quoted _ => return some ⟨[], place + 1⟩
  | .quotes, .quoted _ => do
    let (texts, next) ← r.quotedFrom (r.lexemes.items.size + 1) place
    match checkQuoted r.field none texts with
    | .ok fields => return some ⟨[if fields then .fieldText else .text], next⟩
    | .error fault => throw fault
  | .newline, .newline | .finish, .finish => return some ⟨[], place + 1⟩
  | _, _ => return none

mutual

/-- What a form finds at a place, if it fits there. -/
def form (r : Reader) (strict : Bool) (fuel : Nat) (f : Form) (place : Nat) :
    Reading (Option Found) :=
  match fuel with
  | 0 => return none
  | fuel + 1 =>
    match f with
    | .rule name => r.rule strict fuel name place
    | .strictly name => if strict then r.rule true fuel name place else return none
    | .leniently name => r.rule false fuel name place
    | .optional f => do return some ((← r.form strict fuel f place).getD ⟨[], place⟩)
    | .many f => do return some (← r.repeated strict fuel [f] [] place)
    | .some f => do
      match ← r.form strict fuel f place with
      | none => return none
      | some found => return some (← r.repeated strict fuel [f] found.phrases found.next)
    | .separated f => do
      match ← r.form strict fuel f place with
      | none => return none
      | some found =>
        return some (← r.repeated strict fuel [.word ",", f] found.phrases found.next)
    | .ahead f => do
      return (← r.form strict fuel f place).map fun _ => ⟨[], place⟩
    | .never f => do
      return if (← r.form strict fuel f place).isSome then none else some ⟨[], place⟩
    | .anyOf choices => r.choices strict fuel choices place
    | .cut => return some ⟨[], place⟩
    | f => r.leaf f place

/-- What forms one after the other find, and whether a cut was reached. -/
def forms (r : Reader) (strict : Bool) (fuel : Nat) (fs : List Form) (place : Nat) :
    Reading (Option Found × Bool) :=
  match fuel with
  | 0 => return (none, false)
  | fuel + 1 =>
    match fs with
    | [] => return (some ⟨[], place⟩, false)
    | .cut :: rest => do return ((← r.forms strict fuel rest place).1, true)
    | f :: rest => do
      match ← r.form strict fuel f place with
      | none => return (none, false)
      | some found =>
        let (others, cut) ← r.forms strict fuel rest found.next
        return (others.map fun others => ⟨found.phrases ++ others.phrases, others.next⟩, cut)

/-- What the forms find after what has been found, as often as they fit. -/
def repeated (r : Reader) (strict : Bool) (fuel : Nat) (fs : List Form) (phrases : List Phrase)
    (place : Nat) : Reading Found :=
  match fuel with
  | 0 => return ⟨phrases, place⟩
  | fuel + 1 => do
    match (← r.forms strict fuel fs place).1 with
    | none => return ⟨phrases, place⟩
    | some found => r.repeated strict fuel fs (phrases ++ found.phrases) found.next

/-- What the first of some sequences that fits finds. -/
def choices (r : Reader) (strict : Bool) (fuel : Nat) (sequences : List (List Form))
    (place : Nat) : Reading (Option Found) :=
  match fuel with
  | 0 => return none
  | fuel + 1 =>
    match sequences with
    | [] => return none
    | fs :: rest => do
      match (← r.forms strict fuel fs place).1 with
      | some found => return some found
      | none => r.choices strict fuel rest place

/-- What the first of some alternatives that fits finds. -/
def alternatives (r : Reader) (strict : Bool) (fuel : Nat) (alts : List Alternative)
    (place : Nat) : Reading (Option Found) :=
  match fuel with
  | 0 => return none
  | fuel + 1 =>
    match alts with
    | [] => return none
    | alt :: rest => do
      match ← r.forms strict fuel alt.forms place with
      | (some found, _) =>
        match alt.outcome found.phrases with
        | .found phrases => return some ⟨phrases, found.next⟩
        | .refused => return none
        | .fault fault => throw fault
      | (none, true) => return none
      | (none, false) => r.alternatives strict fuel rest place

/-- What a rule finds at a place, if it fits there.  A rule is read once at each place. -/
def rule (r : Reader) (strict : Bool) (fuel : Nat) (name : Rule) (place : Nat) :
    Reading (Option Found) :=
  match fuel with
  | 0 => return none
  | fuel + 1 => do
    let key := (name, strict || name.isShared, place)
    match (← get).known[key]? with
    | some found => return found
    | none =>
      let _ ← r.lexeme place
      let found ← r.alternatives strict fuel name.alternatives place
      modify fun progress => { progress with known := progress.known.insert key found }
      return found

end

/-- How deep the rules can be nested. -/
def depth (r : Reader) : Nat := 400 * (r.lexemes.items.size + 2)

/-- The lexeme that was asked for last. -/
def last? (r : Reader) (asked : Nat) : Option Lexeme := r.lexemes.items[asked - 1]?

/-- The fault that goes before another one: a fault in the lexemes, or a bracket that is left open
on a line before the last lexeme that was asked for. -/
def earlierFault? (r : Reader) (asked : Nat) : Option SyntaxFault :=
  match r.lexemes.stop, r.last? asked, r.lexemes.opened with
  | some ⟨refusal, false⟩, _, _ => some refusal
  | some _, some last, (opening, line) :: _ =>
    if line < last.line then some (.unclosed opening) else none
  | _, _, _ => none

/-- The fault of an expression in which a fault was met after some lexemes had been asked for.  An
open bracket does not go before it once the end has been seen. -/
def metFault (r : Reader) (asked : Nat) (fault : SyntaxFault) : SyntaxFault :=
  if (r.last? asked).any Lexeme.sawEnd then fault else (r.earlierFault? asked).getD fault

/-- The fault of an expression that no phrase fits, and for which no strict rule has a fault. -/
def plainFault (r : Reader) (asked askedAgain : Nat) : SyntaxFault :=
  match (r.last? asked).map Lexeme.kind with
  | some .indent => .indented
  | some .dedent => .dedented
  | _ => (r.earlierFault? askedAgain).getD .unexpected

/-- What a rule finds at the start of the lexemes. -/
def read (r : Reader) (start : Rule) : Except SyntaxFault (List Phrase) :=
  match (r.rule false r.depth start 0).run {} with
  | (.ok (some found), _) => .ok found.phrases
  | (.error fault, first) => .error (r.metFault first.asked fault)
  | (.ok none, first) =>
    match (r.rule true r.depth start 0).run { asked := first.asked } with
    | (.error fault, second) => .error (r.metFault second.asked fault)
    | (.ok _, second) => .error (r.plainFault first.asked second.asked)

end Reader

/-- Checks the phrase in a field of a text, which may hold other fields `level` deep. -/
def checkField : (level : Nat) → List Char → Except SyntaxFault Unit
  | 0, _ => .ok ()
  | level + 1, cs =>
    let reader : Reader := ⟨lexemes ('(' :: cs ++ [')', '\n']), checkField level⟩
    match reader.read .starExpressions, reader.lexemes.stop with
    | .ok _, _ => .ok ()
    | .error fault, some ⟨refusal, false⟩ =>
      .error (if fault = refusal then refusal else .field fault)
    | .error fault, _ => .error (.field fault)

/-- The phrase of an expression. -/
def readPhrase (cs : List Char) : Except SyntaxFault Phrase := do
  if cs.contains '\x00' then throw .nullCharacter
  let reader : Reader := ⟨lexemes cs, checkField cs.length⟩
  match ← reader.read .whole with
  | phrase :: _ => return phrase
  | [] => throw .unexpected

end KeywordQuery.Literal
