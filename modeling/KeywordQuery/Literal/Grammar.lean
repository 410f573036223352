import KeywordQuery.Literal.Phrase

/-!
# The grammar of literal notation

The phrases of an expression, as ordered choices: the first alternative that fits is taken.  Rules
that only find out what is wrong are marked as strict; they are tried when no phrase fits at all.
Square brackets have no rule, since a tag cannot hold them.

* `Form` — what an alternative is made of;
* `Rule`, `Rule.alternatives` — the rules and their alternatives;
* `Rule.isShared` — whether a strict reading may take over what a lenient one has found.
-/

namespace KeywordQuery.Literal

/-- The names of the rules; those that start with `bad` only find faults. -/
inductive Rule
  | whole | expressions | expression | bareExpression | badExpression | formerStatement
  | yielding | starExpressions | starExpression | starItems | starItem
  | assignment | named | badNamed
  | disjunction | conjunction | inversion | comparison | comparedTo
  | bitOr | bitXor | bitAnd | shift | sum | term | factor | power | awaited
  | primary | suffix | atom | quoted | group | badGroup | tuple
  | set | setComprehension | generator | badComprehension
  | dict | dictComprehension | badDictComprehension | entries | entry | keyValue
  | badEntries | badEntry
  | clauses | clause | badClause
  | arguments | badArguments | positional | byPosition | morePositional | keywords
  | starred | keywordOrStarred | keywordOrSpread | badKeyword
  | targets | targetTuple | target | targetAtom | targetName | targetPrimary
  | function | parameters | parameterList | slashPlain | slashDefault | starRest | keywordRest
  | plainParameter | defaultParameter | anyParameter | defaultValue
  | badParameters | badHead | badStarRest | badKeywordRest | badDefault
  deriving Repr, DecidableEq, Hashable, Inhabited

/-- What an alternative is made of. -/
inductive Form
  | word (text : String)
  | name
  /-- A name that is, or is the start of, one with a meaning of its own in some places. -/
  | softName
  | number
  /-- One quoted text, unread. -/
  | quote
  /-- Quoted texts side by side. -/
  | quotes
  | newline
  | finish
  /-- Nothing, where the last lexeme lies in brackets. -/
  | enclosed
  | rule (r : Rule)
  /-- A rule that is tried only in a strict reading. -/
  | strictly (r : Rule)
  /-- A rule that is read as in a lenient reading. -/
  | leniently (r : Rule)
  | optional (form : Form)
  | many (form : Form)
  | some (form : Form)
  /-- One or more, with commas between them. -/
  | separated (form : Form)
  | ahead (form : Form)
  | never (form : Form)
  | anyOf (choices : List (List Form))
  /-- Nothing; once it is reached, no later alternative is tried. -/
  | cut
  deriving Repr, Inhabited

/-- Forms one after the other. -/
def Form.all (forms : List Form) : Form := .anyOf [forms]

/-- One of several words. -/
def Form.words (texts : List String) : Form := .anyOf (texts.map fun text => [.word text])

/-- What becomes of an alternative that fits. -/
inductive Outcome
  | found (phrases : List Phrase)
  /-- The rule does not fit, and no later alternative is tried. -/
  | refused
  | fault (fault : SyntaxFault)

/-- An alternative, and what becomes of the phrases in it. -/
structure Alternative where
  forms : List Form
  outcome : List Phrase → Outcome

/-- The phrases as they are. -/
def keep (forms : List Form) : Alternative := ⟨forms, .found⟩

/-- A phrase made of the phrases. -/
def make (forms : List Form) (phrase : List Phrase → Phrase) : Alternative :=
  ⟨forms, fun phrases => .found [phrase phrases]⟩

/-- A phrase of which only the title is kept. -/
def entitle (forms : List Form) (title : String) : Alternative := make forms fun _ => .other title

/-- Nothing is kept. -/
def skip (forms : List Form) : Alternative := ⟨forms, fun _ => .found []⟩

/-- A fault. -/
def slip (forms : List Form) (fault : SyntaxFault) : Alternative := ⟨forms, fun _ => .fault fault⟩

/-- A fault, if the phrases have one. -/
def judge (forms : List Form) (fault? : List Phrase → Option SyntaxFault) : Alternative :=
  ⟨forms, fun phrases => match fault? phrases with
    | some fault => .fault fault
    | none => .refused⟩

/-- The title of the first phrase. -/
def firstTitle (phrases : List Phrase) : String := (phrases.head?.map Phrase.title).getD ""

/-- A single phrase, or an expression of several. -/
def chain (phrases : List Phrase) : Phrase :=
  match phrases with
  | [phrase] => phrase
  | _ => .other "expression"

/-- A phrase and what follows it: attributes and calls. -/
def applied (phrases : List Phrase) : Phrase :=
  match phrases with
  | [] => .other "expression"
  | first :: suffixes => suffixes.foldl (fun function suffix =>
      match function, suffix with
      | .name "set", .arguments [] => .emptySet
      | _, .arguments _ => .other "function call"
      | _, _ => suffix) first

/-- An entry of a key and a value. -/
def entryOf (phrases : List Phrase) : Phrase :=
  match phrases with
  | [key, value] => .entry key value
  | _ => .other "expression"

/-- A phrase made of the first phrase. -/
def ofFirst (wrap : Phrase → Phrase) (phrases : List Phrase) : Phrase :=
  wrap (phrases.head?.getD (.other "expression"))

open Form in
/-- The alternatives of each rule. -/
def Rule.alternatives : Rule → List Alternative
  | .whole => [keep [rule .expressions, many newline, finish]]
  | .expressions =>
    [make [rule .expression, some (all [word ",", rule .expression]), optional (word ",")] .tuple,
     make [rule .expression, word ","] .tuple,
     keep [rule .expression]]
  | .expression =>
    [keep [strictly .badExpression],
     keep [strictly .formerStatement],
     entitle [rule .disjunction, word "if", rule .disjunction, word "else", rule .expression]
       "conditional expression",
     keep [rule .disjunction],
     keep [rule .function]]
  | .bareExpression =>
    [entitle [rule .disjunction, word "if", rule .disjunction, word "else", rule .expression]
       "conditional expression",
     keep [rule .disjunction],
     keep [rule .function]]
  | .badExpression =>
    [judge [never (anyOf [[name, quote], [softName]]), rule .disjunction,
        leniently .bareExpression, enclosed] fun phrases =>
        if (phrases.head?.map Phrase.isFormerStatement).getD false then none
        else Option.some .missingComma,
     slip [rule .disjunction, word "if", rule .disjunction, never (words ["else", ":"])]
       .missingElse]
  | .formerStatement =>
    [judge [name, never (word "("), rule .starExpressions] fun phrases =>
        match phrases with
        | .name text :: _ =>
          if Phrase.isFormerStatement (.name text) then Option.some (.missingCall text) else none
        | _ => none]
  | .yielding =>
    [entitle [word "yield", word "from", rule .expression] "yield expression",
     entitle [word "yield", optional (rule .starExpressions)] "yield expression"]
  | .starExpressions =>
    [make [rule .starExpression, some (all [word ",", rule .starExpression]),
        optional (word ",")] .tuple,
     make [rule .starExpression, word ","] .tuple,
     keep [rule .starExpression]]
  | .starExpression =>
    [make [word "*", rule .bitOr] (ofFirst .starred), keep [rule .expression]]
  | .starItems => [keep [separated (rule .starItem), optional (word ",")]]
  | .starItem => [make [word "*", rule .bitOr] (ofFirst .starred), keep [rule .named]]
  | .assignment => [entitle [name, word ":=", cut, rule .expression] "named expression"]
  | .named =>
    [keep [rule .assignment], keep [strictly .badNamed],
     keep [rule .expression, never (word ":=")]]
  | .badNamed =>
    [judge [rule .expression, word ":=", rule .expression] fun phrases =>
        Option.some (.assignedWith (firstTitle phrases)),
     slip [name, word "=", rule .bitOr, never (words ["=", ":="])] .equalsSign,
     judge [never (anyOf [[rule .tuple], [rule .generator], [words ["True", "None", "False"]]]),
        rule .bitOr, word "=", rule .bitOr, never (words ["=", ":="])] fun phrases =>
        Option.some (.assignedHere (firstTitle phrases))]
  | .disjunction =>
    [entitle [rule .conjunction, some (all [word "or", rule .conjunction])] "expression",
     keep [rule .conjunction]]
  | .conjunction =>
    [entitle [rule .inversion, some (all [word "and", rule .inversion])] "expression",
     keep [rule .inversion]]
  | .inversion =>
    [entitle [word "not", rule .inversion] "expression", keep [rule .comparison]]
  | .comparison =>
    [make [rule .bitOr, word "in", rule .bitOr, many (rule .comparedTo)]
       (ofFirst (.comparison · true)),
     make [rule .bitOr, some (rule .comparedTo)] (ofFirst (.comparison · false)),
     keep [rule .bitOr]]
  | .comparedTo =>
    [keep [words ["==", "!=", "<=", "<", ">=", ">"], rule .bitOr],
     keep [word "not", word "in", rule .bitOr],
     keep [word "in", rule .bitOr],
     keep [word "is", word "not", rule .bitOr],
     keep [word "is", rule .bitOr]]
  | .bitOr => [make [rule .bitXor, many (all [word "|", rule .bitXor])] chain]
  | .bitXor => [make [rule .bitAnd, many (all [word "^", rule .bitAnd])] chain]
  | .bitAnd => [make [rule .shift, many (all [word "&", rule .shift])] chain]
  | .shift => [make [rule .sum, many (all [words ["<<", ">>"], rule .sum])] chain]
  | .sum =>
    [make [rule .term, many (all [words ["+", "-"], rule .term])] fun phrases =>
      match phrases with
      | [] => .other "expression"
      | first :: rest => rest.foldl .sum first]
  | .term => [make [rule .factor, many (all [words ["*", "/", "//", "%", "@"], rule .factor])] chain]
  | .factor =>
    [make [words ["+", "-"], rule .factor] (ofFirst .signed),
     entitle [word "~", rule .factor] "expression",
     keep [rule .power]]
  | .power =>
    [entitle [rule .awaited, word "**", rule .factor] "expression", keep [rule .awaited]]
  | .awaited =>
    [entitle [word "await", rule .primary] "await expression", keep [rule .primary]]
  | .primary => [make [rule .atom, many (rule .suffix)] applied]
  | .suffix =>
    [entitle [word ".", name] "attribute",
     entitle [rule .generator] "function call",
     make [word "(", optional (rule .arguments), word ")"] .arguments]
  | .atom =>
    [keep [name],
     make [word "True"] fun _ => .truth "True",
     make [word "False"] fun _ => .truth "False",
     make [word "None"] fun _ => .truth "None",
     keep [ahead quote, rule .quoted],
     keep [number],
     keep [ahead (word "("), anyOf [[rule .tuple], [rule .group], [rule .generator]]],
     keep [ahead (word "\x7b"), anyOf [[rule .dict], [rule .set], [rule .dictComprehension],
       [rule .setComprehension]]],
     make [word "..."] fun _ => .ellipsis]
  | .quoted => [keep [quotes]]
  | .group =>
    [keep [word "(", anyOf [[rule .yielding], [rule .named]], word ")"],
     keep [strictly .badGroup]]
  | .badGroup =>
    [slip [word "(", rule .starred, word ")"] .starredGroup,
     slip [word "(", word "**", rule .expression, word ")"] .doublyStarredGroup]
  | .tuple =>
    [make [word "(", optional (all [rule .starItem, word ",", optional (rule .starItems)]),
        word ")"] .tuple]
  | .set => [make [word "\x7b", rule .starItems, word "\x7d"] .set]
  | .setComprehension =>
    [entitle [word "\x7b", rule .named, rule .clauses, word "\x7d"] "set comprehension",
     keep [strictly .badComprehension]]
  | .generator =>
    [entitle [word "(", anyOf [[rule .assignment], [rule .expression, never (word ":=")]],
        rule .clauses, word ")"] "generator expression",
     keep [strictly .badComprehension]]
  | .badComprehension =>
    [slip [words ["(", "\x7b"], rule .starred, rule .clauses] .starredComprehension,
     slip [word "\x7b", rule .starItem, word ",", rule .starItems, rule .clauses] .bareTarget,
     slip [word "\x7b", rule .starItem, word ",", rule .clauses] .bareTarget]
  | .dict =>
    [make [word "\x7b", optional (rule .entries), word "\x7d"] .dict,
     keep [word "\x7b", rule .badEntries, word "\x7d"]]
  | .dictComprehension =>
    [entitle [word "\x7b", rule .keyValue, rule .clauses, word "\x7d"] "dict comprehension",
     keep [strictly .badDictComprehension]]
  | .badDictComprehension =>
    [slip [word "\x7b", word "**", rule .bitOr, rule .clauses, word "\x7d"] .spreadComprehension]
  | .entries => [keep [separated (rule .entry), optional (word ",")]]
  | .entry => [make [word "**", rule .bitOr] (ofFirst .spread), keep [rule .keyValue]]
  | .keyValue => [make [rule .expression, word ":", rule .expression] entryOf]
  | .badEntries =>
    [keep [separated (rule .entry), word ",", rule .badEntry],
     slip [rule .expression, word ":", word "*", rule .bitOr] .starredValue,
     slip [rule .expression, word ":", ahead (words ["\x7d", ","])] .missingValue]
  | .badEntry =>
    [slip [rule .expression, never (word ":")] .missingColon,
     slip [rule .expression, word ":", word "*", rule .bitOr] .starredValue,
     slip [rule .expression, word ":", ahead (words ["\x7d", ","])] .missingValue]
  | .clauses => [skip [some (rule .clause)]]
  | .clause =>
    [skip [word "async", word "for", rule .targets, word "in", cut, rule .disjunction,
        many (all [word "if", rule .disjunction])],
     skip [word "for", rule .targets, word "in", cut, rule .disjunction,
        many (all [word "if", rule .disjunction])],
     keep [strictly .badClause]]
  | .badClause =>
    [judge [optional (word "async"), word "for", rule .starExpressions] fun phrases =>
        (phrases.head?.bind Phrase.badTarget?).map fun target => .assigned target.title]
  | .arguments =>
    [keep [rule .positional, optional (word ","), ahead (word ")")],
     keep [strictly .badArguments]]
  | .badArguments =>
    [slip [anyOf [[separated (rule .byPosition), word ",", rule .keywords], [rule .keywords]],
        word ",", separated (all [rule .starred, never (word "=")])] .starredAfterSpread,
     slip [rule .expression, rule .clauses, word ",",
        optional (anyOf [[rule .positional], [rule .expression, rule .clauses]])] .bareGenerator,
     slip [name, word "=", rule .expression, rule .clauses] .equalsSign,
     judge [rule .positional, rule .clauses] fun phrases =>
        if 1 < phrases.countP Phrase.isPositional then Option.some .bareGenerator else none,
     slip [rule .positional, word ",", rule .expression, rule .clauses] .bareGenerator,
     judge [rule .positional, word ",", rule .morePositional] fun phrases =>
        Option.some (if phrases.any Phrase.isSpread then .positionalAfterSpread
          else .positionalAfterKeyword)]
  | .positional =>
    [keep [separated (rule .byPosition), optional (all [word ",", rule .keywords])],
     keep [rule .keywords]]
  | .byPosition =>
    [keep [rule .starred],
     keep [anyOf [[rule .assignment], [rule .expression, never (word ":=")]], never (word "=")]]
  | .morePositional => [skip [rule .positional]]
  | .keywords =>
    [keep [separated (rule .keywordOrStarred), word ",", separated (rule .keywordOrSpread)],
     keep [separated (rule .keywordOrStarred)],
     keep [separated (rule .keywordOrSpread)]]
  | .starred =>
    [make [word "*", rule .expression] (ofFirst .starred), slip [word "*"] .loneStar]
  | .keywordOrStarred =>
    [keep [strictly .badKeyword],
     make [name, word "=", rule .expression] fun _ => .keyword,
     keep [rule .starred]]
  | .keywordOrSpread =>
    [keep [strictly .badKeyword],
     make [name, word "=", rule .expression] fun _ => .keyword,
     make [word "**", rule .expression] (ofFirst .spread)]
  | .badKeyword =>
    [slip [word "True", word "="] (.assigned "True"),
     slip [word "False", word "="] (.assigned "False"),
     slip [word "None", word "="] (.assigned "None"),
     slip [name, word "=", rule .expression, rule .clauses] .equalsSign,
     slip [never (all [name, word "="]), rule .expression, word "="] .assignedArgument]
  | .targets =>
    [skip [rule .target, never (word ",")],
     skip [rule .target, many (all [word ",", rule .target]), optional (word ",")]]
  | .targetTuple =>
    [skip [rule .target, some (all [word ",", rule .target]), optional (word ",")],
     skip [rule .target, word ","]]
  | .target =>
    [skip [word "*", never (word "*"), rule .target], keep [rule .targetAtom]]
  | .targetAtom =>
    [skip [rule .targetPrimary, word ".", name, never (words ["(", "."])],
     keep [rule .targetName]]
  | .targetName =>
    [skip [name],
     skip [word "(", rule .targetAtom, word ")"],
     skip [word "(", optional (rule .targetTuple), word ")"]]
  | .targetPrimary =>
    [skip [rule .atom, ahead (words ["(", "."]),
        many (all [rule .suffix, ahead (words ["(", "."])])]]
  | .function =>
    [entitle [word "lambda", optional (rule .parameters), word ":", rule .expression] "lambda"]
  | .parameters => [keep [strictly .badParameters], keep [rule .parameterList]]
  | .parameterList =>
    [keep [rule .slashPlain, many (rule .plainParameter), many (rule .defaultParameter),
        optional (rule .starRest)],
     keep [rule .slashDefault, many (rule .defaultParameter), optional (rule .starRest)],
     keep [some (rule .plainParameter), many (rule .defaultParameter), optional (rule .starRest)],
     keep [some (rule .defaultParameter), optional (rule .starRest)],
     keep [rule .starRest]]
  | .slashPlain =>
    [keep [some (rule .plainParameter), word "/", word ","],
     keep [some (rule .plainParameter), word "/", ahead (word ":")]]
  | .slashDefault =>
    [keep [many (rule .plainParameter), some (rule .defaultParameter), word "/", word ","],
     keep [many (rule .plainParameter), some (rule .defaultParameter), word "/",
        ahead (word ":")]]
  | .starRest =>
    [keep [strictly .badStarRest],
     keep [word "*", rule .plainParameter, many (rule .anyParameter),
        optional (rule .keywordRest)],
     keep [word "*", word ",", some (rule .anyParameter), optional (rule .keywordRest)],
     keep [rule .keywordRest]]
  | .keywordRest =>
    [keep [strictly .badKeywordRest], keep [word "**", rule .plainParameter]]
  | .plainParameter => [keep [name, word ","], keep [name, ahead (word ":")]]
  | .defaultParameter =>
    [keep [name, rule .defaultValue, word ","], keep [name, rule .defaultValue, ahead (word ":")]]
  | .anyParameter =>
    [keep [name, optional (rule .defaultValue), word ","],
     keep [name, optional (rule .defaultValue), ahead (word ":")]]
  | .defaultValue => [keep [word "=", rule .expression], keep [strictly .badDefault]]
  | .badParameters =>
    [slip [many (rule .plainParameter), rule .badHead, rule .plainParameter] .requiredAfterDefault,
     slip [many (rule .plainParameter), word "(", separated name, optional (word ","), word ")"]
       .parameterGroup,
     slip [word "/", word ","] .leadingSlash,
     slip [anyOf [[rule .slashPlain], [rule .slashDefault]], many (rule .anyParameter), word "/"]
       .secondSlash,
     slip [optional (anyOf [[rule .slashPlain], [rule .slashDefault]]), many (rule .anyParameter),
        word "*", anyOf [[word ","], [rule .plainParameter]], many (rule .anyParameter),
        word "/"] .slashAfterStar,
     slip [some (rule .anyParameter), word "/", word "*"] .slashBeforeStar]
  | .badHead => [keep [rule .slashDefault], keep [some (rule .defaultParameter)]]
  | .badStarRest =>
    [slip [word "*", anyOf [[word ":"], [word ",", words [":", "**"]]]] .bareStar,
     slip [word "*", name, word "="] .starredDefault,
     slip [word "*", anyOf [[rule .plainParameter], [word ","]], many (rule .anyParameter),
        word "*", anyOf [[rule .plainParameter], [word ","]]] .secondStar]
  | .badKeywordRest =>
    [slip [word "**", name, word "="] .spreadDefault,
     slip [word "**", name, word ",", name] .afterSpread,
     slip [word "**", name, word ",", words ["*", "**", "/"]] .afterSpread]
  | .badDefault => [slip [word "=", ahead (words [")", ","])] .missingDefault]

/-- Whether what a rule finds at a place is the same for strict and lenient readings, once it has
been found. -/
def Rule.isShared : Rule → Bool
  | .expression | .starExpression | .disjunction | .conjunction | .inversion | .bitOr | .bitXor
  | .bitAnd | .shift | .sum | .term | .factor | .awaited | .primary | .quoted | .arguments
  | .target | .targetAtom | .targetPrimary => true
  | _ => false

end KeywordQuery.Literal
