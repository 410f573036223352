import KeywordQuery.Command.Usage

/-!
# Splitting arguments

The arguments of a command are options and operands.  An option starts with a hyphen; a long one
may take its value after an equals sign or from the next argument, and short ones can be written
together behind one hyphen.  Two hyphens end the options.

* `OptionSpec` — an option that a command knows;
* `splitArguments` — the options in the order given, and the operands.
-/

namespace KeywordQuery.Command

/-- An option that a command knows, under one or more names.  Only long options take values. -/
structure OptionSpec (ι : Type) where
  key : ι
  names : List String
  takesValue : Bool := false

/-- The options that were given, each with its value or none, and the operands. -/
structure Arguments (ι : Type) where
  given : List (ι × Option String) := []
  operands : List String := []

variable {ι : Type}

/-- An option given before the others. -/
def Arguments.withOption (arguments : Arguments ι) (key : ι) (value : Option String) :
    Arguments ι := { arguments with given := (key, value) :: arguments.given }

/-- An operand given before the others. -/
def Arguments.withOperand (arguments : Arguments ι) (operand : String) : Arguments ι :=
  { arguments with operands := operand :: arguments.operands }

/-- The option of a name. -/
def findOption? (specs : List (OptionSpec ι)) (name : String) : Option (OptionSpec ι) :=
  specs.find? (·.names.contains name)

/-- Whether the name is that of a long option. -/
def isLong (name : String) : Bool := name.toList.take 2 == ['-', '-']

/-- The names of the long options. -/
def longNames (specs : List (OptionSpec ι)) : List String :=
  specs.flatMap fun spec => spec.names.filter isLong

/-- A long option with the value after its equals sign, if it has one. -/
def splitValue (argument : String) : String × Option String :=
  let cs := argument.toList
  let name := cs.takeWhile (· != '=')
  (String.ofList name,
    match cs.drop name.length with
    | [] => none
    | _ :: value => some (String.ofList value))

/-- The options of the letters that are written together behind one hyphen. -/
def shortOptions (specs : List (OptionSpec ι)) : List Char → Except UsageFault (List ι)
  | [] => .ok []
  | letter :: rest =>
    let name := String.ofList ['-', letter]
    match findOption? specs name with
    | none => .error (.noSuchOption name [])
    | some spec => (shortOptions specs rest).map (spec.key :: ·)

/-- The options and operands of the arguments.  Unless they are `interspersed`, the first operand
ends the options. -/
def splitArguments (specs : List (OptionSpec ι)) (interspersed : Bool) :
    List String → Except UsageFault (Arguments ι)
  | [] => .ok {}
  | argument :: rest =>
    if argument = "--" then .ok { operands := rest }
    else if argument.toList.head? = some '-' ∧ argument ≠ "-" then
      let (name, value) := splitValue argument
      if isLong argument then
        match findOption? specs name with
        | none => .error (.noSuchOption name (similar name (longNames specs)))
        | some spec =>
          match spec.takesValue, value, rest with
          | true, some value, rest =>
            (splitArguments specs interspersed rest).map (·.withOption spec.key (some value))
          | true, none, value :: rest =>
            (splitArguments specs interspersed rest).map (·.withOption spec.key (some value))
          | true, none, [] => .error (.missingValue name)
          | false, some _, _ => .error (.superfluousValue name)
          | false, none, rest =>
            (splitArguments specs interspersed rest).map (·.withOption spec.key none)
      else
        match shortOptions specs (argument.toList.drop 1) with
        | .error fault => .error fault
        | .ok keys =>
          (splitArguments specs interspersed rest).map fun arguments =>
            keys.foldr (fun key arguments => arguments.withOption key none) arguments
    else if interspersed then
      (splitArguments specs interspersed rest).map (·.withOperand argument)
    else .ok { operands := argument :: rest }

/-- The value that the last occurrence of an option gives. -/
def Arguments.lastValue? [BEq ι] (arguments : Arguments ι) (key : ι) : Option String :=
  (arguments.given.reverse.find? (·.1 == key)).bind (·.2)

/-- How often an option is given. -/
def Arguments.count [BEq ι] (arguments : Arguments ι) (key : ι) : Nat :=
  (arguments.given.filter (·.1 == key)).length

/-- The options that are given, in the order of their first occurrences. -/
def Arguments.order [BEq ι] (arguments : Arguments ι) : List ι :=
  (arguments.given.map (·.1)).eraseDups

end KeywordQuery.Command
