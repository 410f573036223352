import KeywordQuery.Command.Files
import KeywordQuery.Command.Options
import KeywordQuery.Command.Session

/-!
# The program

The program takes options, the name of a command, and the arguments of the command.  Arguments are
texts; bytes that are none do not get here.

* `Host` — what the program needs from its surroundings;
* `Ending` — how it ends;
* `conclude` — the end of a command: its report, or that of the failure to print it;
* `run` — what the program does with its arguments.
-/

namespace KeywordQuery.Command

/-- The name of the program. -/
def programName : String := "termfilter"

/-- The version of the program. -/
def version : String := "0.1.0"

/-- The environment variable that chooses the policy. -/
def policyVariable : String := "TERMFILTER_MATCH"

/-- What the program needs from its surroundings. -/
structure Host (m : Type → Type) where
  /-- The value of an environment variable. -/
  lookupVariable : String → Option String
  /-- The content of a file, or why it cannot be opened. -/
  openFile : String → m (Except OpenFault (List UInt8))
  /-- The content of the standard input. -/
  readInput : m (List UInt8)
  /-- The milliseconds since the program started. -/
  elapsedMs : m Int
  /-- The traceback of the failure of a command. -/
  trace : String → Failure → m String
  /-- Where reports and the log go, or why that cannot be set up. -/
  console : Except Failure Console
  /-- How many lists and objects may stand inside of one another in a line of a feed. -/
  nesting : Nat
  /-- The version of the run-time system. -/
  runtime : String
  /-- The name of the platform. -/
  platform : String

/-- How the program ends. -/
inductive Ending where
  /-- With an exit code, after what it has printed. -/
  | finished (code : Int) (printed : Printed)
  /-- With a fault in its use. -/
  | misused (fault : UsageFault)
  /-- With a failure that no command reports, after what it has printed. -/
  | failed (failure : Failure) (printed : Printed)
  deriving Repr

namespace Ending

/-- The end of a program that only prints a text. -/
def ofText (text : String) : Ending := .finished 0 { out := text }

/-- The end of a command that reported what came of it, if the report was printed. -/
def ofEmission (code : Int) (printed : Printed) (emission : Emission) : Ending :=
  match emission.failure with
  | none => .finished code (printed ++ emission.printed)
  | some failure => .failed failure (printed ++ emission.printed)

/-- The exit code of the program. -/
def exitCode : Ending → Int
  | finished code _ => code
  | misused _ => usageExitCode
  | failed _ _ => 1

/-- What the program prints on standard output. -/
def out : Ending → RawText
  | finished _ printed | failed _ printed => printed.out
  | misused _ => ""

end Ending

/-! ### Options of the program -/

/-- The options before the name of the command. -/
inductive ProgramOption where
  | output
  | json
  | quiet
  | verbose
  | policy
  | version
  | help
  deriving Repr, DecidableEq

/-- The names of the options before the name of the command. -/
def programOptions : List (OptionSpec ProgramOption) := [
  { key := .output, names := ["--output"], takesValue := true },
  { key := .json, names := ["--json"] },
  { key := .quiet, names := ["-q", "--quiet"] },
  { key := .verbose, names := ["-v"] },
  { key := .policy, names := ["--match"], takesValue := true },
  { key := .version, names := ["--version"] },
  { key := .help, names := ["-h", "--help"] }]

/-- The value of an option that offers a choice, by its name. -/
def chooseNamed {α : Type} (option : String) (offered : List α) (name : α → String)
    (value : String) : Except UsageFault α :=
  match offered.find? (name · == value) with
  | some choice => .ok choice
  | none => .error (.notOffered option value (offered.map name))

/-- The text that says how the program is used. -/
def helpText : String :=
  "Usage: " ++ programName ++ " [OPTIONS] COMMAND [ARGS]...\n\n" ++
    "Commands: parse, match, version\n"

/-- The text that `--version` prints. -/
def versionText : String := programName ++ ", version " ++ version ++ "\n"

/-- What the options before the command ask for. -/
inductive Request where
  | printed (text : String)
  | settings (settings : Settings)

/-- The settings after one more option. -/
def applyOption (arguments : Arguments ProgramOption) (settings : Settings)
    (key : ProgramOption) : Except UsageFault Settings :=
  let value := (arguments.lastValue? key).getD ""
  match key with
  | .output => do
    let form ← chooseNamed "--output" OutputForm.all OutputForm.name value
    return { settings with form := if arguments.count .json = 0 then form else .json }
  | .json => .ok { settings with form := .json }
  | .quiet => .ok { settings with quiet := true }
  | .verbose => .ok { settings with verbosity := arguments.count .verbose }
  | .policy => do
    return { settings with
      policy := ← chooseNamed "--match" MatchPolicy.all MatchPolicy.name value }
  | .version | .help => .ok settings

/-- The policy that the environment chooses where no option does; an empty variable chooses
nothing. -/
def applyVariable (value? : Option String) (arguments : Arguments ProgramOption)
    (settings : Settings) : Except UsageFault Settings :=
  match value? with
  | none | some "" => .ok settings
  | some value =>
    if arguments.count .policy = 0 then do
      return { settings with
        policy := ← chooseNamed "--match" MatchPolicy.all MatchPolicy.name value }
    else .ok settings

/-- What the options ask for.  Those that print a text come first; the others are checked in the
order given. -/
def readRequest (value? : Option String) (arguments : Arguments ProgramOption) :
    Except UsageFault Request :=
  match arguments.order.find? fun key => key == .version || key == .help with
  | some .version => .ok (.printed versionText)
  | some _ => .ok (.printed helpText)
  | none => do
    let settings ← arguments.order.foldlM (applyOption arguments) {}
    return .settings (← applyVariable value? arguments settings)

/-! ### Options of the commands -/

/-- The options of the command `match`; the others have only the one for help. -/
inductive MatchOption where
  | file
  | count
  | help
  deriving Repr, DecidableEq

/-- The option for help. -/
def helpOption : OptionSpec MatchOption := { key := .help, names := ["-h", "--help"] }

/-- The names of the options of `match`. -/
def matchOptions : List (OptionSpec MatchOption) := [
  { key := .file, names := ["--file"], takesValue := true },
  { key := .count, names := ["--count"] },
  helpOption]

/-- The fault of a command without a query text. -/
def missingExpression : UsageFault := .missingArgument "EXPRESSION..."

/-- The commands. -/
inductive CommandName where
  | parse
  | match
  | version
  deriving Repr, DecidableEq

/-- All commands with their names. -/
def commandNames : List (String × CommandName) :=
  [("parse", .parse), ("match", .match), ("version", .version)]

section

variable {m : Type → Type} [Monad m]

/-- The end of a command with a failure, after what it has printed. -/
def concludeFailure (host : Host m) (console : Console) (settings : Settings) (command : String)
    (warnings : List RawText) (failure : Failure) (printed : Printed) : m Ending := do
  let trace ← host.trace command failure
  let result : Result := { warnings, data := .error failure }
  let emission := print console settings command (← host.elapsedMs) result
  let log := logText console settings [.commandFailed command trace]
  return .ofEmission (exitCode result) (printed ++ { err := log }) emission

/-- The end of a command with its result.  A report of data that cannot be printed is a failure of
the command. -/
def conclude (host : Host m) (console : Console) (settings : Settings) (command : String)
    (result : Result) : m Ending := do
  let noted : Printed := { err := logText console settings result.events }
  match result.data with
  | .error failure => concludeFailure host console settings command result.warnings failure noted
  | .ok _ =>
    let emission := print console settings command (← host.elapsedMs) result
    match emission.failure with
    | none => return .finished 0 (noted ++ emission.printed)
    | some failure =>
      concludeFailure host console settings command result.warnings failure
        (noted ++ emission.printed)

/-- The command `parse`. -/
def runParse (host : Host m) (console : Console) (settings : Settings) (args : List String) :
    m Ending :=
  match splitArguments [helpOption] true args with
  | .error fault => return .misused fault
  | .ok arguments =>
    if arguments.count .help ≠ 0 then return .ofText helpText
    else if arguments.operands.isEmpty then return .misused missingExpression
    else conclude host console settings "parse" (parseCommand settings arguments.operands)

/-- The reading of the input of `match`: the standard input, or the file that is named.  A file is
opened at once, and its content is decoded when it is needed.  No file has a null character in its
name. -/
def openSource (host : Host m) (name : String) : m (Except Ending (m Input)) := do
  if name = "-" then return .ok do return Encoding.readLines (← host.readInput)
  else if name.contains '\x00' then
    return .error (.failed (.other "ValueError" "embedded null byte") {})
  else
    match ← host.openFile name with
    | .ok bytes => return .ok (pure (Encoding.readLines bytes))
    | .error fault => return .error (.misused (.cannotOpen "--file" name fault.message))

/-- The command `match`. -/
def runMatch (host : Host m) (console : Console) (settings : Settings) (args : List String) :
    m Ending :=
  match splitArguments matchOptions true args with
  | .error fault => return .misused fault
  | .ok arguments => do
    if arguments.count .help ≠ 0 then return .ofText helpText
    match ← openSource host ((arguments.lastValue? .file).getD "-") with
    | .error ending => return ending
    | .ok input =>
      if arguments.operands.isEmpty then return .misused missingExpression
      let countOnly := arguments.count .count ≠ 0
      conclude host console settings "match"
        (← matchCommand host.nesting settings arguments.operands countOnly input)

/-- The command `version`. -/
def runVersion (host : Host m) (console : Console) (settings : Settings) (args : List String) :
    m Ending :=
  match splitArguments [helpOption] true args with
  | .error fault => return .misused fault
  | .ok arguments =>
    if arguments.count .help ≠ 0 then return .ofText helpText
    else if !arguments.operands.isEmpty then
      return .misused (.extraArguments arguments.operands)
    else conclude host console settings "version" {
      data := .ok (.obj [("version", .str version), ("pythonVersion", .str host.runtime),
        ("platform", .str host.platform)]) }

/-- A command with its arguments. -/
def runCommand (host : Host m) (console : Console) (settings : Settings) (command : CommandName)
    (args : List String) : m Ending :=
  match command with
  | .parse => runParse host console settings args
  | .match => runMatch host console settings args
  | .version => runVersion host console settings args

/-- The end of a program that is asked for an unknown command.  A name that does not start with a
letter or digit is tried as an option first. -/
def unknownCommand (value? : Option String) (name : String) (args : List String) : Ending :=
  let fault := UsageFault.noSuchCommand name (similar name (commandNames.map (·.1)))
  match name.toList with
  | [] => .misused fault
  | c :: _ =>
    if Text.isAlphanumeric c then .misused fault
    else
      match splitArguments programOptions false (name :: args) with
      | .error fault => .misused fault
      | .ok arguments =>
        match readRequest value? arguments with
        | .error fault => .misused fault
        | .ok (.printed text) => .ofText text
        | .ok (.settings _) => .misused fault

/-- The program with its arguments.  The console is set up for a command that is known. -/
def run (host : Host m) (args : List String) : m Ending :=
  let value? := host.lookupVariable policyVariable
  match splitArguments programOptions false args with
  | .error fault => return .misused fault
  | .ok arguments =>
    match readRequest value? arguments with
    | .error fault => return .misused fault
    | .ok (.printed text) => return .ofText text
    | .ok (.settings settings) =>
      match arguments.operands with
      | [] => return .ofText helpText
      | name :: args =>
        match commandNames.find? (·.1 == name) with
        | some (_, command) =>
          match host.console with
          | .error failure => return .failed failure {}
          | .ok console => runCommand host console settings command args
        | none => return unknownCommand value? name args

end

end KeywordQuery.Command
