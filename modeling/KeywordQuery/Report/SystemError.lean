import KeywordQuery.Report.Failure

/-!
# Failures made from arguments

The text of a failure that is given as the name of its kind and a list of arguments.

* `argumentText` — the text of arguments alone;
* `systemText`, `systemKind` — the text and the kind of a refusal by the system;
* `Failure.ofArguments` — the failure of a kind with its arguments.
-/

namespace KeywordQuery

/-- The text of arguments alone: nothing, the only one, or all of them in parentheses. -/
def argumentText : List Json → String
  | [] => ""
  | [argument] => argument.display.replaced
  | arguments => "(" ++ Json.commaSeparated (arguments.map Json.displayInside) ++ ")"

/-! ### Refusals by the system -/

/-- The kind of a refusal to wait.  Its third argument may be a count instead of a file. -/
def blockingKind : String := "BlockingIOError"

/-- The kinds of refusals by the system that have a number of their own. -/
def systemKinds : List (Int × String) := [
  (1, "PermissionError"), (2, "FileNotFoundError"), (3, "ProcessLookupError"),
  (4, "InterruptedError"), (10, "ChildProcessError"), (11, blockingKind),
  (13, "PermissionError"), (17, "FileExistsError"), (20, "NotADirectoryError"),
  (21, "IsADirectoryError"), (32, "BrokenPipeError"), (103, "ConnectionAbortedError"),
  (104, "ConnectionResetError"), (108, "BrokenPipeError"), (110, "TimeoutError"),
  (111, "ConnectionRefusedError"), (114, blockingKind), (115, blockingKind)]

/-- The general kind of refusals by the system. -/
def generalSystemKind : String := "OSError"

/-- All names of kinds of refusals by the system. -/
def systemKindNames : List String :=
  generalSystemKind :: "IOError" :: "ConnectionError" :: systemKinds.map (·.2)

/-- The number of a refusal; a truth value counts as a number. -/
def systemNumber? : Json → Option Int
  | .int number => some number
  | .bool value => some (if value then 1 else 0)
  | _ => none

/-- Whether arguments are read as a number, a reason and perhaps files: there are two to five. -/
def isStructured (arguments : List Json) : Bool := 2 ≤ arguments.length && arguments.length ≤ 5

/-- The kind of a refusal: the general one gives way to that of the number. -/
def systemKind (kind : String) (arguments : List Json) : String :=
  if kind = generalSystemKind ∨ kind = "IOError" then
    if isStructured arguments then
      (((arguments.head?.bind systemNumber?).bind fun number =>
        systemKinds.find? (·.1 == number)).map (·.2)).getD generalSystemKind
    else generalSystemKind
  else kind

/-- The arguments of a failure are of the wrong kind or too large. -/
inductive ArgumentFault where
  | notInteger (kind : String)
  | tooLarge (kind : String)
  deriving Repr, DecidableEq

namespace ArgumentFault

/-- The name of the kind of a fault. -/
def kindName : ArgumentFault → String
  | notInteger _ => "TypeError"
  | tooLarge _ => "ValueError"

/-- The message that describes a fault. -/
def message : ArgumentFault → String
  | notInteger kind => "'" ++ kind ++ "' object cannot be interpreted as an integer"
  | tooLarge kind => "cannot fit '" ++ kind ++ "' into an index-sized integer"

end ArgumentFault

/-- The files that arguments name: the third argument and the fifth. -/
def filesOf : List Json → Option Json × Option Json
  | [_, _, file] | [_, _, file, _] => (some file, none)
  | [_, _, file, _, other] => (some file, some other)
  | _ => (none, none)

/-- The file of a refusal.  A number is a count where one is expected. -/
def namedFile? (kind : String) : Option Json → Except ArgumentFault (Option Json)
  | none | some .null => .ok none
  | some file =>
    if kind = blockingKind then
      match file with
      | .int count =>
        let limit := Int.ofNat (Binary64.twoTo 63)
        if -limit ≤ count ∧ count < limit then .ok none else .error (.tooLarge file.kindName)
      | .bool _ => .ok none
      | .float _ => .error (.notInteger file.kindName)
      | _ => .ok (some file)
    else .ok (some file)

/-- The text of a refusal of a kind: its number, its reason, and the files, if there are any. -/
def systemText (kind : String) (arguments : List Json) : Except ArgumentFault String := do
  let (first, second) := filesOf arguments
  let file ← namedFile? kind first
  match isStructured arguments, arguments with
  | true, number :: reason :: _ =>
    let header := "[Errno " ++ number.display.replaced ++ "] " ++ reason.display.replaced
    return match file, second with
      | none, _ => header
      | some file, none | some file, some .null => header ++ ": " ++ file.displayInside
      | some file, some other =>
        header ++ ": " ++ file.displayInside ++ " -> " ++ other.displayInside
  | _, arguments => return argumentText arguments

/-! ### All failures -/

/-- What a failure may carry beside its arguments. -/
structure FailureExtras where
  position : Option Int := none
  exitCode : Int := 1
  type : String := "error"
  details : Option Json.Fields := none

/-- The failure of a kind with its arguments. -/
def Failure.ofArguments (kind : String) (arguments : List Json) (extras : FailureExtras) :
    Except ArgumentFault Failure := do
  let message := argumentText arguments
  if kind = "FilterSyntaxError" then return .badQuery message extras.position
  else if kind = "ItemError" then return .badItem message
  else if kind = "FilterError" then return .refused message
  else if kind = "CLIError" then
    return .classified extras.exitCode ⟨extras.type, message, extras.details⟩
  else if systemKindNames.contains kind then
    let kind := systemKind kind arguments
    return .system kind (← systemText kind arguments)
  else if kind = "KeyError" then
    match arguments with
    | [argument] => return .other kind argument.displayInside
    | _ => return .other kind message
  else return .other kind message

end KeywordQuery
