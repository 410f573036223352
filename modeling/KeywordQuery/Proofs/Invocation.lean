import KeywordQuery.Command.Program
import KeywordQuery.Encoding.Stream
import KeywordQuery.Layout.Console

/-!
# Invocations

The arguments of the program ask for a grouping or a match, with settings that hold for both, unless
something is wrong with them or they ask for a text of help.

* `Task` — what is asked for, apart from the settings;
* `invocation?` — the settings and the task that arguments ask for;
* `run_of_invocation` — the program carries out the task;
* `Task.input`, `Task.result` — the input of a task, and what it comes to;
* `run_of_input` — the outcome of the program on a host that gives one answer to every question.
-/

namespace KeywordQuery.Command

/-- What a command is asked to do. -/
inductive Task where
  | parse (operands : List String)
  | match (operands : List String) (source : String) (countOnly : Bool)
  deriving Repr, DecidableEq

namespace Task

/-- The name of the command. -/
def name : Task → String
  | .parse _ => "parse"
  | .match .. => "match"

theorem isAscii_name : (task : Task) → Text.isAscii task.name = true
  | .parse _ => (by decide : Text.isAscii "parse" = true)
  | .match .. => (by decide : Text.isAscii "match" = true)

/-- The query text that the operands spell. -/
def text : Task → String
  | .parse operands | .match operands .. => joinOperands operands

/-- The task of a command with its arguments. -/
def ofArguments? : CommandName → List String → Option Task
  | .parse, args => do
    let arguments ← (splitArguments [helpOption] true args).toOption
    if arguments.count .help ≠ 0 ∨ arguments.operands.isEmpty then none
    else some (.parse arguments.operands)
  | .match, args => do
    let arguments ← (splitArguments matchOptions true args).toOption
    if arguments.count .help ≠ 0 ∨ arguments.operands.isEmpty then none
    else some (.match arguments.operands ((arguments.lastValue? .file).getD "-")
      (arguments.count .count ≠ 0))
  | .version, _ => none

end Task

/-- The settings and the task that arguments ask for, under the given environment variables. -/
def invocation? (lookup : String → Option String) (args : List String) :
    Option (Settings × Task) := do
  let arguments ← (splitArguments programOptions false args).toOption
  match readRequest (lookup policyVariable) arguments, arguments.operands with
  | .ok (.settings settings), name :: args =>
    let (_, command) ← commandNames.find? (·.1 == name)
    let task ← Task.ofArguments? command args
    return (settings, task)
  | _, _ => none

theorem eq_ok_of_toOption {ε α : Type} {value : Except ε α} {a : α}
    (h : value.toOption = some a) : value = .ok a := by
  cases value with
  | error fault => cases h
  | ok b => exact congrArg Except.ok (Option.some.inj h)

section

variable {m : Type → Type} [Monad m]

/-- A task carried out. -/
def Task.run (host : Host m) (console : Console) (settings : Settings) : Task → m Ending
  | .parse operands => conclude host console settings "parse" (parseCommand settings operands)
  | .match operands source countOnly => do
    match ← openSource host source with
    | .error ending => return ending
    | .ok input =>
      conclude host console settings "match"
        (← matchCommand host.nesting settings operands countOnly input)

variable {host : Host m} {console : Console} {settings : Settings} {task : Task}
  {args : List String}

theorem runParse_of_task (h : Task.ofArguments? .parse args = some task) :
    runParse host console settings args = task.run host console settings := by
  obtain ⟨arguments, split, asked⟩ := Option.bind_eq_some_iff.mp h
  rw [Option.ite_none_left_eq_some, not_or, Option.some.injEq] at asked
  obtain ⟨⟨unhelped, given⟩, rfl⟩ := asked
  rw [runParse, eq_ok_of_toOption split]
  dsimp only
  rw [if_neg unhelped, if_neg given]
  rfl

theorem runMatch_of_task (h : Task.ofArguments? .match args = some task) :
    runMatch host console settings args = task.run host console settings := by
  obtain ⟨arguments, split, asked⟩ := Option.bind_eq_some_iff.mp h
  rw [Option.ite_none_left_eq_some, not_or, Option.some.injEq] at asked
  obtain ⟨⟨unhelped, given⟩, rfl⟩ := asked
  rw [runMatch, eq_ok_of_toOption split]
  dsimp only
  rw [if_neg unhelped]
  simp only [if_neg given]
  rfl

theorem runCommand_of_task {command : CommandName}
    (h : Task.ofArguments? command args = some task) :
    runCommand host console settings command args = task.run host console settings := by
  cases command with
  | parse => exact runParse_of_task h
  | «match» => exact runMatch_of_task h
  | version => cases h

/-- The program carries out the task that its arguments ask for, if the console can be set up. -/
theorem run_of_invocation (h : invocation? host.lookupVariable args = some (settings, task)) :
    run host args =
      match host.console with
      | .error failure => pure (.failed failure {})
      | .ok console => task.run host console settings := by
  obtain ⟨arguments, split, h⟩ := Option.bind_eq_some_iff.mp h
  rw [run, eq_ok_of_toOption split]
  dsimp only
  split at h
  · next name rest request given =>
    obtain ⟨⟨_, command⟩, found, h⟩ := Option.bind_eq_some_iff.mp h
    obtain ⟨asked, set, same⟩ := Option.bind_eq_some_iff.mp h
    cases same
    simp only [request, given, found]
    rcases host.console with failure | console
    · rfl
    · exact runCommand_of_task set
  · cases h

end

/-! ### Hosts without effects -/

/-- The input of a task; a grouping has none. -/
def Task.input (host : Host Id) : Task → Except Ending Input
  | .parse _ => .ok ([], none)
  | .match _ source _ => openSource host source

/-- What a task comes to on an input. -/
def Task.result (nesting : Nat) (settings : Settings) (input : Input) : Task → Result
  | .parse operands => parseCommand settings operands
  | .match operands _ countOnly =>
    matchCommand (m := Id) nesting settings operands countOnly input

/-- What a task comes to depends on no setting but the policy. -/
theorem Task.result_congr {settings settings' : Settings}
    (h : settings.policy = settings'.policy) (nesting : Nat) (task : Task) (input : Input) :
    task.result nesting settings input = task.result nesting settings' input := by
  cases task with
  | parse operands => simp only [result, parseCommand, h]
  | «match» operands source countOnly => simp only [result, matchCommand, h]

/-- A host without variables and files, where no time passes.  It prints on pages of 80 cells. -/
def plainHost (input : List UInt8) : Host Id where
  lookupVariable _ := none
  openFile _ := Except.error .notFound
  readInput := input
  elapsedMs := (0 : Int)
  trace _ _ := ""
  console := .ok (Layout.console Layout.defaultWidth)
  nesting := 1000
  runtime := ""
  platform := ""

theorem run_of_input {host : Host Id} {console : Console} {args : List String}
    {settings : Settings} {task : Task} (ready : host.console = .ok console)
    (asked : invocation? host.lookupVariable args = some (settings, task)) {input : Input}
    (opened : task.input host = .ok input) (elapsedMs : Int) :
    run { host with elapsedMs } args =
      conclude { host with elapsedMs } console settings task.name
        (task.result host.nesting settings input) := by
  let timed : Host Id := { host with elapsedMs }
  have asked : invocation? timed.lookupVariable args = some (settings, task) := asked
  have ready : timed.console = .ok console := ready
  rw [run_of_invocation asked, ready]
  cases task with
  | parse operands => rfl
  | «match» operands source countOnly =>
    have read : openSource timed source = .ok input := opened
    simp only [Task.run, read]
    rfl

end KeywordQuery.Command
