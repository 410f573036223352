import KeywordQuery.Command.Program
import KeywordQuery.Proofs.Envelopes
import KeywordQuery.Proofs.MatchedRows
import KeywordQuery.Proofs.Printing

/-!
# Results and ends of commands

What each step of a command gives, by the way in which the step before it ended.

* `parseCommand_of_fault`, `parseCommand_of_query` — the grouping of a query text;
* `matchCommand_of_fault`, `matchCommand_of_query` — a match; nothing is read for a text that is no
  query;
* `matchInput_of_feedFault`, `matchInput_of_decodeFault`, `matchInput_of_posts` — the input of a
  match;
* `conclude_of_error`, `conclude_of_emission`, `conclude_of_stuck` — the end of a command that
  failed, and of one with data that are printed, or not;
* `Prints`, `Tells` — an end with an exit code and an envelope; a stream may take no envelope;
* `tells_of_failure`, `prints_of_write`, `tells_of_refusal` — the same for a command that answers
  with an envelope, which is a `failedEnvelope` if something goes wrong.
-/

namespace KeywordQuery

open Encoding (TextStream EncodeFault)

namespace Command

/-! ### Results -/

section

variable {settings : Settings} {operands : List String}

theorem parseCommand_of_fault {fault : ParseFault}
    (h : Query.parse settings.policy (joinOperands operands) = .error fault) :
    parseCommand settings operands =
      { events := [Event.ofParse (joinOperands operands) (.error fault)]
        data := .error (.ofParseFault fault) } := by
  simp only [parseCommand, h]

theorem parseCommand_of_query {query : Query}
    (h : Query.parse settings.policy (joinOperands operands) = .ok query) :
    parseCommand settings operands =
      { events := [Event.ofParse (joinOperands operands) (.ok query)]
        data := .ok (.obj [("filter", .str query.toText),
          ("terms", .arr (query.terms.map .ofString))]) } := by
  simp only [parseCommand, h]

variable {m : Type → Type} [Monad m]

theorem matchCommand_of_fault {fault : ParseFault}
    (h : Query.parse settings.policy (joinOperands operands) = .error fault) (nesting : Nat)
    (countOnly : Bool) (readInput : m Input) :
    matchCommand nesting settings operands countOnly readInput = pure
      { events := [Event.ofParse (joinOperands operands) (.error fault)]
        data := .error (.ofParseFault fault) } := by
  simp only [matchCommand, h]

theorem matchCommand_of_query {query : Query}
    (h : Query.parse settings.policy (joinOperands operands) = .ok query) (nesting : Nat)
    (countOnly : Bool) (readInput : m Input) :
    matchCommand nesting settings operands countOnly readInput = do
      let result := matchInput nesting countOnly query (← readInput)
      return { result with
        events := Event.ofParse (joinOperands operands) (.ok query) :: result.events } := by
  simp only [matchCommand, h]

/-- What a match tells comes from its input alone once its text is a query. -/
theorem data_matchCommand_of_query {query : Query}
    (h : Query.parse settings.policy (joinOperands operands) = .ok query) (nesting : Nat)
    (countOnly : Bool) (input : Input) :
    (matchCommand (m := Id) nesting settings operands countOnly input).data =
      (matchInput nesting countOnly query input).data ∧
    (matchCommand (m := Id) nesting settings operands countOnly input).warnings =
      (matchInput nesting countOnly query input).warnings := by
  rw [matchCommand_of_query h]
  exact ⟨rfl, rfl⟩

end

section

variable {nesting : Nat} {countOnly : Bool} {query : Query} {input : Input}

theorem matchInput_of_feedFault {fault : FeedFault}
    (h : (Feed.ofLines nesting input.1).fault = some fault) :
    matchInput nesting countOnly query input =
      { events := Event.ofFeed (Feed.ofLines nesting input.1)
        data := .error (.ofFeedFault fault) } := by
  simp only [matchInput, feedOfInput, h]

theorem matchInput_of_decodeFault {fault : Encoding.DecodeFault}
    (accepted : (Feed.ofLines nesting input.1).fault = none) (h : input.2 = some fault) :
    matchInput nesting countOnly query input =
      { events := Event.ofFeed (Feed.ofLines nesting input.1)
        data := .error (.ofDecodeFault fault) } := by
  simp only [matchInput, feedOfInput, accepted, h]

theorem matchingPosts_eq (query : Query) (posts : List Post) :
    matchingPosts query posts = .ok (posts.filter query.matchesPost) := by
  rw [matchingPosts, Query.select_post]

theorem matchInput_of_posts (accepted : (Feed.ofLines nesting input.1).fault = none)
    (decoded : input.2 = none) :
    matchInput nesting countOnly query input =
      { events := Event.ofFeed (Feed.ofLines nesting input.1)
        warnings :=
          if (Feed.ofLines nesting input.1).posts.isEmpty then [emptyFeedWarning] else []
        data := .ok (matchData countOnly
          ((Feed.ofLines nesting input.1).posts.filter query.matchesPost)) } := by
  simp only [matchInput, feedOfInput, accepted, decoded, matchingPosts_eq, Except.map]

end

/-! ### Ends -/

section

variable {m : Type → Type} [Monad m] {host : Host m} {console : Console} {settings : Settings}
  {command : String} {result : Result}

theorem conclude_of_error {failure : Failure} (data : result.data = .error failure) :
    conclude host console settings command result =
      concludeFailure host console settings command result.warnings failure
        { err := logText console settings result.events } := by
  simp only [conclude, data]

theorem conclude_of_ok {value : Json} (data : result.data = .ok value) :
    conclude host console settings command result = (do
      let emission := print console settings command (← host.elapsedMs) result
      let noted : Printed := { err := logText console settings result.events }
      match emission.failure with
      | none => return .finished 0 (noted ++ emission.printed)
      | some failure =>
        concludeFailure host console settings command result.warnings failure
          (noted ++ emission.printed)) := by
  rw [conclude]
  split
  · next failure failed => cases data.symm.trans failed
  · rfl

end

section

variable {host : Host Id} {console : Console} {settings : Settings} {command : String}
  {result : Result} {value : Json}

/-- A command whose data are printed ends well. -/
theorem conclude_of_emission (data : result.data = .ok value)
    (whole : (print console settings command host.elapsedMs result).failure = none) :
    conclude host console settings command result =
      .finished 0 ({ err := logText console settings result.events } ++
        (print console settings command host.elapsedMs result).printed) := by
  rw [conclude_of_ok data]
  simp only [bind, whole]
  rfl

/-- A command whose data cannot be printed fails with that. -/
theorem conclude_of_stuck (data : result.data = .ok value) {failure : Failure}
    (stuck : (print console settings command host.elapsedMs result).failure = some failure) :
    conclude host console settings command result =
      concludeFailure host console settings command result.warnings failure
        ({ err := logText console settings result.events } ++
          (print console settings command host.elapsedMs result).printed) := by
  rw [conclude_of_ok data]
  simp only [bind, stuck]

end

/-! ### Envelopes on standard output -/

/-- The envelope of a command. -/
def envelope (command : String) (policy : MatchPolicy) (durationMs : Int) (ok : Bool) (data : Json)
    (warnings : List String) (error : Json) : Json :=
  .obj [
    ("ok", .bool ok),
    ("command", .ofString command),
    ("data", data),
    ("warnings", .arr (warnings.map .ofString)),
    ("meta", .obj [("durationMs", .int durationMs), ("match", .ofString policy.name)]),
    ("error", error)]

/-- The error of a failure in an envelope. -/
def errorJson (type message : String) (position : Option Int) : Json :=
  .obj [("type", .ofString type), ("message", .ofString message),
    ("details", .ofOption (fun p => .obj [("position", .int p)]) position)]

/-- The envelope of a command that failed: it has no data and no warnings. -/
def failedEnvelope (command : String) (policy : MatchPolicy) (durationMs : Int)
    (type message : String) (position : Option Int) : Json :=
  envelope command policy durationMs false .null [] (errorJson type message position)

/-- The program ends with the exit code, and the envelope stands on standard output, on one line. -/
def Prints (stdout : TextStream) (ending : Ending) (code : Int) (envelope : Json) : Prop :=
  ∃ printed, ending = .finished code printed ∧ stdout.write envelope.line = .ok printed.out

/-- The program ends with the exit code and the envelope, or with the failure to print it, and then
nothing stands on standard output. -/
inductive Tells (stdout : TextStream) (ending : Ending) (code : Int) (envelope : Json) : Prop
  | printed (told : Prints stdout ending code envelope)
  | refused (fault : EncodeFault) (printed : Printed)
      (refused : stdout.write envelope.line = .error fault)
      (ended : ending = .failed (.ofEncodeFault fault) printed) (silent : printed.out = "")

/-- An envelope that standard output takes is printed. -/
theorem Tells.prints {stdout : TextStream} {ending : Ending} {code : Int} {envelope : Json}
    (told : Tells stdout ending code envelope) (taken : stdout.takes envelope.line = true) :
    Prints stdout ending code envelope := by
  cases told with
  | printed told => exact told
  | refused fault printed refused =>
    rw [TextStream.write_of_takes taken] at refused
    cases refused

theorem Tells.self {stdout : TextStream} {ending : Ending} {code : Int} {envelope : Json}
    (told : Tells stdout ending code envelope) :
    Tells stdout ending ending.exitCode envelope := by
  cases told with
  | printed told =>
    obtain ⟨printed, rfl, written⟩ := told
    exact .printed ⟨printed, rfl, written⟩
  | refused fault printed refused ended silent => exact .refused fault printed refused ended silent

theorem Tells.exitCode {stdout : TextStream} {ending : Ending} {code : Int} {envelope : Json}
    (told : Tells stdout ending code envelope) :
    ending.exitCode = if stdout.takes envelope.line then code else 1 := by
  split
  · next taken =>
    obtain ⟨printed, rfl, -⟩ := told.prints taken
    rfl
  · next refused =>
    cases told with
    | printed told =>
      obtain ⟨printed, -, written⟩ := told
      exact absurd (TextStream.takes_of_write written) refused
    | refused fault printed refused ended => rw [ended]; rfl

section

variable {p : RawText → Bool}
  (names : ∀ text : String, Text.isAscii text = true → p (.ofString text) = true)

include names

/-- Beside its data and its error, an envelope holds nothing but ASCII if the name of the command
and the warnings are. -/
theorem allTexts_envelope {command : String} {warnings : List String}
    (ascii : (command :: warnings).all Text.isAscii = true) (policy : MatchPolicy)
    (durationMs : Int) (ok : Bool) (data error : Json) :
    (envelope command policy durationMs ok data warnings error).allTexts p =
      (data.allTexts p && error.allTexts p) := by
  rw [List.all_cons, Bool.and_eq_true] at ascii
  have warned : Json.allItemTexts p (warnings.map .ofString) = true := by
    rw [Json.allItemTexts_eq_all, List.all_map]
    exact List.all_eq_true.mpr fun text member =>
      names text (List.all_eq_true.mp ascii.2 text member)
  have named : p (.ofString policy.name) = true := names _ (by cases policy <;> decide)
  have fields : ∀ name ∈ ["ok", "command", "data", "warnings", "meta", "error", "durationMs",
      "match"], p (.ofString name) = true :=
    fun name member => names name (by revert name; decide)
  simp only [List.forall_mem_cons] at fields
  simp only [envelope, Json.allTexts, Json.allFieldTexts, Json.ofString, fields, names _ ascii.1,
    named, warned, Bool.true_and, Bool.and_true]

theorem allTexts_errorJson (type message : String) (position : Option Int) :
    (errorJson type message position).allTexts p =
      (p (.ofString type) && p (.ofString message)) := by
  have fields : ∀ name ∈ ["type", "message", "details", "position"], p (.ofString name) = true :=
    fun name member => names name (by revert name; decide)
  simp only [List.forall_mem_cons] at fields
  cases position with
  | none =>
    simp only [errorJson, Json.allTexts, Json.allFieldTexts, Json.ofString, Json.ofOption, fields,
      Bool.true_and, Bool.and_true]
  | some position =>
    simp only [errorJson, Json.allTexts, Json.allFieldTexts, Json.ofString, Json.ofOption, fields,
      Bool.true_and, Bool.and_true]

end

theorem takes_failedEnvelope {stdout : TextStream} {command : String}
    (ascii : Text.isAscii command = true) (policy : MatchPolicy) (durationMs : Int)
    (type message : String) (position : Option Int) :
    stdout.takes (failedEnvelope command policy durationMs type message position).line =
      (stdout.takes type && stdout.takes message) := by
  rw [Json.takes_line, failedEnvelope,
    allTexts_envelope (fun _ => TextStream.takes_ofString) (by simpa using ascii),
    allTexts_errorJson fun _ => TextStream.takes_ofString]
  rfl

/-- A failure can be told wherever strings are taken. -/
theorem takes_failedEnvelope_of_strings {stdout : TextStream} (strings : stdout.TakesStrings)
    {command : String} (ascii : Text.isAscii command = true) (policy : MatchPolicy)
    (durationMs : Int) (type message : String) (position : Option Int) :
    stdout.takes (failedEnvelope command policy durationMs type message position).line = true := by
  rw [takes_failedEnvelope ascii, strings, strings]
  rfl

theorem toJson_report_of_failure {settings : Settings} {command : String} {durationMs : Int}
    {result : Result} {failure : Failure} (data : result.data = .error failure)
    (unwarned : result.warnings = []) {type message : String} (position : Option Int)
    (info : failure.classify.info =
      ⟨type, message, position.map fun p => [("position", .int p)]⟩) :
    (report settings command durationMs result).toJson =
      failedEnvelope command settings.policy durationMs type message position := by
  simp only [Report.toJson_eq, report, data, unwarned, info]
  cases position with
  | none => rfl
  | some position => rfl

section

variable {host : Host Id} {console : Console} {settings : Settings}
  (json : settings.form = .json) {command : String} {result : Result}

include json

theorem print_of_write {durationMs : Int} {out : RawText}
    (written : console.stdout.write (report settings command durationMs result).toJson.line =
      .ok out) :
    print console settings command durationMs result = { printed := { out } } := by
  simp only [print, Report.emit, json, Report.emitJson, written]

theorem print_of_refusal {durationMs : Int} {fault : EncodeFault}
    (refused : console.stdout.write (report settings command durationMs result).toJson.line =
      .error fault) :
    print console settings command durationMs result =
      { failure := some (.ofEncodeFault fault) } := by
  simp only [print, Report.emit, json, Report.emitJson, refused]

/-- A failure is told whatever has been noted before. -/
theorem tells_of_concludeFailure {failure : Failure} {printed : Printed}
    (silent : printed.out = "") (warnings : List RawText) :
    Tells console.stdout (concludeFailure host console settings command warnings failure printed)
      failure.classify.exitCode
      (report settings command host.elapsedMs { warnings, data := .error failure }).toJson := by
  let failed : Result := { warnings, data := .error failure }
  let log := logText console settings [.commandFailed command (host.trace command failure)]
  have ending : concludeFailure host console settings command warnings failure printed =
      .ofEmission failure.classify.exitCode (printed ++ { err := log })
        (print console settings command host.elapsedMs failed) := rfl
  rw [ending]
  rcases written : console.stdout.write (report settings command host.elapsedMs failed).toJson.line
    with fault | out
  · rw [print_of_refusal json written]
    exact .refused fault _ written rfl (by simp [silent])
  · rw [print_of_write json written]
    exact .printed ⟨_, rfl, by simpa [silent] using written⟩

/-- A command that fails tells its report. -/
theorem tells_of_error {failure : Failure} (data : result.data = .error failure) :
    Tells console.stdout (conclude host console settings command result)
      failure.classify.exitCode (report settings command host.elapsedMs result).toJson := by
  have same : report settings command host.elapsedMs result = report settings command
      host.elapsedMs { warnings := result.warnings, data := .error failure } := by
    simp only [report, data]
  rw [conclude_of_error data, same]
  exact tells_of_concludeFailure json rfl result.warnings

/-- A command that fails without a warning tells why, and nothing else. -/
theorem tells_of_failure {failure : Failure} (data : result.data = .error failure)
    (unwarned : result.warnings = []) {type message : String} (position : Option Int)
    (info : failure.classify.info =
      ⟨type, message, position.map fun p => [("position", .int p)]⟩) :
    Tells console.stdout (conclude host console settings command result)
      failure.classify.exitCode
      (failedEnvelope command settings.policy host.elapsedMs type message position) := by
  rw [← toJson_report_of_failure data unwarned position info]
  exact tells_of_error json data

/-- Data that standard output takes are printed. -/
theorem prints_of_write {value : Json} (data : result.data = .ok value) {envelope : Json}
    (reported : (report settings command host.elapsedMs result).toJson = envelope) {out : RawText}
    (written : console.stdout.write envelope.line = .ok out) :
    Prints console.stdout (conclude host console settings command result) 0 envelope := by
  subst reported
  have printed := print_of_write json written
  rw [conclude_of_emission data (by rw [printed]), printed]
  exact ⟨_, rfl, by simpa using written⟩

/-- Data that standard output does not take give way to the failure to print them. -/
theorem tells_of_refusal {value : Json} (data : result.data = .ok value)
    (unwarned : result.warnings = []) {fault : EncodeFault}
    (refused : console.stdout.write
      (report settings command host.elapsedMs result).toJson.line = .error fault) :
    Tells console.stdout (conclude host console settings command result) 1
      (failedEnvelope command settings.policy host.elapsedMs EncodeFault.kindName fault.message
        none) := by
  let failed : Result := { data := .error (.ofEncodeFault fault) }
  have reported : (report settings command host.elapsedMs failed).toJson = failedEnvelope command
      settings.policy host.elapsedMs EncodeFault.kindName fault.message none :=
    toJson_report_of_failure rfl rfl none rfl
  have stuck := print_of_refusal json refused
  rw [conclude_of_stuck data (by rw [stuck]), stuck, unwarned, ← reported]
  exact tells_of_concludeFailure json (RawText.empty_append "") []

end

end Command

end KeywordQuery
