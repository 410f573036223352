import Mathlib
import KeywordQuery.Proofs.Answers
import KeywordQuery.Proofs.TablePrinting

/-!
# Forms of reports

A command answers before its report takes a form.  So the form, the quietness of the report and
the verbosity of the log cannot change the outcome, but for an answer that standard output does
not take: a line of JSON is printed by the program itself, and what it cannot print is a failure
of the command.

* `Answers.exitCode_of_json`, `Answers.exists_told` — the exit code and the envelope of an answer;
* `Answers.conclude_of_table` — the end of a command that is reported to people;
* `out_conclude_congr` — the envelopes of two invocations;
* `forms_keep_outcome` — two invocations that ask for the same in different forms;
* `narrow_table_hides_surrogate` — a table too narrow for an unpaired surrogate.
-/

namespace KeywordQuery.Command

open Encoding (TextStream EncodeFault)

theorem Ending.out_ofEmission (code : Int) (printed : Printed) (emission : Emission) :
    (ofEmission code printed emission).out = printed.out ++ emission.printed.out := by
  rw [ofEmission]
  split
  · rfl
  · rfl

/-- What an envelope looks like is not a matter of quietness or verbosity. -/
theorem out_conclude_congr {host : Host Id} {console : Console} {settings settings' : Settings}
    (json : settings.form = .json) (json' : settings'.form = .json)
    (policy : settings.policy = settings'.policy) (command : String) (result : Result) :
    (conclude host console settings command result).out =
      (conclude host console settings' command result).out := by
  have same (durationMs : Int) (result : Result) :
      print console settings command durationMs result =
        print console settings' command durationMs result := by
    simp only [print, json, json', Report.emit, report, policy]
  have failed (warnings : List RawText) (failure : Failure) (printed printed' : Printed)
      (out : printed.out = printed'.out) :
      (concludeFailure host console settings command warnings failure printed).out =
        (concludeFailure host console settings' command warnings failure printed').out := by
    let result : Result := { warnings, data := .error failure }
    let log (settings : Settings) : Printed :=
      { err := logText console settings [.commandFailed command (host.trace command failure)] }
    have ending (settings : Settings) (printed : Printed) :
        concludeFailure host console settings command warnings failure printed =
          .ofEmission (exitCode result) (printed ++ log settings)
            (print console settings command host.elapsedMs result) := rfl
    simp only [ending, Ending.out_ofEmission, Printed.out_append, out, same, log]
  let noted (settings : Settings) : Printed := { err := logText console settings result.events }
  rcases data : result.data with failure | value
  · rw [conclude_of_error data, conclude_of_error data]
    exact failed result.warnings failure (noted settings) (noted settings') rfl
  · rcases stuck : (print console settings' command host.elapsedMs result).failure with _ | failure
    · rw [conclude_of_emission data (by rw [same, stuck]), conclude_of_emission data stuck, same]
      simp only [Ending.out, Printed.out_append]
    · rw [conclude_of_stuck data (by rw [same, stuck]), conclude_of_stuck data stuck, same]
      exact failed result.warnings failure (noted settings ++ _) (noted settings' ++ _) rfl

/-- Whether standard output takes a report is not a matter of time. -/
theorem takes_report_congr {settings settings' : Settings}
    (policy : settings.policy = settings'.policy) (stdout : TextStream) (command : String)
    (durationMs durationMs' : Int) (result : Result) :
    stdout.takes (report settings command durationMs result).toJson.line =
      stdout.takes (report settings' command durationMs' result).toJson.line := by
  rw [Json.takes_line, Json.takes_line, Report.toJson_eq, Report.toJson_eq]
  simp only [report, policy]
  rcases result.data with failure | value
  · rfl
  · rfl

namespace Answers

variable {nesting : Nat} {task : Task} {lines : List String} {shown : List Post} {result : Result}
  (answers : Answers nesting task lines shown result) {host : Host Id} {console : Console}
  {settings : Settings}

include answers

/-! ### Envelopes -/

/-- An answer with a warning is always taken. -/
theorem unwarned_of_refused {stdout : TextStream} {durationMs : Int}
    (refused : stdout.takes (report settings task.name durationMs result).toJson.line = false) :
    result.warnings = [] := by
  cases answers with
  | failed failure type message position hidden data unwarned => exact unwarned
  | grouped query hidden name data unwarned => exact unwarned
  | matched countOnly kept seen name data warned among =>
    rw [name, toJson_report_of_posts data warned, takes_matchedEnvelope] at refused
    rw [warned, if_neg]
    intro none
    rw [List.isEmpty_iff.mp none, List.sublist_nil] at among
    rw [among] at refused
    cases countOnly <;> cases refused

/-- If standard output takes all strings, only the posts that are shown can be refused. -/
theorem takes_of_strings {stdout : TextStream} (strings : stdout.TakesStrings) (durationMs : Int) :
    stdout.takes (report settings task.name durationMs result).toJson.line =
      shown.all (Post.allTexts stdout.takes) := by
  obtain ⟨ok, data, error, warnings, reported, told, texts, -⟩ :=
    answers.exists_envelope settings durationMs
  have ascii : (task.name :: warnings).all Text.isAscii = true := by
    rw [List.all_cons, task.isAscii_name, told.ascii]
    rfl
  rw [reported, Json.takes_line, allTexts_envelope (fun _ => TextStream.takes_ofString) ascii]
  exact texts stdout.takes strings

theorem exitCode_of_json (json : settings.form = .json) :
    (conclude host console settings task.name result).exitCode =
      if console.stdout.takes (report settings task.name host.elapsedMs result).toJson.line then
        exitCode result
      else 1 := by
  rcases data : result.data with failure | value
  · have code : exitCode result = failure.classify.exitCode := by rw [exitCode, data]
    rw [code]
    exact (tells_of_error json data).exitCode
  have code : exitCode result = 0 := by rw [exitCode, data]
  rcases written :
    console.stdout.write (report settings task.name host.elapsedMs result).toJson.line
    with fault | out
  · have refused := TextStream.refuses_of_write written
    rw [(tells_of_refusal json data (answers.unwarned_of_refused refused) written).exitCode,
      refused, ite_self]
    rfl
  · obtain ⟨printed, finished, -⟩ := prints_of_write json data rfl written
    rw [finished, code, TextStream.takes_of_write written]
    rfl

theorem exitCode_ne_zero {failure : Failure} (data : result.data = .error failure) :
    exitCode result ≠ 0 := by
  cases answers with
  | failed failure' type message position hidden data' unwarned info fails =>
    rw [exitCode, data']
    exact fails
  | grouped query hidden name data' => cases data.symm.trans data'
  | matched countOnly kept seen name data' => cases data.symm.trans data'

theorem hidden_of_error {failure : Failure} (data : result.data = .error failure) :
    shown = [] := by
  cases answers with
  | failed failure' type message position hidden => exact hidden
  | grouped query hidden => exact hidden
  | matched countOnly kept seen name data' => cases data.symm.trans data'

/-- The envelope of an answer is told, or the failure to print its data. -/
theorem exists_told (json : settings.form = .json) :
    let ending := conclude host console settings task.name result
    ∃ (ok : Bool) (data error : Json) (warnings : List String),
      let told := envelope task.name settings.policy host.elapsedMs ok data warnings error
      Tells console.stdout ending ending.exitCode told ∧
      Told ending.exitCode ok data error warnings ∧
      (console.stdout.TakesStrings → console.stdout.takes told.line = true) ∧
      (max task.text.length lines.length < 10 ^ Json.maxDigits →
        ∀ room, Json.Exact (room + 3) data ∧ Json.Exact (room + 3) error) := by
  intro ending
  have code : ending.exitCode = _ := answers.exitCode_of_json json
  obtain ⟨ok, data, error, warnings, reported, told, -, exact⟩ :=
    answers.exists_envelope settings host.elapsedMs
  rcases data' : result.data with failure | value
  · refine ⟨ok, data, error, warnings, ?_, told.congr ?_, fun strings => ?_, exact⟩
    · rw [← reported]
      exact (tells_of_error json data').self
    · have fails := answers.exitCode_ne_zero data'
      rw [code]
      split
      · exact Iff.rfl
      · simp [fails]
    · have taken : console.stdout.takes
          (report settings task.name host.elapsedMs result).toJson.line = _ :=
        answers.takes_of_strings strings host.elapsedMs
      rw [reported, answers.hidden_of_error data'] at taken
      exact taken
  rcases written :
    console.stdout.write (report settings task.name host.elapsedMs result).toJson.line
    with fault | out
  · have refused := TextStream.refuses_of_write written
    have unwarned := answers.unwarned_of_refused refused
    rw [refused] at code
    refine ⟨false, .null, errorJson EncodeFault.kindName fault.message none, [],
      (tells_of_refusal json data' unwarned written).self, .of_failure ?_ _ _ none,
      fun strings => ?_,
      fun _ _ => ⟨.null, exact_errorJson _ _ fun p => (Option.not_mem_none p).elim⟩⟩
    · rw [code]
      exact one_ne_zero
    · exact takes_failedEnvelope_of_strings strings task.isAscii_name ..
  · have taken := TextStream.takes_of_write written
    rw [taken, if_pos rfl] at code
    rw [reported] at written taken
    refine ⟨ok, data, error, warnings, ?_, told.congr (by rw [code]), fun _ => taken, exact⟩
    exact (Tells.printed (prints_of_write json data' reported written)).self

/-! ### Tables -/

/-- The data of an answer have a view. -/
theorem exists_view {value : Json} (data : result.data = .ok value) :
    ∃ view, HumanView.ofData task.name value = .ok view := by
  cases answers with
  | failed failure type message position hidden data' => cases data.symm.trans data'
  | grouped query hidden name data' =>
    obtain rfl := Except.ok.inj (data.symm.trans data')
    rw [name]
    exact ⟨_, HumanView.ofData_groupingData query⟩
  | matched countOnly kept seen name data' =>
    obtain rfl := Except.ok.inj (data.symm.trans data')
    rw [name]
    exact ⟨_, HumanView.ofData_matchData countOnly kept⟩

/-- A command that is reported to people ends with the exit code of its result, and tells nothing
on standard output if it failed. -/
theorem conclude_of_table (table : settings.form = .table)
    (drawn : console.CanPrint (report settings task.name host.elapsedMs result)) :
    ∃ printed, conclude host console settings task.name result =
      .finished (exitCode result) printed ∧ (exitCode result ≠ 0 → printed.out = "") := by
  rcases data : result.data with failure | value
  · obtain ⟨err, ended⟩ := conclude_of_error_drawn table data drawn
    rw [exitCode, data]
    exact ⟨_, ended, fun _ => rfl⟩
  · obtain ⟨view, seen⟩ := answers.exists_view data
    obtain ⟨printed, ended⟩ := conclude_of_ok_drawn table data seen drawn
    rw [exitCode, data]
    exact ⟨printed, ended, fun fails => absurd rfl fails⟩

/-- The exit code is that of the answer, unless its envelope is asked for and cannot be printed. -/
theorem exitCode_conclude
    (drawn : console.CanPrint (report settings task.name host.elapsedMs result)) :
    (conclude host console settings task.name result).exitCode =
      if settings.form = .json ∧ console.stdout.takes
          (report settings task.name host.elapsedMs result).toJson.line = false then 1
      else exitCode result := by
  rcases form : settings.form with _ | _
  · obtain ⟨printed, ended, -⟩ := answers.conclude_of_table form drawn
    rw [ended, if_neg (by simp)]
    rfl
  · rw [answers.exitCode_of_json form]
    simp only [true_and, ← Bool.not_eq_true, ite_not]

/-- The console that lays reports out can draw an answer that shows no unpaired surrogate. -/
theorem canPrint_of_isWhole (whole : shown.all Post.isWhole = true) (width : Nat)
    (durationMs : Int) :
    (Layout.console width).CanPrint (report settings task.name durationMs result) := by
  refine ⟨fun view seen => ?_, Layout.exists_printNote width _,
    fun note _ => Layout.exists_printNote width note⟩
  cases answers with
  | failed failure type message position hidden data =>
    simp only [report, data] at seen
    cases seen
    exact Layout.exists_printView_of_isWhole (List.forall_mem_singleton.mpr rfl) rfl
  | grouped query hidden name data =>
    simp only [report, data, name, HumanView.ofData_groupingData] at seen
    cases seen
    exact Layout.exists_printView_ofGrouping width query
  | matched countOnly kept seen' name data =>
    simp only [report, data, name, HumanView.ofData_matchData] at seen
    cases seen
    refine Layout.exists_printView_ofMatch width ?_
    rw [seen'] at whole
    cases countOnly with
    | true => rfl
    | false => exact whole

end Answers

/-! ### Invocations -/

/-- Whether a console can draw a report is not a matter of time. -/
theorem canPrint_congr {console : Console} {settings settings' : Settings} {command : String}
    {durationMs durationMs' : Int} {result : Result}
    (drawn : console.CanPrint (report settings command durationMs result)) :
    console.CanPrint (report settings' command durationMs' result) := by
  simp only [report] at drawn ⊢
  rcases data : result.data with failure | value
  · rw [data] at drawn
    exact ⟨drawn.view, drawn.error, drawn.warnings⟩
  · rw [data] at drawn
    exact ⟨drawn.view, drawn.error, drawn.warnings⟩

/-- **Forms and outcomes.**  Let two invocations ask for the same task under the same policy, each
in a form, a quietness and a verbosity of its own, and at a time of its own, on a console that can
draw what is to be shown to people.  Their exit codes are the same if their forms are, or if
standard output takes the envelope of the answer; if it does not, an envelope is asked for and the
exit code is 1.  If standard output takes all texts without unpaired surrogates, only posts that
are shown decide this.

Every envelope stands on one line, in which quietness and verbosity have no part, unless it is
that of a failure and standard output does not take it; if it is printed as it is, as on strict
UTF-8, it can be read back.  It has an error in the place of its data unless the exit code is
zero.  A table leaves standard output blank on failure. -/
theorem forms_keep_outcome {host : Host Id} {console : Console} (ready : host.console = .ok console)
    {args args' : List String} {settings settings' : Settings} {task : Task} {input : Input}
    (asked : invocation? host.lookupVariable args = some (settings, task))
    (asked' : invocation? host.lookupVariable args' = some (settings', task))
    (policy : settings.policy = settings'.policy) (opened : task.input host = .ok input)
    (elapsed elapsed' : Int)
    (drawn : console.CanPrint (report settings task.name elapsed
      (task.result host.nesting settings input))) :
    let stdout := console.stdout
    let ending := run { host with elapsedMs := elapsed } args
    let ending' := run { host with elapsedMs := elapsed' } args'
    let legible := stdout.takes (report settings task.name elapsed
      (task.result host.nesting settings input)).toJson.line
    (settings.form = settings'.form ∨ legible = true → ending.exitCode = ending'.exitCode) ∧
    (settings.form = .json → legible = false → ending.exitCode = 1) ∧
    (stdout.TakesStrings → legible =
      (task.shown host.nesting settings.policy input).all (Post.allTexts stdout.takes)) ∧
    (settings.form = .json →
      (settings'.form = .json → elapsed = elapsed' → ending.out = ending'.out) ∧
      ∃ (ok : Bool) (data error : Json) (warnings : List String),
        let told := envelope task.name settings.policy elapsed ok data warnings error
        Tells stdout ending ending.exitCode told ∧
        (ok = true ↔ ending.exitCode = 0) ∧ (error = .null ↔ ok = true) ∧
        (data = .null ↔ ok = false) ∧
        (stdout.Keeps told.line →
          ending.out = told.toLine ++ .ofString "\n" ∧ .char '\n' ∉ told.toLine.toUnits) ∧
        (stdout = .utf8 → stdout.Keeps told.line) ∧
        (max elapsed.natAbs (max task.text.length input.1.length) < 10 ^ Json.maxDigits →
          ∀ nesting, Json.read (nesting + 4) told.toLine = .ok told)) ∧
    (settings.form = .table → ending.exitCode ≠ 0 → ending.out = "") := by
  intro stdout ending ending' legible
  let result := task.result host.nesting settings input
  let timed (elapsed : Int) : Host Id := { host with elapsedMs := elapsed }
  have answers : Answers host.nesting task input.1
      (task.shown host.nesting settings.policy input) result :=
    task.answers_result host.nesting settings input
  have first : ending = conclude (timed elapsed) console settings task.name result :=
    run_of_input ready asked opened elapsed
  have second : ending' = conclude (timed elapsed') console settings' task.name result :=
    (run_of_input ready asked' opened elapsed').trans
      (by rw [← task.result_congr policy])
  have code : ending.exitCode =
      if settings.form = .json ∧ legible = false then 1 else exitCode result := by
    rw [first]
    exact answers.exitCode_conclude drawn
  have code' : ending'.exitCode =
      if settings'.form = .json ∧ legible = false then 1 else exitCode result := by
    have same : legible = stdout.takes (report settings' task.name elapsed' result).toJson.line :=
      takes_report_congr policy stdout task.name elapsed elapsed' result
    rw [second, same]
    exact answers.exitCode_conclude (canPrint_congr drawn)
  refine ⟨fun alike => ?_, fun json refused => ?_, fun strings => ?_, fun json => ⟨?_, ?_⟩,
    fun table fails => ?_⟩
  · rw [code, code']
    rcases alike with form | whole
    · rw [form]
    · simp [whole]
  · rw [code, if_pos ⟨json, refused⟩]
  · exact answers.takes_of_strings strings elapsed
  · rintro json' rfl
    rw [first, second]
    exact out_conclude_congr json json' policy task.name result
  · obtain ⟨ok, data, error, warnings, tells, told, strings, exact⟩ :=
      @Answers.exists_told _ _ _ _ _ answers (timed elapsed) console settings json
    rw [← first] at tells told
    refine ⟨ok, data, error, warnings, tells, told.good, told.noError, told.noData, fun keeps => ?_,
      fun utf8 => ?_, fun small nesting => ?_⟩
    · obtain ⟨printed, finished, written⟩ := tells.prints (TextStream.takes_of_keeps keeps)
      rw [TextStream.write_of_keeps keeps] at written
      refine ⟨?_, fun ends => (Json.not_mem_toLine _ ends).1 rfl⟩
      rw [finished]
      exact (Except.ok.inj written).symm
    · have utf8 : console.stdout = .utf8 := utf8
      rw [utf8] at strings
      show console.stdout.Keeps _
      rw [utf8]
      exact TextStream.keeps_utf8 (strings TextStream.takesStrings_utf8)
    · obtain ⟨brief, small⟩ := max_lt_iff.mp small
      obtain ⟨told, said⟩ := exact small nesting
      exact Json.read_toLine (exact_envelope _ _ brief ok told warnings said)
  · obtain ⟨printed, ended, silent⟩ := @Answers.conclude_of_table _ _ _ _ _ answers (timed elapsed)
      console settings table drawn
    rw [first, ended] at fails ⊢
    exact silent fails

/-- A match of two lines, told as an envelope and, very verbosely, as a table. -/
theorem grey_sky_told_twice :
    let host := plainHost "grey sky\nblue sea\n".toUTF8.toList
    let ending := run { host with elapsedMs := (7 : Int) } ["--json", "-q", "match", "sky"]
    let ending' := run { host with elapsedMs := (9 : Int) } ["-vv", "match", "sky"]
    ending.exitCode = ending'.exitCode ∧
    ∃ told : Json, ending.out = told.toLine ++ .ofString "\n" ∧
      Json.read 1000 told.toLine = .ok told := by
  intro host ending ending'
  let task : Task := .match ["sky"] "-" false
  let input : Input := (["grey sky", "blue sea"], none)
  let posts : List Post := [{ text := "grey sky" }, { text := "blue sea" }]
  let settings : Settings := { form := .json, quiet := true }
  have asked : invocation? host.lookupVariable ["--json", "-q", "match", "sky"] =
      some (settings, task) := by
    decide +kernel
  have asked' : invocation? host.lookupVariable ["-vv", "match", "sky"] =
      some ({ verbosity := 2 }, task) := by
    decide +kernel
  have read : Encoding.readLines host.readInput = input := by decide +kernel
  have opened : task.input host = .ok input := congrArg Except.ok read
  have parsed : Query.parse .substring (joinOperands ["sky"]) = .ok (.word "sky" .substring) := by
    cbv
  have feed : Feed.ofLines 1000 input.1 = { posts } := by cbv
  have whole : (task.shown 1000 .substring input).all Post.isWhole = true := by
    simp only [Task.shown, task, parsed, feed]
    decide +kernel
  have drawn : (Layout.console 80).CanPrint
      (report settings task.name 7 (task.result host.nesting settings input)) := by
    exact (task.answers_result _ settings input).canPrint_of_isWhole whole 80 7
  obtain ⟨same, -, legible, told, -⟩ := forms_keep_outcome rfl asked asked' rfl opened 7 9 drawn
  obtain ⟨-, ok, data, error, warnings, -, -, -, -, kept, utf8, back⟩ := told rfl
  obtain ⟨line, -⟩ := kept (utf8 rfl)
  have taken := legible TextStream.takesStrings_utf8
  rw [Layout.console_stdout, Post.allTexts_takes_utf8] at taken
  exact ⟨same (.inr (taken.trans whole)), _, line, back (by decide +kernel) 996⟩

/-- One post with half of a surrogate pair, on a page of four cells. -/
theorem narrow_table_hides_surrogate :
    let bytes := "\x7b\"text\":\"a\\ud800\"\x7d\n".toUTF8.toList
    let lookup (name : String) := if name = Layout.widthVariable then some "4" else none
    let host : Host Id :=
      { plainHost bytes with lookupVariable := lookup, console := Layout.consoleOf lookup }
    let task : Task := .match ["a"] "-" false
    invocation? lookup ["match", "a"] = some ({}, task) ∧
    invocation? lookup ["--json", "match", "a"] = some ({ form := .json }, task) ∧
    (run host ["match", "a"]).exitCode = 0 ∧ (run host ["--json", "match", "a"]).exitCode = 1 := by
  intro bytes lookup host task
  let input : Input := (["\x7b\"text\":\"a\\ud800\"\x7d"], none)
  let post : Post := { text := ⟨"a", [(0xD800, "")]⟩ }
  have asked : invocation? lookup ["match", "a"] = some ({}, task) := by decide +kernel
  have asked' : invocation? lookup ["--json", "match", "a"] = some ({ form := .json }, task) := by
    decide +kernel
  have ready : host.console = .ok (Layout.console 4) := by
    have width : Layout.sizeOf? (lookup Layout.widthVariable) = .ok (some 4) := by rfl
    have height : Layout.sizeOf? (lookup Layout.heightVariable) = .ok none := by rfl
    show Layout.consoleOf lookup = _
    rw [Layout.consoleOf, width, height]
    rfl
  have read : Encoding.readLines host.readInput = input := by decide +kernel
  have opened : task.input host = .ok input := congrArg Except.ok read
  have parsed : Query.parse .substring (joinOperands ["a"]) = .ok (.word "a" .substring) := by cbv
  have feed : Feed.ofLines 1000 input.1 = { posts := [post] } := by cbv
  have kept : [post].filter (Query.word "a" .substring).matchesPost = [post] := by decide +kernel
  have shown : task.shown 1000 .substring input = [post] := by
    simp only [Task.shown, task, parsed, feed]
    exact kept
  let console := Layout.console 4
  let result := task.result 1000 {} input
  have data : result.data = .ok (matchData false [post]) := by
    obtain ⟨told, -⟩ := @data_matchCommand_of_query {} ["a"] _ parsed 1000 false input
    rw [matchInput_of_posts (congrArg Feed.fault feed) rfl, feed, kept] at told
    exact told
  have drawn : console.CanPrint (report {} task.name 0 result) := by
    refine ⟨fun view seen => ?_, Layout.exists_printNote 4 _,
      fun note _ => Layout.exists_printNote 4 note⟩
    rw [report, data] at seen
    have viewed : view = .ofMatch false [post] :=
      Except.ok.inj (seen.symm.trans (HumanView.ofData_matchData false [post]))
    have fits : (console.printView (.ofMatch false [post])).isOk = true := by decide +kernel
    rw [viewed]
    rcases printed : console.printView (.ofMatch false [post]) with failure | out
    · rw [printed] at fits
      cases fits
    · exact ⟨out, rfl⟩
  have answers : Answers 1000 task input.1 [post] result := by
    rw [← shown]
    exact task.answers_result 1000 {} input
  have ended (args : List String) (settings : Settings) (policy : settings.policy = .substring)
      (asked : invocation? lookup args = some (settings, task)) :
      run host args = conclude host console settings task.name result := by
    have same : task.result 1000 settings input = result := task.result_congr policy 1000 input
    rw [← same]
    exact run_of_input ready asked opened 0
  refine ⟨asked, asked', ?_, ?_⟩
  · have drawn : console.CanPrint (report {} task.name host.elapsedMs result) := drawn
    obtain ⟨printed, told, -⟩ := answers.conclude_of_table rfl drawn
    rw [ended _ {} rfl asked, told, Ending.exitCode, exitCode, data]
  · have refused : console.stdout.takes
        (report { form := .json } task.name host.elapsedMs result).toJson.line = false := by
      rw [show console.stdout = .utf8 from Layout.console_stdout 4,
        answers.takes_of_strings TextStream.takesStrings_utf8, Post.allTexts_takes_utf8]
      rfl
    rw [ended _ { form := .json } rfl asked', answers.exitCode_of_json rfl, refused]
    rfl

end KeywordQuery.Command
