import Mathlib
import KeywordQuery.Proofs.FeedLines
import KeywordQuery.Proofs.Invocation
import KeywordQuery.Proofs.MatchReport
import KeywordQuery.Proofs.TablePrinting
import KeywordQuery.Proofs.ViablePrefix

/-!
# The answers to tasks

A task comes to a failure, to the grouping of a query, or to the posts that a query keeps.

* `Task.shown` — the posts that a task shows;
* `Answers` — the results with which a task is answered;
* `Task.answers_result` — every task is answered;
* `exact_envelope`, `exact_groupingData`, `exact_matchData`, `exact_errorJson` — what stands in an
  envelope can be read back;
* `Answers.exists_envelope` — the envelope of an answer.
-/

namespace KeywordQuery

theorem Feed.length_posts_le (nesting number : Nat) (lines : List RawText) :
    (ofLinesFrom nesting number lines).posts.length ≤ lines.length := by
  induction lines generalizing number with
  | nil => exact Nat.le_refl 0
  | cons line lines ih =>
    have others := ih (number + 1)
    rcases read : readLine nesting line with cause | _ | post
    · rw [ofLinesFrom_of_fault read]
      exact Nat.zero_le _
    · rw [ofLinesFrom_of_blank read]
      exact Nat.le_succ_of_le others
    · rw [ofLinesFrom_of_post read]
      exact Nat.succ_le_succ others

namespace Command

/-- The posts that a task shows. -/
def Task.shown (nesting : Nat) (policy : MatchPolicy) (input : Input) : Task → List Post
  | .match operands _ false =>
    let feed := Feed.ofLines nesting input.1
    match Query.parse policy (joinOperands operands), feed.fault, input.2 with
    | .ok query, none, none => feed.posts.filter query.matchesPost
    | _, _, _ => []
  | _ => []

/-- The results with which a task is answered that shows the given posts. -/
inductive Answers (nesting : Nat) (task : Task) (lines : List String) (shown : List Post)
    (result : Result) : Prop
  | failed (failure : Failure) (type message : String) (position : Option Int)
      (hidden : shown = []) (data : result.data = .error failure) (unwarned : result.warnings = [])
      (info : failure.classify.info =
        ⟨type, message, position.map fun p => [("position", .int p)]⟩)
      (fails : failure.classify.exitCode ≠ 0)
      (inside : ∀ p ∈ position, p.natAbs ≤ task.text.length)
  | grouped (query : Query) (hidden : shown = []) (name : task.name = "parse")
      (data : result.data = .ok (groupingData query)) (unwarned : result.warnings = [])
  | matched (countOnly : Bool) (kept : List Post) (seen : shown = if countOnly then [] else kept)
      (name : task.name = "match") (data : result.data = .ok (matchData countOnly kept))
      (warned : result.warnings =
        if (Feed.ofLines nesting lines).posts.isEmpty then [emptyFeedWarning] else [])
      (among : kept.Sublist (Feed.ofLines nesting lines).posts)

namespace Task

variable (nesting : Nat) {settings : Settings}

theorem answers_of_parseFault {task : Task} {lines : List String} {result : Result}
    {fault : ParseFault} (refused : Query.parse settings.policy task.text = .error fault)
    (data : result.data = .error (.ofParseFault fault)) (unwarned : result.warnings = []) :
    Answers nesting task lines [] result := by
  refine .failed _ "usage_error" fault.message (some fault.position) rfl data unwarned rfl
    two_ne_zero fun p hp => ?_
  obtain rfl := Option.mem_some_iff.mp hp
  exact Query.position_le_length refused

theorem answers_parse (operands : List String) (input : Input) :
    Answers nesting (.parse operands) input.1 []
      (result nesting settings input (.parse operands)) := by
  rcases parsed : Query.parse settings.policy (joinOperands operands) with fault | query
  · have refused := parseCommand_of_fault parsed
    exact answers_of_parseFault nesting parsed (congrArg Result.data refused)
      (congrArg Result.warnings refused)
  · have grouped := parseCommand_of_query parsed
    exact .grouped query rfl rfl (congrArg Result.data grouped) (congrArg Result.warnings grouped)

theorem answers_match (operands : List String) (source : String) (countOnly : Bool)
    (input : Input) :
    let task : Task := .match operands source countOnly
    Answers nesting task input.1 (task.shown nesting settings.policy input)
      (task.result nesting settings input) := by
  intro task
  have shown : task.shown nesting settings.policy input = if countOnly then [] else
      match Query.parse settings.policy (joinOperands operands),
        (Feed.ofLines nesting input.1).fault, input.2 with
      | .ok query, none, none => (Feed.ofLines nesting input.1).posts.filter query.matchesPost
      | _, _, _ => [] := by
    cases countOnly with
    | true => rfl
    | false => rfl
  rcases parsed : Query.parse settings.policy (joinOperands operands) with fault | query
  · have refused := matchCommand_of_fault (m := Id) parsed nesting countOnly input
    simp only [parsed, ite_self] at shown
    rw [shown]
    exact answers_of_parseFault nesting parsed (congrArg Result.data refused)
      (congrArg Result.warnings refused)
  obtain ⟨data, warnings⟩ := data_matchCommand_of_query parsed nesting countOnly input
  rcases accepted : (Feed.ofLines nesting input.1).fault with _ | fault
  · rcases decoded : input.2 with _ | fault
    · rw [matchInput_of_posts accepted decoded] at data warnings
      simp only [parsed, accepted, decoded] at shown
      exact .matched countOnly _ shown rfl data warnings List.filter_sublist
    · rw [matchInput_of_decodeFault accepted decoded] at data warnings
      simp only [parsed, accepted, decoded, ite_self] at shown
      exact .failed _ "UnicodeDecodeError" fault.message none shown data warnings rfl
        one_ne_zero fun p => (Option.not_mem_none p).elim
  · rw [matchInput_of_feedFault accepted] at data warnings
    simp only [parsed, accepted, ite_self] at shown
    rw [Failure.ofFeedFault] at data
    by_cases item : fault.isItemFault
    · rw [if_pos item] at data
      exact .failed _ "validation_error" fault.message none shown data warnings rfl
        two_ne_zero fun p => (Option.not_mem_none p).elim
    · rw [if_neg item] at data
      exact .failed _ fault.kindName fault.message none shown data warnings rfl
        one_ne_zero fun p => (Option.not_mem_none p).elim

/-- Every task is answered. -/
theorem answers_result (task : Task) (settings : Settings) (input : Input) :
    Answers nesting task input.1 (task.shown nesting settings.policy input)
      (task.result nesting settings input) := by
  cases task with
  | parse operands => exact answers_parse nesting operands input
  | «match» operands source countOnly => exact answers_match nesting operands source countOnly input

end Task

/-! ### What can be read back -/

variable {room : Nat}

theorem exact_int {n : Int} (h : n.natAbs < 10 ^ Json.maxDigits) : Json.Exact room (.int n) :=
  .int ((Nat.length_toDigits_le_iff (by omega) (by decide)).mpr h)

theorem exact_strings (texts : List String) :
    Json.Exact (room + 1) (.arr (texts.map .ofString)) := by
  refine .arr fun item member => ?_
  obtain ⟨text, -, rfl⟩ := List.mem_map.mp member
  exact .str text

/-- An envelope can be read back if its data and its error can. -/
theorem exact_envelope (command : String) (policy : MatchPolicy) {durationMs : Int}
    (brief : durationMs.natAbs < 10 ^ Json.maxDigits) (ok : Bool) {data : Json}
    (told : Json.Exact (room + 1) data) (warnings : List String) {error : Json}
    (failed : Json.Exact (room + 1) error) :
    Json.Exact (room + 2) (envelope command policy durationMs ok data warnings error) := by
  have names :
      (["ok", "command", "data", "warnings", "meta", "error"].map RawText.ofString).Nodup := by
    decide
  have metaNames : (["durationMs", "match"].map RawText.ofString).Nodup := by decide
  have about : Json.Exact (room + 1)
      (.obj [("durationMs", .int durationMs), ("match", .ofString policy.name)]) := by
    refine .obj metaNames fun field member => ?_
    simp only [List.mem_cons, List.not_mem_nil, or_false] at member
    rcases member with rfl | rfl
    · exact exact_int brief
    · exact .str _
  refine .obj names fun field member => ?_
  simp only [List.mem_cons, List.not_mem_nil, or_false] at member
  rcases member with rfl | rfl | rfl | rfl | rfl | rfl
  · exact .bool ok
  · exact .str _
  · exact told
  · exact exact_strings warnings
  · exact about
  · exact failed

theorem exact_groupingData (query : Query) : Json.Exact (room + 2) (groupingData query) := by
  have names : (["filter", "terms"].map RawText.ofString).Nodup := by decide
  refine .obj names fun field member => ?_
  simp only [List.mem_cons, List.not_mem_nil, or_false] at member
  rcases member with rfl | rfl
  · exact .str _
  · exact exact_strings query.terms

theorem exact_matchData {countOnly : Bool} {posts : List Post}
    (few : posts.length < 10 ^ Json.maxDigits)
    (rows : ∀ post ∈ posts, Json.Exact (room + 1) post.toJson) :
    Json.Exact (room + 3) (matchData countOnly posts) := by
  have count : Json.Exact (room + 2) (.int posts.length) := exact_int few
  have shown : Json.Exact (room + 2) (.arr (posts.map Post.toJson)) := by
    refine .arr fun row member => ?_
    obtain ⟨post, kept, rfl⟩ := List.mem_map.mp member
    exact rows post kept
  cases countOnly with
  | true =>
    have names : (["count"].map RawText.ofString).Nodup := by decide
    exact .obj names (List.forall_mem_singleton.mpr count)
  | false =>
    have names : (["count", "posts"].map RawText.ofString).Nodup := by decide
    exact .obj names (List.forall_mem_cons.mpr ⟨count, List.forall_mem_singleton.mpr shown⟩)

theorem exact_errorJson (type message : String) {position : Option Int}
    (small : ∀ p ∈ position, p.natAbs < 10 ^ Json.maxDigits) :
    Json.Exact (room + 2) (errorJson type message position) := by
  have names : (["type", "message", "details"].map RawText.ofString).Nodup := by decide
  have details :
      Json.Exact (room + 1) (.ofOption (fun p => .obj [("position", .int p)]) position) := by
    cases position with
    | none => exact .null
    | some position =>
      have name : (["position"].map RawText.ofString).Nodup := by decide
      exact .obj name (List.forall_mem_singleton.mpr (exact_int (small position rfl)))
  refine .obj names fun field member => ?_
  simp only [List.mem_cons, List.not_mem_nil, or_false] at member
  rcases member with rfl | rfl | rfl
  · exact .str _
  · exact .str _
  · exact details

/-! ### Reports of answers -/

theorem reportForm_groupingData (query : Query) :
    (groupingData query).reportForm = groupingData query := by
  have terms : (Json.arr (query.terms.map .ofString)).reportForm =
      .arr (query.terms.map .ofString) := by
    refine Json.reportForm_arr_of_fixed fun term member => ?_
    obtain ⟨term, -, rfl⟩ := List.mem_map.mp member
    rfl
  exact congrArg (fun terms => Json.obj [("filter", .str query.toText), ("terms", terms)]) terms

theorem allTexts_groupingData {p : RawText → Bool} (strings : ∀ text : String, p text = true)
    (query : Query) : (groupingData query).allTexts p = true := by
  have terms : Json.allItemTexts p (query.terms.map .ofString) = true := by
    rw [Json.allItemTexts_eq_all, List.all_map]
    exact List.all_eq_true.mpr fun term _ => strings term
  simp [groupingData, Json.allTexts, Json.allFieldTexts, terms, strings]

theorem toJson_report_of_grouping {settings : Settings} {durationMs : Int} {result : Result}
    {query : Query} (data : result.data = .ok (groupingData query))
    (unwarned : result.warnings = []) :
    (report settings "parse" durationMs result).toJson =
      envelope "parse" settings.policy durationMs true (groupingData query) [] .null := by
  simp only [Report.toJson_eq, report, data, unwarned, reportForm_groupingData]
  rfl

/-- What the envelope of an answer tells: that all is good exactly if the exit code is zero, and
either data or an error. -/
structure Told (code : Int) (ok : Bool) (data error : Json) (warnings : List String) : Prop where
  good : ok = true ↔ code = 0
  noError : error = .null ↔ ok = true
  noData : data = .null ↔ ok = false
  ascii : warnings.all Text.isAscii = true

namespace Told

theorem congr {code code' : Int} {ok : Bool} {data error : Json} {warnings : List String}
    (same : code = 0 ↔ code' = 0) (told : Told code ok data error warnings) :
    Told code' ok data error warnings :=
  { told with good := told.good.trans same }

theorem of_failure {code : Int} (fails : code ≠ 0) (type message : String)
    (position : Option Int) : Told code false .null (errorJson type message position) [] where
  good := by simp [fails]
  noError := by simp [errorJson]
  noData := by simp
  ascii := rfl

theorem of_grouping (query : Query) : Told 0 true (groupingData query) .null [] where
  good := by simp
  noError := by simp
  noData := by simp [groupingData]
  ascii := rfl

theorem of_match (countOnly : Bool) (read kept : List Post) :
    Told 0 true (matchData countOnly kept) .null
      (if read.isEmpty then ["No posts read from input."] else []) where
  good := by simp
  noError := by simp
  noData := by simp [matchData]
  ascii := by
    split
    · decide
    · decide

end Told

namespace Answers

variable {nesting : Nat} {task : Task} {lines : List String} {shown : List Post} {result : Result}

/-- Every answer has an envelope.  Apart from what all strings share, its texts are those of the
posts that are shown; and it can be read back. -/
theorem exists_envelope (answers : Answers nesting task lines shown result) (settings : Settings)
    (durationMs : Int) :
    ∃ (ok : Bool) (data error : Json) (warnings : List String),
      (report settings task.name durationMs result).toJson =
        envelope task.name settings.policy durationMs ok data warnings error ∧
      Told (exitCode result) ok data error warnings ∧
      (∀ p : RawText → Bool, (∀ text : String, p text = true) →
        (data.allTexts p && error.allTexts p) = shown.all (Post.allTexts p)) ∧
      (max task.text.length lines.length < 10 ^ Json.maxDigits →
        ∀ room, Json.Exact (room + 3) data ∧ Json.Exact (room + 3) error) := by
  cases answers with
  | failed failure type message position hidden data unwarned info fails inside =>
    have code : exitCode result = failure.classify.exitCode := by rw [exitCode, data]
    refine ⟨false, .null, errorJson type message position, [], ?_, ?_, fun p strings => ?_,
      fun small _ => ⟨.null, exact_errorJson type message fun p hp => ?_⟩⟩
    · exact toJson_report_of_failure data unwarned position info
    · rw [code]
      exact .of_failure fails type message position
    · rw [hidden, allTexts_errorJson fun text _ => strings text, strings, strings]
      rfl
    · exact (inside p hp).trans_lt ((Nat.le_max_left _ _).trans_lt small)
  | grouped query hidden name data unwarned =>
    have code : exitCode result = 0 := by rw [exitCode, data]
    refine ⟨true, groupingData query, .null, [], ?_, ?_, fun p strings => ?_, fun _ _ =>
      ⟨exact_groupingData query, .null⟩⟩
    · rw [name]
      exact toJson_report_of_grouping data unwarned
    · rw [code]
      exact .of_grouping query
    · rw [hidden, allTexts_groupingData strings]
      rfl
  | matched countOnly kept seen name data warned among =>
    have code : exitCode result = 0 := by rw [exitCode, data]
    let warnings :=
      if (Feed.ofLines nesting lines).posts.isEmpty then ["No posts read from input."] else []
    refine ⟨true, matchData countOnly kept, .null, warnings, ?_, ?_, fun p strings => ?_,
      fun small _ => ⟨exact_matchData ?_ fun post member => ?_, .null⟩⟩
    · rw [name]
      exact toJson_report_of_posts data warned
    · rw [code]
      exact .of_match countOnly _ kept
    · rw [allTexts_matchData (fun text _ => strings text), seen]
      cases countOnly with
      | true => rfl
      | false => exact Bool.and_true _
    · have read := Feed.length_posts_le nesting 1 (lines.map .ofString)
      rw [List.length_map] at read
      exact (among.length_le.trans read).trans_lt ((Nat.le_max_right _ _).trans_lt small)
    · exact Feed.exact_toJson (among.subset member)

end Answers

end Command

end KeywordQuery
