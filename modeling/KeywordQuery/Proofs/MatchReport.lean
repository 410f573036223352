import Mathlib
import KeywordQuery.Layout.Console
import KeywordQuery.Proofs.Invocation
import KeywordQuery.Proofs.Outcomes

/-!
# The report of a match

A match tells either all of what it was asked for or only why it failed.  What it prints as JSON is
told by the first of four things that goes wrong: the query text, a line of the feed, the encoding
of the input, and the printing of the matched posts.

* `matchedEnvelope` — the envelope of a match that ends well;
* `takes_matchedEnvelope` — the posts that are kept are printed all together or not at all;
* `match_all_or_nothing` — what a match prints, for every query text and every input;
* `broken_post_not_shown` — a post with an unpaired surrogate can be counted, and not be shown.
-/

namespace KeywordQuery

open Encoding (TextStream EncodeFault)

namespace Command

/-! ### Envelopes -/

/-- The envelope of a match that kept some of the posts that were read. -/
def matchedEnvelope (policy : MatchPolicy) (durationMs : Int) (countOnly : Bool)
    (read kept : List Post) : Json :=
  envelope "match" policy durationMs true
    (.obj (("count", .int kept.length) ::
      if countOnly then [] else [("posts", .arr (kept.map Post.toJson))]))
    (if read.isEmpty then ["No posts read from input."] else []) .null

theorem allTexts_matchData {p : RawText → Bool}
    (names : ∀ text : String, Text.isAscii text = true → p (.ofString text) = true)
    (countOnly : Bool) (posts : List Post) :
    (matchData countOnly posts).allTexts p = (countOnly || posts.all (Post.allTexts p)) := by
  have row : ∀ name ∈ ["id", "author", "text"], p (.ofString name) = true :=
    fun name member => names name (by revert name; decide)
  have rows : Json.allItemTexts p (posts.map Post.toJson) = posts.all (Post.allTexts p) := by
    rw [Json.allItemTexts_eq_all, List.all_map]
    exact congrArg posts.all (funext (Post.allTexts_toJson row))
  have count : p (.ofString "count") = true := names _ (by decide)
  have field : p (.ofString "posts") = true := names _ (by decide)
  rw [matchData]
  cases countOnly with
  | true => simp [Json.allTexts, Json.allFieldTexts, count]
  | false => simp [Json.allTexts, Json.allFieldTexts, count, field, rows]

/-- Standard output takes the envelope of a match exactly if it takes the posts that are shown. -/
theorem takes_matchedEnvelope (stdout : TextStream) (policy : MatchPolicy) (durationMs : Int)
    (countOnly : Bool) (read kept : List Post) :
    stdout.takes (matchedEnvelope policy durationMs countOnly read kept).line =
      (countOnly || kept.all (Post.allTexts stdout.takes)) := by
  have names (text : String) (h : Text.isAscii text = true) : stdout.takes text = true :=
    TextStream.takes_ofString h
  have ascii : ("match" :: if read.isEmpty then ["No posts read from input."] else []).all
      Text.isAscii = true := by
    split
    · decide
    · decide
  have data := allTexts_matchData names countOnly kept
  rw [matchData] at data
  rw [Json.takes_line, matchedEnvelope, allTexts_envelope names ascii, data]
  exact Bool.and_true _

theorem reportForm_matchData (countOnly : Bool) (posts : List Post) :
    (matchData countOnly posts).reportForm = matchData countOnly posts := by
  have rows : (Json.arr (posts.map Post.toJson)).reportForm = .arr (posts.map Post.toJson) := by
    refine Json.reportForm_arr_of_fixed fun row hr => ?_
    obtain ⟨post, -, rfl⟩ := List.mem_map.mp hr
    exact post.reportForm_toJson
  cases countOnly with
  | true => rfl
  | false =>
    exact congrArg (fun rows => Json.obj [("count", .int posts.length), ("posts", rows)]) rows

theorem toJson_report_of_posts {settings : Settings} {durationMs : Int} {result : Result}
    {countOnly : Bool} {read kept : List Post}
    (data : result.data = .ok (matchData countOnly kept))
    (warned : result.warnings = if read.isEmpty then [emptyFeedWarning] else []) :
    (report settings "match" durationMs result).toJson =
      matchedEnvelope settings.policy durationMs countOnly read kept := by
  simp only [Report.toJson_eq, report, data, warned, reportForm_matchData]
  cases read with
  | nil => rfl
  | cons post read => rfl

section

variable {host : Host Id} {console : Console} {settings : Settings}
  (json : settings.form = .json)

include json

/-- The posts that were kept are printed all together or not at all.  That they cannot be printed
can be told on every stream. -/
theorem prints_of_posts {result : Result} {countOnly : Bool} {read kept : List Post}
    (data : result.data = .ok (matchData countOnly kept))
    (warned : result.warnings = if read.isEmpty then [emptyFeedWarning] else [])
    (among : kept ⊆ read) :
    let ending := conclude host console settings "match" result
    let matched := matchedEnvelope settings.policy host.elapsedMs countOnly read kept
    if countOnly || kept.all (Post.allTexts console.stdout.takes) then
      Prints console.stdout ending 0 matched
    else ∃ fault, console.stdout.write matched.line = .error fault ∧
      Prints console.stdout ending 1 (failedEnvelope "match" settings.policy host.elapsedMs
        EncodeFault.kindName fault.message none) := by
  intro ending matched
  have reported : (report settings "match" host.elapsedMs result).toJson = matched :=
    toJson_report_of_posts data warned
  have taken : console.stdout.takes matched.line = _ := takes_matchedEnvelope ..
  split
  · next whole =>
    exact prints_of_write json data reported (TextStream.write_of_takes (taken.trans whole))
  · next broken =>
    have refused : console.stdout.takes matched.line = false := by
      rw [taken, Bool.eq_false_iff]
      exact broken
    obtain ⟨fault, refusal⟩ := TextStream.write_of_refuses refused
    -- A row that cannot be printed is that of a post, so the feed is not the one that is warned of.
    have unwarned : result.warnings = [] := by
      cases read with
      | nil =>
        rw [List.subset_nil.mp among] at broken
        simp at broken
      | cons post read => exact warned
    have told : Tells console.stdout ending 1 (failedEnvelope "match" settings.policy
        host.elapsedMs EncodeFault.kindName fault.message none) :=
      tells_of_refusal json data unwarned (reported ▸ refusal)
    refine ⟨fault, refusal, told.prints ?_⟩
    rw [takes_failedEnvelope (by decide), TextStream.takes_ofString (by decide),
      TextStream.takes_ofString (EncodeFault.isAscii_message_of_write refusal)]
    rfl

end

/-! ### Matches -/

/-- What a match prints when nothing is wrong with the query text and the input. -/
theorem prints_of_input {host : Host Id} {console : Console} {settings : Settings}
    (json : settings.form = .json) {operands : List String} {query : Query}
    (parsed : Query.parse settings.policy (joinOperands operands) = .ok query)
    (countOnly : Bool) {input : Input}
    (accepted : (Feed.ofLines host.nesting input.1).fault = none) (decoded : input.2 = none) :
    let ending := conclude host console settings "match"
      (matchCommand (m := Id) host.nesting settings operands countOnly input)
    let posts := (Feed.ofLines host.nesting input.1).posts
    let kept := posts.filter query.matchesPost
    let matched := matchedEnvelope settings.policy host.elapsedMs countOnly posts kept
    if countOnly || kept.all (Post.allTexts console.stdout.takes) then
      Prints console.stdout ending 0 matched
    else ∃ fault, console.stdout.write matched.line = .error fault ∧
      Prints console.stdout ending 1 (failedEnvelope "match" settings.policy host.elapsedMs
        EncodeFault.kindName fault.message none) := by
  obtain ⟨data, warnings⟩ := data_matchCommand_of_query parsed host.nesting countOnly input
  rw [matchInput_of_posts accepted decoded] at data warnings
  exact prints_of_posts json data warnings List.filter_sublist.subset

/-- **A match is all or nothing.**  A text that is no query, a line that cannot be read and bytes
that are no text end a match with an envelope that tells nothing of any post.  Otherwise every
post can be searched, and the envelope tells the number of all posts that the query holds of and,
unless only this is asked for, their rows in the order of the feed.  If standard output does not
take one of these rows, none is printed, and the match fails.  The envelope of a failure may hold
a text that standard output does not take, but not if it takes all that hold no unpaired
surrogate. -/
theorem match_all_or_nothing {host : Host Id} {console : Console} {settings : Settings}
    (json : settings.form = .json) (operands : List String) (countOnly : Bool) (input : Input) :
    let stdout := console.stdout
    let ending := conclude host console settings "match"
      (matchCommand (m := Id) host.nesting settings operands countOnly input)
    let feed := Feed.ofLines host.nesting input.1
    let failed := failedEnvelope "match" settings.policy host.elapsedMs
    (match Query.parse settings.policy (joinOperands operands), feed.fault, input.2 with
    | .error fault, _, _ =>
      Tells stdout ending 2 (failed "usage_error" fault.message (some fault.position))
    | .ok _, some fault, _ =>
      if fault.isItemFault then
        Tells stdout ending 2 (failed "validation_error" fault.message none)
      else Tells stdout ending 1 (failed fault.kindName fault.message none)
    | .ok _, none, some fault =>
      Tells stdout ending 1 (failed "UnicodeDecodeError" fault.message none)
    | .ok query, none, none =>
      let kept := feed.posts.filter query.matchesPost
      let matched := matchedEnvelope settings.policy host.elapsedMs countOnly feed.posts kept
      (∀ post, query.holds (.post post) = .ok (query.matchesPost post)) ∧
      if countOnly || kept.all (Post.allTexts stdout.takes) then Prints stdout ending 0 matched
      else ∃ fault, stdout.write matched.line = .error fault ∧
        Prints stdout ending 1 (failed "UnicodeEncodeError" fault.message none)) ∧
    (stdout.TakesStrings → ∃ code printed, ending = .finished code printed) := by
  intro stdout ending feed failed
  have legible {code : Int} {type message : String} {position : Option Int}
      (told : Tells stdout ending code (failed type message position))
      (strings : stdout.TakesStrings) : ∃ code printed, ending = .finished code printed := by
    have taken : stdout.takes (failed type message position).line = true :=
      takes_failedEnvelope_of_strings strings (by decide) ..
    obtain ⟨printed, finished, -⟩ := told.prints taken
    exact ⟨code, printed, finished⟩
  rcases parsed : Query.parse settings.policy (joinOperands operands) with fault | query
  · have refused := matchCommand_of_fault (m := Id) parsed host.nesting countOnly input
    have told : Tells stdout ending 2 (failed "usage_error" fault.message (some fault.position)) :=
      tells_of_failure json (congrArg Result.data refused) (congrArg Result.warnings refused)
        (some fault.position) rfl
    exact ⟨told, legible told⟩
  obtain ⟨data, warnings⟩ := data_matchCommand_of_query parsed host.nesting countOnly input
  rcases accepted : feed.fault with _ | fault
  · rcases decoded : input.2 with _ | fault
    · let kept := feed.posts.filter query.matchesPost
      let matched := matchedEnvelope settings.policy host.elapsedMs countOnly feed.posts kept
      have printed : if countOnly || kept.all (Post.allTexts stdout.takes) then
          Prints stdout ending 0 matched
        else ∃ fault, stdout.write matched.line = .error fault ∧
          Prints stdout ending 1 (failed "UnicodeEncodeError" fault.message none) :=
        prints_of_input json parsed countOnly accepted decoded
      refine ⟨⟨query.holds_post, printed⟩, fun _ => ?_⟩
      split at printed
      · obtain ⟨printed, finished, -⟩ := printed
        exact ⟨0, printed, finished⟩
      · obtain ⟨_, -, printed, finished, -⟩ := printed
        exact ⟨1, printed, finished⟩
    · rw [matchInput_of_decodeFault accepted decoded] at data warnings
      have told : Tells stdout ending 1 (failed "UnicodeDecodeError" fault.message none) :=
        tells_of_failure json data warnings none rfl
      exact ⟨told, legible told⟩
  · rw [matchInput_of_feedFault accepted, Failure.ofFeedFault] at data
    rw [matchInput_of_feedFault accepted] at warnings
    dsimp only
    split
    · next item =>
      rw [if_pos item] at data
      have told : Tells stdout ending 2 (failed "validation_error" fault.message none) :=
        tells_of_failure json data warnings none rfl
      exact ⟨told, legible told⟩
    · next other =>
      rw [if_neg other] at data
      have told : Tells stdout ending 1 (failed fault.kindName fault.message none) :=
        tells_of_failure json data warnings none rfl
      exact ⟨told, legible told⟩

/-- A post that comes twice is shown twice; the blank line is passed over. -/
theorem repeated_post_shown_twice :
    let settings : Settings := { form := .json }
    let lines := ["Ok", "", "\x7b\"id\": \"x\", \"text\": \"yes\"\x7d", "No", "Ok"]
    let posts : List Post :=
      [{ text := "Ok" }, { id := some (.name "x"), text := "yes" }, { text := "No" },
        { text := "Ok" }]
    settings.form = .json ∧
    Prints .utf8
      (conclude (plainHost []) (Layout.console 80) settings "match"
        (matchCommand (m := Id) 1000 settings ["not", "no"] false (lines, none)))
      0 (matchedEnvelope .substring 0 false posts [posts[0], posts[1], posts[3]]) := by
  intro settings lines posts
  let query : Query := .not (.word "no" .substring)
  have parsed : Query.parse settings.policy (joinOperands ["not", "no"]) = .ok query := by cbv
  have feed : Feed.ofLines 1000 lines = { posts, blanks := [2] } := by cbv
  have kept : posts.filter query.matchesPost = [posts[0], posts[1], posts[3]] := by decide +kernel
  have whole : [posts[0], posts[1], posts[3]].all
      (Post.allTexts (Layout.console 80).stdout.takes) = true := by
    decide +kernel
  obtain ⟨table, -⟩ := @match_all_or_nothing (plainHost []) (Layout.console 80) settings rfl
    ["not", "no"] false (lines, none)
  have nesting : (plainHost []).nesting = 1000 := rfl
  simp only [parsed, nesting, feed, kept] at table
  have shown := table.2
  rw [Bool.false_or, if_pos whole] at shown
  exact ⟨rfl, shown⟩

/-- A post with half of a surrogate pair can be counted, and a match that would show it fails, with
nothing wrong in the query text and in the input. -/
theorem broken_post_not_shown :
    let settings : Settings := { form := .json }
    let input : Input := (["\x7b\"text\": \"a\\ud800\"\x7d"], none)
    let ended (countOnly : Bool) := conclude (plainHost []) (Layout.console 80) settings "match"
      (matchCommand (m := Id) 1000 settings ["a"] countOnly input)
    Query.parse settings.policy (joinOperands ["a"]) = .ok (.word "a" .substring) ∧
    (Feed.ofLines 1000 input.1).fault = none ∧ input.2 = none ∧
    (ended false).exitCode = 1 ∧ (ended true).exitCode = 0 := by
  intro settings input ended
  have json : settings.form = .json := rfl
  have parsed : Query.parse settings.policy (joinOperands ["a"]) =
      .ok (.word "a" .substring) := by
    cbv
  have feed : Feed.ofLines 1000 input.1 = { posts := [{ text := ⟨"a", [(0xD800, "")]⟩ }] } := by
    cbv
  have accepted : (Feed.ofLines (plainHost []).nesting input.1).fault = none :=
    congrArg Feed.fault feed
  have kept : (Feed.ofLines (plainHost []).nesting input.1).posts.filter
      (Query.word "a" .substring).matchesPost = [{ text := ⟨"a", [(0xD800, "")]⟩ }] := by
    rw [show Feed.ofLines (plainHost []).nesting input.1 = _ from feed]
    decide +kernel
  have printed (countOnly : Bool) := @prints_of_input (plainHost []) (Layout.console 80) settings
    json ["a"] (.word "a" .substring) parsed countOnly input accepted rfl
  have whenShown := printed false
  have whenCounted := printed true
  simp only [kept] at whenShown
  rw [if_neg (by decide)] at whenShown
  obtain ⟨_, -, _, failed, -⟩ := whenShown
  obtain ⟨_, counted, -⟩ := whenCounted
  exact ⟨parsed, accepted, rfl, congrArg Ending.exitCode failed,
    congrArg Ending.exitCode counted⟩

end Command

end KeywordQuery
