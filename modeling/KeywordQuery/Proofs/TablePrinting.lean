import Mathlib.Data.List.TakeWhile
import KeywordQuery.Layout.Console
import KeywordQuery.Proofs.Outcomes

/-!
# Reports for people to read

The data of a grouping and of a match always have a view.  So a report is printed for people if the
console can draw its view and its notes.  The console that lays them out on pages can, unless a text
of the view holds an unpaired surrogate.

* `HumanView.ofMatch`, `HumanView.ofGrouping` — the views of a match and of the grouping of a query;
* `Console.CanPrint` — whether a console can draw what a report shows to people;
* `Command.conclude_of_error_drawn`, `Command.conclude_of_ok_drawn` — the end of a command that is
  reported to people;
* `RawText.exists_string` — the texts without unpaired surrogates are the strings;
* `Layout.exists_printView`, `Layout.exists_printNote` — what the laid-out console can draw.
-/

namespace KeywordQuery

open Encoding (TextStream EncodeFault)

/-! ### Views -/

/-- The row of a post in a table. -/
def Post.cells (post : Post) : List RawText :=
  [(Json.ofOption PostId.toJson post.id).cellText, (Json.ofOption Json.str post.author).cellText,
    post.text]

/-- The data of the grouping of a query. -/
def Command.groupingData (query : Query) : Json :=
  .obj [("filter", .str query.toText), ("terms", .arr (query.terms.map .ofString))]

namespace HumanView

theorem mapM_postRow (posts : List Post) :
    (posts.map Post.toJson).mapM postRow = .ok (posts.map Post.cells) := by
  rw [List.mapM_map]
  exact List.mapM_pure

/-- The view of a match. -/
def ofMatch (countOnly : Bool) (posts : List Post) : HumanView :=
  let footer := toString posts.length ++ " matching post(s)"
  if countOnly then page (toString posts.length)
  else if posts.isEmpty then page footer
  else .posts (posts.map Post.cells) footer

theorem ofPosts_rows (posts : List Post) :
    ofPosts (some (.int posts.length)) (.arr (posts.map Post.toJson)) =
      .ok (ofMatch false posts) := by
  let footer := (Json.int posts.length).display ++ .ofString " matching post(s)"
  have spelled : footer = .ofString (toString posts.length ++ " matching post(s)") :=
    (RawText.ofString_append ..).symm
  have unfolded : ofPosts (some (.int posts.length)) (.arr (posts.map Post.toJson)) =
      if (posts.map Post.toJson).isEmpty then .ok (page footer)
      else do return .posts (← (posts.map Post.toJson).mapM postRow) footer := rfl
  rw [unfolded, spelled, mapM_postRow]
  cases posts with
  | nil => rfl
  | cons post posts => rfl

theorem ofData_matchData (countOnly : Bool) (posts : List Post) :
    ofData "match" (Command.matchData countOnly posts) = .ok (ofMatch countOnly posts) := by
  cases countOnly with
  | true => rfl
  | false => exact ofPosts_rows posts

/-- The view of the grouping of a query. -/
def ofGrouping (query : Query) : HumanView :=
  .fields [("filter", query.toText), ("terms", .commaSeparated (query.terms.map .ofString))]

theorem ofData_groupingData (query : Query) :
    ofData "parse" (Command.groupingData query) = .ok (ofGrouping query) := by
  have terms : (Json.arr (query.terms.map .ofString)).cellText =
      .commaSeparated (query.terms.map .ofString) := by
    rw [Json.cellText, List.map_map]
    rfl
  rw [ofGrouping, ← terms]
  rfl

end HumanView

/-! ### Reports on a console -/

/-- The console can draw what the report shows to people: the view of its data, and the notes. -/
structure Console.CanPrint (console : Console) (report : Report) : Prop where
  view : ∀ view, HumanView.ofData report.command report.data = .ok view →
    ∃ out, console.printView view = .ok out
  error : ∃ err, console.printNote (Report.errorNote report.error) = .ok err
  warnings : ∀ note ∈ Report.warningNotes report.warnings,
    ∃ err, console.printNote note = .ok err

/-- Notes that can be drawn are printed, and standard output has no part in it. -/
theorem Console.exists_printNotes {console : Console} {notes : List RawText}
    (drawn : ∀ note ∈ notes, ∃ err, console.printNote note = .ok err) :
    ∃ err, console.printNotes notes = { printed := { err } } := by
  induction notes with
  | nil => exact ⟨"", rfl⟩
  | cons note notes ih =>
    obtain ⟨⟨err, first⟩, others⟩ := List.forall_mem_cons.mp drawn
    obtain ⟨rest, printed⟩ := ih others
    refine ⟨err ++ rest, ?_⟩
    rw [printNotes, first, printed]
    show ({ printed := ⟨.ofString "" ++ .ofString "", err ++ rest⟩ } : Emission) = _
    rw [RawText.empty_append]

namespace Report

variable {console : Console} {report : Report}

/-- A failure is told on standard error alone. -/
theorem exists_emitTable_of_error (drawn : console.CanPrint report) (failed : report.ok = false)
    (quiet : Bool) : ∃ err, emitTable console quiet report = { printed := { err } } := by
  have notes : ∀ note ∈ [errorNote report.error], ∃ err, console.printNote note = .ok err :=
    List.forall_mem_singleton.mpr drawn.error
  obtain ⟨err, printed⟩ := Console.exists_printNotes notes
  refine ⟨err, ?_⟩
  rw [emitTable, failed, printed]
  rfl

/-- Data that have a view are printed. -/
theorem exists_emitTable_of_ok (drawn : console.CanPrint report) (good : report.ok = true)
    {view : HumanView} (seen : HumanView.ofData report.command report.data = .ok view)
    (quiet : Bool) : ∃ printed, emitTable console quiet report = { printed } := by
  obtain ⟨out, shown⟩ := drawn.view view seen
  obtain ⟨err, warned⟩ := Console.exists_printNotes drawn.warnings
  simp only [emitTable, good, if_true, seen, shown, warned]
  cases quiet with
  | true => exact ⟨_, rfl⟩
  | false => exact ⟨_, rfl⟩

end Report

namespace Command

section

variable {host : Host Id} {console : Console} {settings : Settings}
  (table : settings.form = .table) {command : String} {result : Result}

include table

theorem print_of_table (durationMs : Int) :
    print console settings command durationMs result =
      (report settings command durationMs result).emitTable console settings.quiet := by
  simp only [print, Report.emit, table]

/-- A failure that the console can draw is told on standard error. -/
theorem conclude_of_error_drawn {failure : Failure} (data : result.data = .error failure)
    (drawn : console.CanPrint (report settings command host.elapsedMs result)) :
    ∃ err, conclude host console settings command result =
      .finished failure.classify.exitCode { err } := by
  let failed : Result := { warnings := result.warnings, data := .error failure }
  have same : report settings command host.elapsedMs result =
      report settings command host.elapsedMs failed := by
    simp only [report, data, failed]
  rw [same] at drawn
  obtain ⟨err, printed⟩ := Report.exists_emitTable_of_error drawn rfl settings.quiet
  let log := logText console settings result.events ++
    logText console settings [.commandFailed command (host.trace command failure)]
  refine ⟨log ++ err, ?_⟩
  have ending : conclude host console settings command result =
      .ofEmission failure.classify.exitCode { out := .ofString "" ++ .ofString "", err := log }
        (print console settings command host.elapsedMs failed) := by
    rw [conclude_of_error data]
    rfl
  rw [ending, print_of_table table, printed, RawText.empty_append]
  show Ending.finished _ ⟨.ofString "" ++ .ofString "", log ++ err⟩ = _
  rw [RawText.empty_append]

/-- Data that the console can draw are printed. -/
theorem conclude_of_ok_drawn {value : Json} (data : result.data = .ok value) {view : HumanView}
    (seen : HumanView.ofData command value = .ok view)
    (drawn : console.CanPrint (report settings command host.elapsedMs result)) :
    ∃ printed, conclude host console settings command result = .finished 0 printed := by
  have good : (report settings command host.elapsedMs result).ok = true := by
    simp only [report, data]
  have shown : HumanView.ofData (report settings command host.elapsedMs result).command
      (report settings command host.elapsedMs result).data = .ok view := by
    simp only [report, data, seen]
  obtain ⟨printed, emitted⟩ := Report.exists_emitTable_of_ok drawn good shown settings.quiet
  have whole := (print_of_table table host.elapsedMs).trans emitted
  exact ⟨_, conclude_of_emission data (by rw [whole])⟩

end

end Command

/-! ### Whole texts -/

namespace RawText

theorem exists_string {text : RawText} (h : text.isWhole = true) : ∃ s, text = ofString s := by
  obtain ⟨start, broken⟩ := text
  cases broken with
  | nil => exact ⟨start, rfl⟩
  | cons part broken => cases h

theorem isWhole_ofUnits (units : List TextUnit) :
    (ofUnits units).isWhole = units.all TextUnit.isChar := by
  rw [← all_isChar_toUnits, toUnits_ofUnits]

theorem isWhole_join (texts : List RawText) : (join texts).isWhole = texts.all isWhole := by
  rw [join, isWhole_ofUnits, List.all_flatMap]
  exact congrArg texts.all (funext all_isChar_toUnits)

theorem isWhole_commaSeparated {texts : List RawText} (h : ∀ text ∈ texts, text.isWhole = true) :
    (commaSeparated texts).isWhole = true := by
  rw [commaSeparated, isWhole_join]
  induction texts with
  | nil => rfl
  | cons text texts ih =>
    obtain ⟨first, others⟩ := List.forall_mem_cons.mp h
    have others := ih others
    cases texts with
    | nil => rw [List.intersperse_singleton, List.all_cons, first, List.all_nil, Bool.and_true]
    | cons next texts =>
      rw [List.intersperse_cons_cons, List.all_cons, List.all_cons, first, others]
      rfl

end RawText

theorem Json.isWhole_cellText {value : Json} (h : value.allTexts RawText.isWhole = true) :
    value.cellText.isWhole = true := by
  cases value with
  | str text => exact h
  | arr items =>
    refine RawText.isWhole_commaSeparated fun text member => ?_
    obtain ⟨item, hi, rfl⟩ := List.mem_map.mp member
    rw [allTexts, allItemTexts_eq_all, List.all_eq_true] at h
    have whole := h item hi
    cases item with
    | str text => exact whole
    | null | bool | int | float | arr | obj => rfl
  | null | bool | int | float | obj => rfl

theorem Post.isWhole_cells {post : Post} (h : post.isWhole = true) :
    ∀ text ∈ post.cells, text.isWhole = true := by
  rw [isWhole, allTexts, Bool.and_eq_true, Bool.and_eq_true] at h
  have id := Json.allTexts_ofOption (PostId.allTexts_toJson RawText.isWhole) post.id
  have author : (Json.ofOption Json.str post.author).allTexts RawText.isWhole = _ :=
    Json.allTexts_ofOption (fun _ => rfl) post.author
  intro text member
  simp only [cells, List.mem_cons, List.not_mem_nil, or_false] at member
  rcases member with rfl | rfl | rfl
  · exact Json.isWhole_cellText (id.trans h.1)
  · exact Json.isWhole_cellText (author.trans h.2.1)
  · exact h.2.2

namespace HumanView

theorem isWhole_texts_ofGrouping (query : Query) :
    ∀ text ∈ (ofGrouping query).texts, text.isWhole = true := by
  have terms : (RawText.commaSeparated (query.terms.map .ofString)).isWhole = true := by
    refine RawText.isWhole_commaSeparated fun text member => ?_
    obtain ⟨term, -, rfl⟩ := List.mem_map.mp member
    exact RawText.isWhole_ofString term
  intro text member
  simp only [texts, ofGrouping, List.flatMap_cons, List.flatMap_nil, List.cons_append,
    List.nil_append, List.append_nil, List.mem_cons, List.not_mem_nil, or_false] at member
  rcases member with rfl | rfl | rfl | rfl
  · rfl
  · exact RawText.isWhole_ofString _
  · rfl
  · exact terms

/-- The view of a match shows no unpaired surrogate unless it shows a post with one. -/
theorem isWhole_texts_ofMatch {countOnly : Bool} {posts : List Post}
    (h : (countOnly || posts.all Post.isWhole) = true) :
    ∀ text ∈ (ofMatch countOnly posts).texts, text.isWhole = true := by
  intro text member
  rw [ofMatch] at member
  split at member
  · rw [List.mem_singleton.mp member, RawText.isWhole_ofString]
  split at member
  · rw [List.mem_singleton.mp member, RawText.isWhole_ofString]
  next shown _ =>
    rw [Bool.eq_false_iff.mpr shown, Bool.false_or, List.all_eq_true] at h
    rcases List.mem_append.mp member with row | footer
    · obtain ⟨cells, row, cell⟩ := List.mem_flatten.mp row
      obtain ⟨post, kept, rfl⟩ := List.mem_map.mp row
      exact Post.isWhole_cells (h post kept) text cell
    · rw [List.mem_singleton.mp footer, RawText.isWhole_ofString]

end HumanView

/-! ### The console that lays reports out -/

theorem StandIns.ofTexts_of_isWhole {texts : List RawText}
    (h : ∀ text ∈ texts, text.isWhole = true) : ofTexts texts = [] := by
  have none : (texts.flatMap fun text => text.broken.map (·.1)) = [] := by
    rw [List.flatMap_eq_nil_iff]
    intro text member
    obtain ⟨s, rfl⟩ := RawText.exists_string (h text member)
    rfl
  rw [ofTexts, none]
  rfl

theorem StandIns.unfill_nil (laidOut : String) : unfill [] laidOut = .ofString laidOut := by
  rw [← String.ofList_toList (s := laidOut), ← RawText.ofUnits_map_char, String.ofList_toList]
  rfl

theorem HumanView.exists_layOut_ofMatch (width : Nat) (standIns : StandIns) (countOnly : Bool)
    (posts : List Post) :
    ∃ laidOut, (ofMatch countOnly posts).layOut width standIns = .ok laidOut := by
  rw [ofMatch]
  split
  · exact ⟨_, by rw [layOut]⟩
  split
  · exact ⟨_, by rw [layOut]⟩
  · exact ⟨_, by rw [layOut]⟩

namespace Layout

theorem exists_printView {stream : TextStream} {width : Nat} {view : HumanView} {laidOut : String}
    (drawn : view.layOut width (StandIns.ofTexts view.texts) = .ok laidOut)
    (taken : stream.takes ((StandIns.ofTexts view.texts).unfill laidOut) = true) :
    ∃ out, printView stream width view = .ok out := by
  simp only [printView, drawn, TextStream.write_of_takes taken]
  exact ⟨_, rfl⟩

/-- A view of texts without unpaired surrogates is printed as it is laid out. -/
theorem exists_printView_of_isWhole {width : Nat} {view : HumanView} {laidOut : String}
    (whole : ∀ text ∈ view.texts, text.isWhole = true)
    (drawn : view.layOut width [] = .ok laidOut) :
    ∃ out, (console width).printView view = .ok out := by
  have none : StandIns.ofTexts view.texts = [] := StandIns.ofTexts_of_isWhole whole
  rw [console_printView]
  refine exists_printView (by rw [none, drawn]) ?_
  rw [none, StandIns.unfill_nil]
  exact TextStream.takesStrings_utf8 laidOut

/-- Standard error escapes what it cannot print, so notes are always printed. -/
theorem exists_printNote (width : Nat) (note : RawText) :
    ∃ err, (console width).printNote note = .ok err := by
  let standIns := StandIns.ofTexts (HumanView.page note).texts
  let laidOut := Layout.page width (standIns.fill note)
  have drawn : (HumanView.page note).layOut width standIns = .ok laidOut := by
    rw [HumanView.layOut]
  have taken : TextStream.utf8Escaping.takes (standIns.unfill laidOut) = true :=
    List.all_eq_true.mpr fun _ _ => rfl
  rw [console_printNote]
  exact exists_printView drawn taken

theorem exists_printView_ofGrouping (width : Nat) (query : Query) :
    ∃ out, (console width).printView (.ofGrouping query) = .ok out :=
  exists_printView_of_isWhole (HumanView.isWhole_texts_ofGrouping query) rfl

theorem exists_printView_ofMatch (width : Nat) {countOnly : Bool} {posts : List Post}
    (h : (countOnly || posts.all Post.isWhole) = true) :
    ∃ out, (console width).printView (.ofMatch countOnly posts) = .ok out := by
  obtain ⟨laidOut, drawn⟩ := HumanView.exists_layOut_ofMatch width [] countOnly posts
  exact exists_printView_of_isWhole (HumanView.isWhole_texts_ofMatch h) drawn

end Layout

end KeywordQuery
