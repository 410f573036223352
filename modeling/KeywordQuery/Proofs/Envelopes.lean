import Mathlib.Data.List.Basic
import KeywordQuery.Proofs.JsonRoundTrip
import KeywordQuery.Report.Basic

/-!
# Envelopes of reports

A report is told in an envelope, in which data and the details of an error take a form of their own.
Read again, the envelope is the report in this form, and its envelope is the same.

* `Json.reportForm_reportForm` — the form in which values stand in a report is a normal form;
* `Report.toJson_eq` — the envelope of a report;
* `Report.ofJson_toJson` — a report survives its envelope;
* `Report.toJson_settled` — the envelope of what survives is the same.
-/

namespace KeywordQuery

namespace Json

/-! ### Fields -/

/-- Fields without equal names: the last value of each in the place of the first. -/
def joinFields (fields : Fields) : Fields :=
  fields.foldl (fun done (name, value) => setField name value done) []

theorem map_fst_setField (name : RawText) (value : Json) (fields : Fields) :
    (setField name value fields).map (·.1) =
      if name ∈ fields.map (·.1) then fields.map (·.1) else fields.map (·.1) ++ [name] := by
  induction fields with
  | nil => rfl
  | cons field fields ih =>
    obtain ⟨other, old⟩ := field
    rw [setField]
    by_cases same : other = name
    · simp [same]
    · rw [if_neg same, List.map_cons, ih]
      by_cases known : name ∈ fields.map (·.1)
      · simp [known]
      · simp [known, Ne.symm same]

theorem nodup_setField {name : RawText} {value : Json} {fields : Fields}
    (h : (fields.map (·.1)).Nodup) : ((setField name value fields).map (·.1)).Nodup := by
  rw [map_fst_setField]
  split
  · exact h
  · next new => exact List.Nodup.append h (List.nodup_singleton name) (by simpa using new)

/-- Fields of different names stay as they are. -/
theorem foldl_setField_of_nodup {fields before : Fields}
    (h : ((before ++ fields).map (·.1)).Nodup) :
    fields.foldl (fun done (name, value) => setField name value done) before =
      before ++ fields := by
  induction fields generalizing before with
  | nil => simp
  | cons field fields ih =>
    obtain ⟨name, value⟩ := field
    have new : name ∉ before.map (·.1) := by
      rw [List.map_append, List.nodup_append] at h
      exact fun member => h.2.2 name member name (by simp) rfl
    rw [List.foldl_cons]
    dsimp only
    rw [setField_new new, ih (by simpa using h), List.append_assoc]
    rfl

theorem nodup_joinFields (fields : Fields) : ((joinFields fields).map (·.1)).Nodup := by
  suffices ∀ before : Fields, (before.map (·.1)).Nodup →
      ((fields.foldl (fun done (name, value) => setField name value done) before).map (·.1)).Nodup
    from this [] List.nodup_nil
  induction fields with
  | nil => exact fun before h => h
  | cons field fields ih => exact fun before h => ih _ (nodup_setField h)

theorem mem_of_mem_joinFields {fields : Fields} {field : RawText × Json}
    (h : field ∈ joinFields fields) : field ∈ fields := by
  suffices ∀ before : Fields,
      field ∈ fields.foldl (fun done (name, value) => setField name value done) before →
      field ∈ before ∨ field ∈ fields from (this [] h).resolve_left List.not_mem_nil
  clear h
  induction fields with
  | nil => exact fun before h => .inl h
  | cons other fields ih =>
    intro before h
    rcases ih _ h with early | late
    · rcases mem_setField early with old | rfl
      · exact .inl old
      · exact .inr List.mem_cons_self
    · exact .inr (List.mem_cons_of_mem _ late)

theorem joinFields_of_nodup {fields : Fields} (h : (fields.map (·.1)).Nodup) :
    joinFields fields = fields :=
  foldl_setField_of_nodup h

/-! ### Values in reports -/

theorem reportName_reportName (name : RawText) :
    reportName (reportName name) = reportName name := by
  have whole (text : String) : reportName (.ofString text) = .ofString text := by
    show RawText.ofString (String.ofList (text.toList ++ [])) = _
    rw [List.append_nil, String.ofList_toList]
  exact whole _

theorem reportItems_eq_map (items : List Json) : reportItems items = items.map reportForm := by
  induction items with
  | nil => rfl
  | cons item items ih => rw [reportItems, ih, List.map_cons]

theorem reportFields_eq_map (fields : Fields) :
    reportFields fields = fields.map fun (name, value) => (reportName name, value.reportForm) := by
  induction fields with
  | nil => rfl
  | cons field fields ih => rw [reportFields, ih, List.map_cons]

theorem reportForm_obj (fields : Fields) :
    (obj fields).reportForm = obj (joinFields (reportFields fields)) := by
  rw [reportForm, joinFields]

theorem reportForm_arr_of_fixed {items : List Json} (h : ∀ item ∈ items, item.reportForm = item) :
    (arr items).reportForm = arr items := by
  rw [reportForm, reportItems_eq_map, List.map_congr_left h, List.map_id']

/-- Fields that are in the form of a report and have different names stay as they are. -/
theorem reportForm_obj_of_fixed {fields : Fields} (names : (fields.map (·.1)).Nodup)
    (h : ∀ field ∈ fields, reportName field.1 = field.1 ∧ field.2.reportForm = field.2) :
    (obj fields).reportForm = obj fields := by
  have same : reportFields fields = fields := by
    rw [reportFields_eq_map]
    calc _ = fields.map id :=
          List.map_congr_left fun field hf => Prod.ext (h field hf).1 (h field hf).2
      _ = fields := List.map_id _
  rw [reportForm_obj, same, joinFields_of_nodup names]

mutual

/-- The form in which a value stands in a report is a normal form. -/
theorem reportForm_reportForm : (value : Json) → value.reportForm.reportForm = value.reportForm
  | .null | .bool _ | .int _ | .str _ => rfl
  | .float value => by
    rw [reportForm]
    split
    · next finite => rw [reportForm, if_pos finite]
    · rfl
  | .arr items => by
    rw [reportForm]
    exact reportForm_arr_of_fixed (reportForm_of_mem_reportItems items)
  | .obj fields => by
    rw [reportForm_obj]
    exact reportForm_obj_of_fixed (nodup_joinFields _) fun field hf =>
      reportForm_of_mem_reportFields fields field (mem_of_mem_joinFields hf)

theorem reportForm_of_mem_reportItems : (items : List Json) →
    ∀ item ∈ reportItems items, item.reportForm = item
  | [] => by simp [reportItems]
  | item :: items => by
    intro other h
    rw [reportItems] at h
    rcases List.mem_cons.mp h with rfl | h
    · exact reportForm_reportForm item
    · exact reportForm_of_mem_reportItems items other h

theorem reportForm_of_mem_reportFields : (fields : Fields) →
    ∀ field ∈ reportFields fields,
      reportName field.1 = field.1 ∧ field.2.reportForm = field.2
  | [] => by simp [reportFields]
  | (name, value) :: fields => by
    intro other h
    rw [reportFields] at h
    rcases List.mem_cons.mp h with rfl | h
    · exact ⟨reportName_reportName name, reportForm_reportForm value⟩
    · exact reportForm_of_mem_reportFields fields other h

end

end Json

/-! ### Reports -/

namespace ErrorInfo

/-- An error as it stands in an envelope. -/
def settled (info : ErrorInfo) : ErrorInfo :=
  { info with details := info.details.map fun fields => Json.joinFields (Json.reportFields fields) }

theorem reportForm_toJson (info : ErrorInfo) : info.toJson.reportForm = info.settled.toJson := by
  obtain ⟨type, message, details⟩ := info
  cases details with
  | none => rfl
  | some fields => rfl

theorem settled_settled (info : ErrorInfo) : info.settled.settled = info.settled := by
  obtain ⟨type, message, details⟩ := info
  cases details with
  | none => rfl
  | some fields =>
    have same := Json.reportForm_reportForm (.obj fields)
    simp only [Json.reportForm_obj, Json.obj.injEq] at same
    simp only [settled, Option.map_some, same]

end ErrorInfo

namespace Report

/-- Only data and the details of an error may change their form in an envelope. -/
theorem toJson_eq (report : Report) :
    report.toJson = .obj [
      ("ok", .bool report.ok),
      ("command", .str report.command),
      ("data", report.data.reportForm),
      ("warnings", .arr (report.warnings.map .str)),
      ("meta", .obj [("durationMs", .int report.durationMs),
        ("match", .ofOption .str report.policy)]),
      ("error", (Json.ofOption ErrorInfo.toJson report.error).reportForm)] := by
  have warnings : (Json.arr (report.warnings.map .str)).reportForm =
      .arr (report.warnings.map .str) := by
    refine Json.reportForm_arr_of_fixed fun item hi => ?_
    obtain ⟨warning, -, rfl⟩ := List.mem_map.mp hi
    rfl
  have policy : (Json.ofOption Json.str report.policy).reportForm =
      .ofOption .str report.policy := by
    cases report.policy with
    | none => rfl
    | some policy => rfl
  rw [← warnings, ← policy]
  rfl

/-- A report as it stands in an envelope. -/
def settled (report : Report) : Report :=
  { report with data := report.data.reportForm, error := report.error.map ErrorInfo.settled }

theorem textsOf?_map_str (texts : List RawText) :
    textsOf? (.arr (texts.map .str)) = some texts := by
  induction texts with
  | nil => rfl
  | cons text texts ih =>
    rw [textsOf?] at ih ⊢
    rw [List.map_cons, List.mapM_cons, ih]
    rfl

theorem reportForm_error (error : Option ErrorInfo) :
    (Json.ofOption ErrorInfo.toJson error).reportForm =
      .ofOption ErrorInfo.toJson (error.map ErrorInfo.settled) := by
  cases error with
  | none => rfl
  | some info => exact info.reportForm_toJson

/-- **A report survives its envelope.**  What is read of an envelope is the report that it was
written for, with data and the details of an error in the form that they have in an envelope. -/
theorem ofJson_toJson (report : Report) : ofJson report.toJson = .ok report.settled := by
  obtain ⟨ok, command, data, warnings, durationMs, policy, error⟩ := report
  rw [toJson_eq, reportForm_error, settled]
  dsimp only
  let about : Json.Fields := [("durationMs", .int durationMs), ("match", .ofOption .str policy)]
  let fields : Json.Fields := [("ok", .bool ok), ("command", .str command),
    ("data", data.reportForm), ("warnings", .arr (warnings.map .str)), ("meta", .obj about),
    ("error", .ofOption ErrorInfo.toJson (error.map ErrorInfo.settled))]
  have warned : provided fields [] "warnings" [] textsOf? = .ok warnings := by
    have field : Json.field? fields "warnings" = some (.arr (warnings.map .str)) := rfl
    simp only [provided, field, textsOf?_map_str]
  have chosen : provided about ["meta"] "match" none (optionalOf? textOf?) = .ok policy := by
    cases policy with
    | none => rfl
    | some policy => rfl
  have described : required fields [] ["meta"] fieldsOf? = .ok about := rfl
  have good : required fields [] ["ok"] truthOf? = .ok ok := rfl
  have named : required fields [] ["command"] textOf? = .ok command := rfl
  have timed : required about ["meta"] ["durationMs", "duration_ms"] integerOf? = .ok durationMs :=
    rfl
  have failed : (do
      let error ← provided fields [] "error" none (optionalOf? fieldsOf?)
      error.mapM errorOf) = .ok (error.map ErrorInfo.settled) := by
    rcases error with _ | ⟨type, message, _ | details⟩
    · rfl
    · rfl
    · rfl
  show ofJson (.obj fields) = _
  rcases given : provided fields [] "error" none (optionalOf? fieldsOf?) with fault | error'
  · rw [given] at failed
    cases failed
  · rw [given] at failed
    have failed : error'.mapM errorOf = .ok (error.map ErrorInfo.settled) := failed
    simp only [ofJson, described, given, good, named, warned, timed, chosen, failed, bind,
      Except.bind]
    rfl

/-- What is read of an envelope has the same envelope. -/
theorem toJson_settled (report : Report) : report.settled.toJson = report.toJson := by
  have error : (report.error.map ErrorInfo.settled).map ErrorInfo.settled =
      report.error.map ErrorInfo.settled := by
    rcases report.error with _ | info
    · rfl
    · exact congrArg some info.settled_settled
  rw [toJson_eq, toJson_eq, settled]
  simp only [Json.reportForm_reportForm, reportForm_error, error]

end Report

end KeywordQuery
