import Mathlib
import KeywordQuery.Proofs.FeedLines
import KeywordQuery.Proofs.ReaderLimits

/-!
# Faults and the lines they name

A feed that cannot be read fails at its first line that is no post.  The message of the fault starts
with the number of that line, unless the line is JSON that exceeds a limit of the reader: an integer
in it is too long, or its lists and objects are nested too deep.  That fault is one of the reader,
and its message does not name the line.

* `RawText.IsReadable` — the lines that are blank or give a post;
* `FeedFault.NamesLine` — the faults whose message starts with the number of their line, which
  `FeedFault.namesLine_iff` says are those of the line alone;
* `RawText.Exceeds` — the lines with too many digits in a row, or with too many brackets opened;
* `readLine_long_identifier`, `readLine_deep_field` — posts that are refused for their identifier,
  or for a field that they need not have; `deep_field_not_named` says that every limit has such;
* `Feed.exists_place`, `Feed.fault_eq_none_iff` — the line at which a feed fails, if it does;
* `fault_names_line` — where a feed fails and what its fault names.
-/

namespace KeywordQuery

/-! ### Lines that can be read -/

namespace RawText

/-- The line is blank or gives a post. -/
def IsReadable (nesting : Nat) (line : RawText) : Prop :=
  line.isBlankLine = true ∨ ∃ post, Post.FromLine nesting line post

/-- The line exceeds a limit of the reader: it has so many digits in a row, more than are read, or
it opens more brackets than may stand inside of one another. -/
def Exceeds (nesting : Nat) (line : RawText) : JsonFault → Prop
  | .tooManyDigits count => Json.maxDigits < count ∧ Json.HoldsDigits count line.toUnits
  | .tooDeep _ => nesting < Json.openings line.toUnits
  | _ => False

variable {nesting : Nat} {line : RawText}

theorem stripped_isInfix (line : RawText) : line.stripped.toUnits <:+: line.toUnits := by
  rw [toUnits_stripped]
  exact Text.dropEnds_isInfix isBlankUnit _

/-- An object that is no post is neither blank nor the text of a post. -/
theorem not_isReadable {cause : LineFault} (opens : line.opensObject = true)
    (failed : Post.ofJsonLine nesting line.stripped = .error cause) : ¬line.IsReadable nesting := by
  rintro (blank | ⟨post, from'⟩)
  · rw [opensObject, toUnits_stripped, isBlankLine_iff.mp blank] at opens
    exact absurd opens (by decide)
  · cases from' with
    | object _ read =>
      rw [failed] at read
      cases read
    | plain plain =>
      rw [opens] at plain
      cases plain

theorem read_of_ofJsonLine {text : RawText} {cause : JsonFault}
    (h : Post.ofJsonLine nesting text = .error (.notJson cause)) :
    Json.read nesting text = .error cause := by
  rw [Post.ofJsonLine] at h
  split at h
  · next fault read =>
    obtain rfl : fault = cause := by simpa using h
    exact read
  · split at h
    · cases h
    · cases h
  · cases h

/-- An object that is refused for a limit of the reader exceeds it. -/
theorem exceeds_of_ofJsonLine {cause : JsonFault} (limit : cause.isLimit = true)
    (h : Post.ofJsonLine nesting line.stripped = .error (.notJson cause)) :
    line.Exceeds nesting cause := by
  have read := read_of_ofJsonLine h
  cases cause with
  | tooManyDigits count =>
    obtain ⟨long, digits⟩ := Json.holdsDigits_of_read read
    exact ⟨long, digits.mono line.stripped_isInfix⟩
  | tooDeep group =>
    exact Nat.lt_of_lt_of_le (Json.lt_openings_of_read read)
      line.stripped_isInfix.sublist.countP_le
  | _ => cases limit

end RawText

theorem Feed.Covers.isReadable {nesting first : Nat} {read : List RawText} {feed : Feed}
    (h : Covers nesting first read feed) : ∀ line ∈ read, line.IsReadable nesting := by
  intro line hl
  by_cases blank : line.isBlankLine = true
  · exact .inl blank
  · have each : List.Forall₂ (fun line post => (∃ post, Post.FromLine nesting line post) ∧
        Post.FromLine nesting line post) (read.filter fun line => !line.isBlankLine) feed.posts :=
      h.posts.imp fun line post from' => ⟨⟨post, from'⟩, from'⟩
    have all := ((List.forall₂_and_left _ _).mp each).1
    exact .inr (all line (List.mem_filter.mpr ⟨hl, by simp [blank]⟩))

/-! ### Messages -/

namespace FeedFault

variable (fault : FeedFault)

/-- The message of the fault starts with the number of its line. -/
def NamesLine : Prop := ("Line " ++ toString fault.line ++ ": ").toList <+: fault.message.toList

/-- The fault of a line that exceeds a limit is worded by the reader. -/
theorem exists_limit (h : fault.isItemFault = false) :
    ∃ cause : JsonFault, cause.isLimit = true ∧ fault.cause = .notJson cause ∧
      fault.message = cause.message := by
  rw [isItemFault] at h
  split at h
  · next cause limited =>
    have limit : cause.isLimit = true := by simpa using h
    exact ⟨cause, limit, limited, by simp only [message, limited, if_pos limit]⟩
  · cases h

theorem message_of_isItemFault (h : fault.isItemFault = true) :
    ∃ rest, fault.message = "Line " ++ toString fault.line ++ ": " ++ rest := by
  rw [isItemFault] at h
  rw [message]
  split
  · next cause limited =>
    rw [limited] at h
    rw [if_neg (by simpa using h)]
    exact ⟨"invalid JSON (" ++ (cause.message ++ ")"), by
      rw [String.append_assoc, String.append_assoc]⟩
  · exact ⟨_, rfl⟩
  · next problems _ =>
    exact ⟨"not a post (" ++ (toString problems ++ " validation errors)"), by
      rw [String.append_assoc, String.append_assoc]⟩

theorem head?_append {s : String} {c : Char} (h : s.toList.head? = some c) (t : String) :
    (s ++ t).toList.head? = some c := by
  rw [String.toList_append, List.head?_append, h]
  rfl

/-- The reader words its limits without a line. -/
theorem head?_message_of_isLimit {cause : JsonFault} (h : cause.isLimit = true) :
    cause.message.toList.head? ≠ some 'L' := by
  cases cause with
  | tooManyDigits count =>
    have first : (JsonFault.tooManyDigits count).message.toList.head? = some 'E' :=
      head?_append (head?_append (by decide) _) _
    rw [first]
    decide
  | tooDeep group =>
    have first : (JsonFault.tooDeep group).message.toList.head? = some 'm' :=
      head?_append (head?_append (by decide) _) _
    rw [first]
    decide
  | _ => cases h

/-- The faults that name their line are those of the line alone. -/
theorem namesLine_iff : fault.NamesLine ↔ fault.isItemFault = true := by
  constructor
  · intro ⟨rest, names⟩
    rw [← Bool.not_eq_false]
    intro other
    obtain ⟨cause, limit, -, message⟩ := fault.exists_limit other
    have first : ("Line " ++ toString fault.line ++ ": ").toList.head? = some 'L' :=
      head?_append (head?_append (by decide) _) _
    apply head?_message_of_isLimit limit
    rw [← message, ← names, List.head?_append, first]
    rfl
  · intro item
    obtain ⟨rest, message⟩ := fault.message_of_isItemFault item
    rw [NamesLine, message, String.toList_append (t := rest)]
    exact List.prefix_append _ _

end FeedFault

/-! ### Lines that exceed a limit -/

/-- An object whose first field is refused by the reader of JSON. -/
theorem readLine_refused {nesting : Nat} {line : RawText} {fault : JsonFault}
    {units : List TextUnit} (braces : line.toUnits = .char '\x7b' :: (units ++ [.char '\x7d']))
    (refused : ∀ text : RawText, text.toUnits = line.toUnits →
      Json.read nesting text = .error fault) :
    readLine nesting line = .error (.notJson fault) := by
  have stripped : line.stripped.toUnits = line.toUnits := by
    rw [RawText.toUnits_stripped, braces]
    exact Text.dropEnds_cons_concat (by decide) (by decide) _
  have opens : line.opensObject = true := by
    rw [RawText.opensObject, stripped, braces]
    rfl
  rw [readLine_of_object opens, Post.ofJsonLine, refused _ stripped]
  rfl

/-- A post whose identifier is an integer that is too long. -/
theorem readLine_long_identifier {digits : List Char} (h : Json.IsLongInteger digits)
    (nesting : Nat) :
    readLine (nesting + 1)
        (.ofString ("\x7b\"id\": " ++ String.ofList digits ++ ", \"text\": \"a\"\x7d")) =
      .error (.notJson (.tooManyDigits digits.length)) := by
  generalize eq : RawText.ofString _ = line
  have units : line.toUnits = .char '\x7b' :: (Json.encodeString "id" ++ .char ':' :: .char ' ' ::
      (digits.map .char ++ RawText.unitsOf ", \"text\": \"a\"\x7d")) := by
    rw [← eq, RawText.toUnits_ofString, RawText.unitsOf, String.toList_append, String.toList_append,
      String.toList_ofList (l := digits), List.map_append, List.map_append, List.append_assoc]
    rfl
  have braces : line.toUnits = .char '\x7b' :: (Json.encodeString "id" ++ .char ':' ::
      .char ' ' :: (digits.map .char ++ RawText.unitsOf ", \"text\": \"a\"") ++
        [.char '\x7d']) := by
    rw [units, List.append_assoc, List.cons_append, List.cons_append, List.append_assoc]
    rfl
  exact readLine_refused braces fun text same =>
    h.read_eq (by decide) (same.trans units) nesting

/-- A post with a field of lists inside of one another, as many as may be nested, and so one too
many inside of an object. -/
def deepLine (nesting : Nat) : String :=
  "\x7b\"x\": " ++ String.ofList (List.replicate nesting '[' ++ List.replicate nesting ']') ++
    ", \"text\": \"a\"\x7d"

theorem readLine_deep_field (nesting : Nat) :
    readLine (nesting + 1) (.ofString (deepLine (nesting + 1))) =
      .error (.notJson (.tooDeep .array)) := by
  generalize eq : RawText.ofString _ = line
  let after : List TextUnit := List.replicate (nesting + 1) (.char ']') ++
    RawText.unitsOf ", \"text\": \"a\""
  have braces : line.toUnits = .char '\x7b' :: (Json.encodeString "x" ++ .char ':' :: .char ' ' ::
      (List.replicate (nesting + 1) (.char '[') ++ after) ++ [.char '\x7d']) := by
    rw [← eq, deepLine, RawText.toUnits_ofString, RawText.unitsOf, String.toList_append,
      String.toList_append, String.toList_ofList (l := _ ++ _)]
    simp only [List.map_append, List.map_replicate, List.append_assoc, List.cons_append, after]
    rfl
  have units : line.toUnits = .char '\x7b' :: (Json.encodeString "x" ++ .char ':' :: .char ' ' ::
      (List.replicate (nesting + 1) (.char '[') ++ (after ++ [.char '\x7d']))) := by
    rw [braces, List.append_assoc, List.cons_append, List.cons_append, List.append_assoc]
  exact readLine_refused braces fun text same => Json.read_deep nesting (same.trans units)

/-! ### Feeds that fail -/

/-- The place of a fault: it is that of the first line that is neither blank nor a post. -/
theorem Feed.exists_place {nesting : Nat} {lines : List RawText} {fault : FeedFault}
    (h : (Feed.ofRawLines nesting lines).fault = some fault) :
    ∃ before line after, lines = before ++ line :: after ∧ fault.line = before.length + 1 ∧
      (∀ earlier ∈ before, earlier.IsReadable nesting) ∧ ¬line.IsReadable nesting ∧
      Post.ofJsonLine nesting line.stripped = .error fault.cause := by
  obtain ⟨before, covers, ended⟩ := Feed.covers_ofLinesFrom nesting 1 lines
  have covers : Feed.Covers nesting 1 before (Feed.ofRawLines nesting lines) := covers
  rw [show (Feed.ofLinesFrom nesting 1 lines).fault = some fault from h] at ended
  obtain ⟨line, after, split, place, opens, failed⟩ := ended
  exact ⟨before, line, after, split, by omega, covers.isReadable,
    RawText.not_isReadable opens failed, failed⟩

theorem Feed.fault_eq_none_iff {nesting : Nat} {lines : List RawText} :
    (Feed.ofRawLines nesting lines).fault = none ↔ ∀ line ∈ lines, line.IsReadable nesting := by
  constructor
  · intro none
    obtain ⟨read, covers, ended⟩ := Feed.covers_ofLinesFrom nesting 1 lines
    rw [show (Feed.ofLinesFrom nesting 1 lines).fault = Option.none from none] at ended
    obtain rfl : read = lines := ended
    exact covers.isReadable
  · intro readable
    cases h : (Feed.ofRawLines nesting lines).fault with
    | none => rfl
    | some fault =>
      obtain ⟨before, line, after, rfl, -, -, unreadable, -⟩ := Feed.exists_place h
      exact absurd (readable line (by simp)) unreadable

/-- For every limit on nesting there is a line that would be a post without it, and the fault of
which does not name the line. -/
theorem deep_field_not_named (nesting : Nat) :
    let fault : FeedFault := ⟨1, .notJson (.tooDeep .array)⟩
    (Feed.ofLines (nesting + 1) [deepLine (nesting + 1)]).fault = some fault ∧
      fault.isItemFault = false ∧ ¬fault.NamesLine := by
  intro fault
  have feed : (Feed.ofLines (nesting + 1) [deepLine (nesting + 1)]).fault = some fault :=
    congrArg Feed.fault (Feed.ofLinesFrom_of_fault (readLine_deep_field nesting) 1 [])
  have other : fault.isItemFault = false := rfl
  refine ⟨feed, other, fun names => ?_⟩
  rw [fault.namesLine_iff.mp names] at other
  cases other

/-- **Where a feed fails and what its fault names.**  A feed can be read if all of its lines are
blank or posts.  Otherwise it fails at the first line that is neither.  The fault is one of that
line, and its message starts with the number of the line, unless the line exceeds a limit of the
reader: it holds an integer that is too long, or lists and objects that are nested too deep. -/
theorem fault_names_line (nesting : Nat) (lines : List RawText) :
    ((Feed.ofRawLines nesting lines).fault = none ↔ ∀ line ∈ lines, line.IsReadable nesting) ∧
    ∀ fault : FeedFault, (Feed.ofRawLines nesting lines).fault = some fault →
      ∃ before line after, lines = before ++ line :: after ∧ fault.line = before.length + 1 ∧
        (∀ earlier ∈ before, earlier.IsReadable nesting) ∧ ¬line.IsReadable nesting ∧
        ((fault.isItemFault = true ∧ fault.NamesLine) ∨
          (fault.isItemFault = false ∧ ¬fault.NamesLine ∧ ∃ cause : JsonFault,
            fault.cause = .notJson cause ∧ fault.message = cause.message ∧
              line.Exceeds nesting cause)) := by
  refine ⟨Feed.fault_eq_none_iff, fun fault h => ?_⟩
  obtain ⟨before, line, after, split, place, readable, unreadable, failed⟩ := Feed.exists_place h
  refine ⟨before, line, after, split, place, readable, unreadable, ?_⟩
  cases item : fault.isItemFault with
  | true => exact .inl ⟨rfl, fault.namesLine_iff.mpr item⟩
  | false =>
    obtain ⟨cause, limit, limited, message⟩ := fault.exists_limit item
    rw [limited] at failed
    have exceeds := RawText.exceeds_of_ofJsonLine limit failed
    refine .inr ⟨rfl, fun names => ?_, cause, limited, message, exceeds⟩
    rw [fault.namesLine_iff.mp names] at item
    cases item

/-- The second line counts, although it is blank. -/
theorem missing_text_named :
    let lines := ["a", "", "\x7b\"text\": null\x7d", "b"]
    let fault : FeedFault := ⟨3, .notPost 1⟩
    (Feed.ofLines 1000 lines).fault = some fault ∧ fault.NamesLine := by
  intro lines fault
  have feed : (Feed.ofLines 1000 lines).fault = some fault := by cbv
  obtain ⟨-, faults⟩ := fault_names_line 1000 (lines.map .ofString)
  obtain ⟨-, -, -, -, -, -, -, ⟨-, names⟩ | ⟨item, -⟩⟩ := faults fault feed
  · exact ⟨feed, names⟩
  · cases item

/-- One digit more than an integer may have. -/
theorem long_identifier_not_named :
    let line := "\x7b\"id\": " ++ String.ofList (List.replicate 4301 '1') ++ ", \"text\": \"a\"\x7d"
    let fault : FeedFault := ⟨1, .notJson (.tooManyDigits 4301)⟩
    (Feed.ofLines 1000 [line]).fault = some fault ∧
      fault.isItemFault = false ∧ ¬fault.NamesLine := by
  intro line fault
  have count : (List.replicate 4301 '1').length = 4301 := List.length_replicate
  have long : Json.IsLongInteger (List.replicate 4301 '1') := by
    refine ⟨fun c hc => ?_, ?_, by rw [count]; decide⟩
    · rw [(List.mem_replicate.mp hc).2]
      decide
    · rw [List.head?_replicate]
      decide
  have read := readLine_long_identifier long 999
  rw [count] at read
  have feed : (Feed.ofLines 1000 [line]).fault = some fault :=
    congrArg Feed.fault (Feed.ofLinesFrom_of_fault read 1 [])
  have other : fault.isItemFault = false := rfl
  refine ⟨feed, other, fun names => ?_⟩
  rw [fault.namesLine_iff.mp names] at other
  cases other

end KeywordQuery
