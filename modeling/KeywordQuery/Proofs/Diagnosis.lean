import KeywordQuery.Proofs.Reading

/-!
# One pass tells what is wrong with a text

A flag for a needed operand and the number of open groups are enough to word the fault of a text.
The reader, which calls itself for every group, words the same fault at the same place.

* `Complaint` — the wording of a fault with its place;
* `complaint?` — the complaint of the pass over the tokens of a text;
* `Progress.complaint?_eq_map` — the pass words the refusal of the tokens, from any state on;
* `complaint?_eq_parse` — the complaint of the pass is the fault of the reader.
-/

namespace KeywordQuery

namespace Query

/-- What is told of a fault: its message, and the position it names. -/
structure Complaint where
  message : String
  position : Nat
  deriving Repr, DecidableEq

/-- The complaint that words a fault of the reader. -/
def Complaint.ofFault (fault : ParseFault) : Complaint := ⟨fault.message, fault.position⟩

namespace Progress

/-- The complaint about a token that cannot be taken. -/
def complaintAt (progress : Progress) (lexeme : Lexeme) : Complaint :=
  let place := toString lexeme.start
  let found := Text.quote lexeme.text
  if progress.needsOperand then
    ⟨"Expected a term at position " ++ place ++ ", got " ++ found, lexeme.start⟩
  else if progress.depth = 0 then
    ⟨"Extra stuff at end of input at position " ++ place ++ ": " ++ found, lexeme.start⟩
  else ⟨"Expected ')' at position " ++ place, lexeme.start⟩

/-- The complaint about the end of a text of `stop` characters, if it may not end here. -/
def complaintAtEnd? (progress : Progress) (stop : Nat) : Option Complaint :=
  if progress.needsOperand then some ⟨"Unexpected end of input", stop⟩
  else if progress.depth = 0 then none
  else some ⟨"Expected ')' at position " ++ toString stop, stop⟩

/-- The first complaint about the tokens that follow, in a text of `stop` characters. -/
def complaint? (stop : Nat) (progress : Progress) : List Lexeme → Option Complaint
  | [] => progress.complaintAtEnd? stop
  | lexeme :: rest =>
    match progress.step (Token.ofText lexeme.text) with
    | .error _ => some (progress.complaintAt lexeme)
    | .ok progress => progress.complaint? stop rest

end Progress

/-- The complaint of the pass over the tokens of a text; none if the pass takes them all. -/
def complaint? (text : String) : Option Complaint :=
  Progress.complaint? text.length {} (lexemes text)

/-! ### Places of refusals -/

theorem faultAt_append (before after : List Lexeme) (stop : Nat) (wanted : Wanted) :
    faultAt (before ++ after) stop ⟨wanted, after.map (Token.ofText ·.text)⟩ =
      match after with
      | [] => ⟨wanted, none, stop⟩
      | lexeme :: _ => ⟨wanted, some lexeme.text, lexeme.start⟩ := by
  have reach : (before ++ after).drop ((before ++ after).length -
      (after.map (Token.ofText ·.text)).length) = after := by
    rw [List.length_append, List.length_map, Nat.add_sub_cancel, List.drop_left]
  unfold faultAt
  cases after with
  | nil => simp only [reach]
  | cons lexeme after => simp only [reach]

namespace Progress

/-- What is wanted where a token is refused depends on nothing but the state of the pass. -/
theorem wanted_of_step_error {progress : Progress} {token : Token} {wanted : Wanted}
    (h : progress.step token = .error wanted) :
    wanted = if progress.needsOperand then .term
      else if progress.depth = 0 then .finish else .close := by
  obtain ⟨needsOperand, depth⟩ := progress
  cases needsOperand with
  | true => cases token <;> simp_all [step]
  | false => cases depth <;> cases token <;> simp_all [step]

theorem complaintAt_eq_ofFault {progress : Progress} {lexeme : Lexeme} {wanted : Wanted}
    (h : progress.step (Token.ofText lexeme.text) = .error wanted) :
    progress.complaintAt lexeme = .ofFault ⟨wanted, some lexeme.text, lexeme.start⟩ := by
  rw [wanted_of_step_error h]
  obtain ⟨needsOperand, depth⟩ := progress
  cases needsOperand with
  | true => rfl
  | false => cases depth <;> rfl

theorem complaintAtEnd?_eq_map (progress : Progress) (stop : Nat) :
    progress.complaintAtEnd? stop =
      progress.wantedAtEnd.map fun wanted => .ofFault ⟨wanted, none, stop⟩ := by
  obtain ⟨needsOperand, depth⟩ := progress
  cases needsOperand with
  | true => rfl
  | false => cases depth <;> rfl

/-- **The pass words its refusals.**  From any state on, the complaint about the lexemes that
follow words the first refusal of their tokens, at the place it has among all lexemes. -/
theorem complaint?_eq_map (stop : Nat) (before after : List Lexeme) (progress : Progress) :
    progress.complaint? stop after =
      (progress.refusal? (after.map (Token.ofText ·.text))).map fun refusal =>
        .ofFault (faultAt (before ++ after) stop refusal) := by
  induction after generalizing before progress with
  | nil =>
    show progress.complaintAtEnd? stop = _
    rw [complaintAtEnd?_eq_map, List.map_nil, refusal?, Option.map_map]
    congr 1
    funext wanted
    exact congrArg Complaint.ofFault (faultAt_append before [] stop wanted).symm
  | cons lexeme rest ih =>
    rw [List.map_cons, complaint?, refusal?]
    rcases h : progress.step (Token.ofText lexeme.text) with wanted | progress'
    · have place := faultAt_append before (lexeme :: rest) stop wanted
      rw [List.map_cons] at place
      simp only [Option.map_some, place, complaintAt_eq_ofFault h]
    · have more := ih (before ++ [lexeme]) progress'
      rw [List.append_assoc, List.singleton_append] at more
      exact more

end Progress

/-- **One pass, one fault.**  The complaint of the pass over a text is the fault of the reader,
message and position, and there is none exactly if the reader finds a query. -/
theorem complaint?_eq_parse (policy : MatchPolicy) (text : String) :
    complaint? text =
      match parse policy text with
      | .ok _ => none
      | .error fault => some ⟨fault.message, fault.position⟩ := by
  have worded := Progress.complaint?_eq_map text.length [] (lexemes text) {}
  rw [List.nil_append] at worded
  have agreed := refusal?_eq_ofTokens policy (tokens text)
  rw [complaint?, worded, parse]
  show Option.map _ (refusal? (tokens text)) = _
  rw [agreed]
  rcases ofTokens policy (tokens text) with refusal | query
  · rfl
  · rfl

/-- The group is closed where `and` needs another operand. -/
example : complaint? "(red and) or blue" =
    some ⟨"Expected a term at position 8, got ')'", 8⟩ := by
  decide +kernel

end Query

end KeywordQuery
