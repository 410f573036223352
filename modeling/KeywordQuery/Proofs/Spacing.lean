import KeywordQuery.Proofs.Outcomes
import KeywordQuery.Proofs.Scanning

/-!
# Spacing does not matter

A text is read through its tokens alone: wherever they stand and whatever blanks are between them,
the same tokens make the same query, or are refused for the same reason at the same one of them.
Operands are joined by spaces, so the tokens of operands are those of the text that they spell
together, and it does not matter how tokens are spread over operands.

* `placeAt` — the place of the token with a given number;
* `faultAt_eq`, `parse_of_refusal` — the place of a fault by the number of the refused token;
* `ReadAlike` — two results that come of reading two texts;
* `spelled_joinOperands` — the tokens of joined operands;
* `reading_depends_on_tokens` — texts and operands with the same tokens are read alike.
-/

namespace KeywordQuery

/-- The position of the token with the given number, or the end of the text after the last one. -/
def placeAt (text : String) (k : Nat) : Nat :=
  ((lexemes text)[k]?.map (·.start)).getD text.length

namespace Query

/-! ### Faults by the number of a token -/

/-- A refusal that reaches to the end stands at the token whose number tells what comes before. -/
theorem faultAt_eq (found : List Lexeme) (stop : Nat) (refusal : Refusal) :
    let k := found.length - refusal.rest.length
    faultAt found stop refusal =
      ⟨refusal.wanted, found[k]?.map (·.text), (found[k]?.map (·.start)).getD stop⟩ := by
  intro k
  rw [← List.head?_drop, faultAt]
  rcases found.drop k with _ | ⟨lexeme, after⟩
  · rfl
  · rfl

theorem parse_of_refusal {policy : MatchPolicy} {text : String} {refusal : Refusal}
    (h : ofTokens policy (tokens text) = .error refusal) :
    let k := (spelled text).length - refusal.rest.length
    parse policy text = .error ⟨refusal.wanted, (spelled text)[k]?, placeAt text k⟩ := by
  intro k
  have number : k = (lexemes text).length - refusal.rest.length :=
    congrArg (· - refusal.rest.length) (List.length_map _)
  rw [parse, h]
  simp only [faultAt_eq, ← number, spelled, placeAt, List.getElem?_map]

theorem parse_of_query {policy : MatchPolicy} {text : String} {query : Query}
    (h : ofTokens policy (tokens text) = .ok query) : parse policy text = .ok query := by
  rw [parse, h]

theorem tokens_eq_of_spelled {text text' : String} (h : spelled text = spelled text') :
    tokens text = tokens text' := by
  rw [tokens_eq_map_spelled, tokens_eq_map_spelled, h]

/-! ### Results of two readings -/

/-- Two results come of reading two texts under a policy.  Either both texts are the same query, and
the results are the same; or both are refused, for the same reason and at the token with the same
number, and each result blames the fault at the place of that token in its own text. -/
inductive ReadAlike {ε α : Type} (policy : MatchPolicy) (text text' : String)
    (blame : ParseFault → ε) : Except ε α → Except ε α → Prop where
  | found {query : Query} (read : parse policy text = .ok query)
      (read' : parse policy text' = .ok query) (result : Except ε α) :
      ReadAlike policy text text' blame result result
  | refused {wanted : Wanted} {token : Option String} {k : Nat}
      (stands : (spelled text)[k]? = token) (stands' : (spelled text')[k]? = token)
      (read : parse policy text = .error ⟨wanted, token, placeAt text k⟩)
      (read' : parse policy text' = .error ⟨wanted, token, placeAt text' k⟩) :
      ReadAlike policy text text' blame (.error (blame ⟨wanted, token, placeAt text k⟩))
        (.error (blame ⟨wanted, token, placeAt text' k⟩))

/-- Texts with the same tokens are read alike, and so is whatever goes on from the query that is
read and passes a fault on. -/
theorem readAlike_of_spelled {ε α : Type} {policy : MatchPolicy} {text text' : String}
    (h : spelled text = spelled text') {blame : ParseFault → ε}
    {result result' : Except ε α}
    (passed : ∀ fault, parse policy text = .error fault → result = .error (blame fault))
    (passed' : ∀ fault, parse policy text' = .error fault → result' = .error (blame fault))
    (same : ∀ query, parse policy text = .ok query → parse policy text' = .ok query →
      result = result') :
    ReadAlike policy text text' blame result result' := by
  rcases read : ofTokens policy (tokens text) with refusal | query
  · have read' : ofTokens policy (tokens text') = .error refusal := by
      rw [← tokens_eq_of_spelled h, read]
    have fault := parse_of_refusal read
    have fault' := parse_of_refusal read'
    rw [← h] at fault'
    rw [passed _ fault, passed' _ fault']
    exact .refused rfl (by rw [h]) fault fault'
  · have read' : ofTokens policy (tokens text') = .ok query := by
      rw [← tokens_eq_of_spelled h, read]
    rw [same query (parse_of_query read) (parse_of_query read')]
    exact .found (parse_of_query read) (parse_of_query read') result'

end Query

/-! ### Operands -/

namespace Command

open Query (ReadAlike readAlike_of_spelled)

/-- **Joining operands.**  A space ends every word, so no token runs from one operand into the next
one, and the tokens of an operand are scanned as if it stood alone. -/
theorem spelled_joinOperands (operands : List String) :
    spelled (joinOperands operands) = operands.flatMap spelled := by
  induction operands with
  | nil => exact lexemeTexts_nil
  | cons operand others ih =>
    cases others with
    | nil => rw [joinOperands, String.intercalate_singleton, List.flatMap_singleton]
    | cons next others =>
      have text : (joinOperands (operand :: next :: others)).toList =
          operand.toList ++ ' ' :: (joinOperands (next :: others)).toList := by
        simp [joinOperands, String.intercalate_cons_cons]
      rw [spelled_eq, text, lexemeTexts_append_blank (by decide), List.flatMap_cons, ← ih]
      rfl

/-- **Reading depends on the tokens alone.**  Texts with the same tokens are the same query, or are
refused for the same reason at the same token.  The tokens of joined operands are those of the
operands in turn, so operands that hold the same tokens are read alike, however these are spread
over them, and both commands that take a query answer alike. -/
theorem reading_depends_on_tokens :
    (∀ policy text text', spelled text = spelled text' →
      ReadAlike policy text text' id (Query.parse policy text) (Query.parse policy text')) ∧
    (∀ operands, spelled (joinOperands operands) = operands.flatMap spelled) ∧
    ∀ settings operands operands', operands.flatMap spelled = operands'.flatMap spelled →
      let alike : Except Failure Json → Except Failure Json → Prop :=
        ReadAlike settings.policy (joinOperands operands) (joinOperands operands') .ofParseFault
      ReadAlike settings.policy (joinOperands operands) (joinOperands operands') id
        (Query.parse settings.policy (joinOperands operands))
        (Query.parse settings.policy (joinOperands operands')) ∧
      alike (parseCommand settings operands).data (parseCommand settings operands').data ∧
      ∀ nesting countOnly input,
        alike (matchCommand (m := Id) nesting settings operands countOnly input).data
          (matchCommand (m := Id) nesting settings operands' countOnly input).data := by
  have texts (policy : MatchPolicy) (text text' : String) (h : spelled text = spelled text') :
      ReadAlike policy text text' id (Query.parse policy text) (Query.parse policy text') :=
    readAlike_of_spelled h (fun _ read => read) (fun _ read => read)
      fun query read read' => by rw [read, read']
  refine ⟨texts, spelled_joinOperands, fun settings operands operands' h => ?_⟩
  have joined : spelled (joinOperands operands) = spelled (joinOperands operands') := by
    rw [spelled_joinOperands, spelled_joinOperands, h]
  refine ⟨texts _ _ _ joined, ?_, fun nesting countOnly input => ?_⟩
  · refine readAlike_of_spelled joined (fun _ read => ?_) (fun _ read => ?_)
      fun query read read' => ?_
    · rw [parseCommand_of_fault read]
    · rw [parseCommand_of_fault read]
    · rw [parseCommand_of_query read, parseCommand_of_query read']
  · refine readAlike_of_spelled joined (fun _ read => ?_) (fun _ read => ?_)
      fun query read read' => ?_
    · exact congrArg Result.data (matchCommand_of_fault (m := Id) read nesting countOnly input)
    · exact congrArg Result.data (matchCommand_of_fault (m := Id) read nesting countOnly input)
    · rw [(data_matchCommand_of_query read nesting countOnly input).1,
        (data_matchCommand_of_query read' nesting countOnly input).1]

/-- A group that ends after `and` is refused at its last token, wherever that stands; the same
tokens in other operands are refused there as well. -/
theorem unfinished_group_alike :
    let text := "red or (blue and)"
    let text' := " red\tor( blue  and ) "
    spelled text = spelled text' ∧
    ReadAlike .word text text' id (Query.parse .word text) (Query.parse .word text') ∧
    ["red", "or (blue", "", "and)"].flatMap spelled =
      ["red or", " ( ", "blue and )"].flatMap spelled ∧
    ReadAlike .word "red or (blue  and)" "red or  (  blue and )" .ofParseFault
      (parseCommand { policy := .word } ["red", "or (blue", "", "and)"]).data
      (parseCommand { policy := .word } ["red or", " ( ", "blue and )"]).data := by
  intro text text'
  obtain ⟨texts, -, operands⟩ := reading_depends_on_tokens
  have same : spelled text = spelled text' := by decide +kernel
  have spread : ["red", "or (blue", "", "and)"].flatMap spelled =
      ["red or", " ( ", "blue and )"].flatMap spelled := by decide +kernel
  exact ⟨same, texts .word text text' same, spread,
    (operands { policy := .word } _ _ spread).2.1⟩

end Command

end KeywordQuery
