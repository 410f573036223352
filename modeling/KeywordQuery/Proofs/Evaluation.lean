import KeywordQuery.Query.Eval

/-!
# What an evaluation asks

Evaluation goes through every chain of one connective in a loop.  It comes to what plain recursion
from left to right comes to: the same answer or fault, after the same questions in the same order,
also where an answer depends on the questions before it.

* `Hearing` — an answer or a fault, the state that the one asked is left in, and the leaves asked;
* `hear` — evaluation by plain recursion;
* `evalTreeM_run` — in any state, a query comes to the answer and the state of its hearing;
* `hear_view` — a hearing seen by someone who keeps another record of it;
* `evalM_hears` — evaluation and plain recursion agree, for items and for whatever else is asked.
-/

namespace KeywordQuery

/-- An answer or a fault, the state after the questions that were asked, and the leaves asked, in
order. -/
structure Hearing (σ ε : Type) where
  answer : Except ε Bool
  state : σ
  asked : List (String × MatchPolicy)

namespace Hearing

variable {σ τ ε : Type}

/-- Go on with the next operand if the answer of the first is `wanted`; every other answer, and
every fault, is the outcome. -/
def andThen (wanted : Bool) (first : Hearing σ ε) (next : σ → Hearing σ ε) : Hearing σ ε :=
  match first.answer with
  | .ok value =>
    if value = wanted then
      let second := next first.state
      { second with asked := first.asked ++ second.asked }
    else first
  | .error _ => first

/-- The hearing for an observer whose state is made from the state and from all that was asked,
`before` the hearing and in it. -/
def view (f : σ → List (String × MatchPolicy) → τ) (before : List (String × MatchPolicy))
    (hearing : Hearing σ ε) : Hearing τ ε :=
  { hearing with state := f hearing.state (before ++ hearing.asked) }

theorem andThen_view (f : σ → List (String × MatchPolicy) → τ)
    (before : List (String × MatchPolicy)) (wanted : Bool) (first : Hearing σ ε)
    {next : σ → Hearing σ ε} {next' : τ → Hearing τ ε}
    (h : ∀ s asked, next' (f s asked) = (next s).view f asked) :
    (first.view f before).andThen wanted next' = (first.andThen wanted next).view f before := by
  obtain ⟨answer, s, asked⟩ := first
  cases answer with
  | error fault => rfl
  | ok value =>
    by_cases going : value = wanted
    · simp only [andThen, view, going, if_true, h, List.append_assoc]
    · simp only [andThen, view, going, if_false]

end Hearing

/-- The answer of an item to a leaf; an item has no state. -/
def Item.answering (item : Item) (term : String) (policy : MatchPolicy) :
    ExceptT ItemFault (StateM Unit) Bool :=
  ExceptT.mk (pure (item.holds term policy))

namespace Query

section

variable {σ τ ε : Type}

/-- Evaluation by plain recursion.  A leaf is asked, a negation turns the answer of its child, and
the right side of a connective is heard only after a left side that was true, for `and`, or false,
for `or`. -/
def hear (ask : String → MatchPolicy → ExceptT ε (StateM σ) Bool) :
    Query → σ → Hearing σ ε
  | .word term policy, s =>
    let (answer, s') := (ask term policy).run.run s
    ⟨answer, s', [(term, policy)]⟩
  | .not child, s =>
    let heard := child.hear ask s
    { heard with answer := heard.answer.map (!·) }
  | .join .and left right, s => (left.hear ask s).andThen true (right.hear ask)
  | .join .or left right, s => (left.hear ask s).andThen false (right.hear ask)

/-- The same questions with a record of every leaf asked. -/
def recorded (ask : String → MatchPolicy → ExceptT ε (StateM σ) Bool) (term : String)
    (policy : MatchPolicy) : ExceptT ε (StateM (σ × List (String × MatchPolicy))) Bool :=
  ExceptT.mk fun (s, record) =>
    let (answer, s') := (ask term policy).run.run s
    (answer, s', record ++ [(term, policy)])

theorem hear_join (ask : String → MatchPolicy → ExceptT ε (StateM σ) Bool) (op : Connective)
    (left right : Query) (s : σ) :
    (join op left right).hear ask s =
      (left.hear ask s).andThen (!op.decisive) (right.hear ask) := by
  cases op with
  | and => rfl
  | or => rfl

/-! ### Evaluation in a state -/

theorem run_bind_ok {x : ExceptT ε (StateM σ) Bool} {k : Bool → ExceptT ε (StateM σ) Bool}
    {s s' : σ} {value : Bool} (h : x.run.run s = (.ok value, s')) :
    (x >>= k).run.run s = (k value).run.run s' := by
  simp only [ExceptT.run_bind, StateT.run_bind, h]
  rfl

theorem run_bind_error {x : ExceptT ε (StateM σ) Bool} {k : Bool → ExceptT ε (StateM σ) Bool}
    {s s' : σ} {fault : ε} (h : x.run.run s = (.error fault, s')) :
    (x >>= k).run.run s = (.error fault, s') := by
  simp only [ExceptT.run_bind, StateT.run_bind, h]
  rfl

/-- Node by node, a query comes to the answer and to the state of its hearing. -/
theorem evalTreeM_run (ask : String → MatchPolicy → ExceptT ε (StateM σ) Bool) (query : Query)
    (s : σ) :
    (query.evalTreeM ask).run.run s = ((query.hear ask s).answer, (query.hear ask s).state) := by
  induction query generalizing s with
  | word term policy => rfl
  | not child ih =>
    rcases hc : child.hear ask s with ⟨answer, s', asked⟩
    have heard := ih s
    rw [hc] at heard
    rw [evalTreeM, hear, hc]
    cases answer with
    | error fault => exact run_bind_error heard
    | ok value => exact run_bind_ok heard
  | join op left right ihl ihr =>
    rcases hl : left.hear ask s with ⟨answer, s', asked⟩
    have heard := ihl s
    rw [hl] at heard
    rw [evalTreeM, hear_join, hl]
    cases answer with
    | error fault => exact run_bind_error heard
    | ok value =>
      rw [run_bind_ok heard]
      cases op with
      | and =>
        cases value with
        | false => rfl
        | true => exact ihr s'
      | or =>
        cases value with
        | false => exact ihr s'
        | true => rfl

/-! ### Two observers -/

/-- If one observer makes its state from the state of another and from what was asked, it hears
the same answer to the same questions. -/
theorem hear_view (f : σ → List (String × MatchPolicy) → τ)
    {ask : String → MatchPolicy → ExceptT ε (StateM σ) Bool}
    {ask' : String → MatchPolicy → ExceptT ε (StateM τ) Bool}
    (h : ∀ term policy s asked, (ask' term policy).run.run (f s asked) =
      (((ask term policy).run.run s).1,
        f ((ask term policy).run.run s).2 (asked ++ [(term, policy)])))
    (query : Query) (s : σ) (asked : List (String × MatchPolicy)) :
    query.hear ask' (f s asked) = (query.hear ask s).view f asked := by
  induction query generalizing s asked with
  | word term policy =>
    simp only [hear, h]
    rfl
  | not child ih =>
    simp only [hear, ih]
    rfl
  | join op left right ihl ihr =>
    rw [hear_join, hear_join, ihl, Hearing.andThen_view]
    exact ihr

theorem hear_recorded (ask : String → MatchPolicy → ExceptT ε (StateM σ) Bool) (query : Query)
    (s : σ) (record : List (String × MatchPolicy)) :
    query.hear (recorded ask) (s, record) = (query.hear ask s).view Prod.mk record :=
  hear_view Prod.mk (fun _ _ _ _ => rfl) query s record

/-! ### Items -/

theorem run_askRecorded (item : Item) (term : String) (policy : MatchPolicy)
    (record : List String) :
    (askRecorded item term policy).run.run record = (item.holds term policy, record ++ [term]) := by
  rcases h : item.holds term policy with fault | value
  · simp [askRecorded, h]
    rfl
  · simp [askRecorded, h]
    rfl

theorem hear_askRecorded (item : Item) (query : Query) :
    query.hear (askRecorded item) [] =
      (query.hear item.answering ()).view (fun _ asked => asked.map (·.1)) [] := by
  refine hear_view (fun _ asked => asked.map (·.1)) (fun term policy s asked => ?_) query () []
  rw [run_askRecorded, List.map_append]
  rfl

theorem evalTreeM_holds (item : Item) (query : Query) :
    query.evalTreeM item.holds = (query.hear item.answering ()).answer := by
  induction query with
  | word term policy => rfl
  | not child ih =>
    rw [evalTreeM, hear, ih]
    rcases (child.hear item.answering ()).answer with fault | value
    · rfl
    · rfl
  | join op left right ihl ihr =>
    rw [evalTreeM, hear_join, ihl]
    rcases hl : left.hear item.answering () with ⟨fault | value, s, asked⟩
    · rfl
    · cases op with
      | and =>
        cases value with
        | false => rfl
        | true => exact ihr
      | or =>
        cases value with
        | false => exact ihr
        | true => rfl

/-- **Evaluation is plain recursion.**  Whatever is asked, and in whatever state it is, a query
comes to the answer, the state and the questions of its hearing; so does a query of an item, with
the terms that the item was asked for. -/
theorem evalM_hears (query : Query) :
    (∀ {σ ε : Type} (ask : String → MatchPolicy → ExceptT ε (StateM σ) Bool) (s : σ)
      (record : List (String × MatchPolicy)),
      let heard := query.hear ask s
      (query.evalM ask).run.run s = (heard.answer, heard.state) ∧
      (query.evalM (recorded ask)).run.run (s, record) =
        (heard.answer, heard.state, record ++ heard.asked)) ∧
    ∀ item : Item,
      let heard := query.hear item.answering ()
      query.holds item = heard.answer ∧
      query.inquire item = (heard.answer, heard.asked.map (·.1)) := by
  refine ⟨fun {σ ε} ask s record => ⟨?_, ?_⟩, fun item => ⟨?_, ?_⟩⟩
  · rw [evalM_eq_evalTreeM, evalTreeM_run]
  · rw [evalM_eq_evalTreeM, evalTreeM_run, hear_recorded]
    rfl
  · rw [holds, evalM_eq_evalTreeM, evalTreeM_holds]
  · rw [inquire, evalM_eq_evalTreeM, evalTreeM_run, hear_askRecorded]
    rfl

end

end Query

end KeywordQuery
