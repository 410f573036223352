import Mathlib
import KeywordQuery.Proofs.Chains
import KeywordQuery.Proofs.Composition
import KeywordQuery.Proofs.Evaluation

/-!
# Query texts joined by `or`

With `or` between them, two query texts are one disjunction, whatever stands at the top of the two
queries.  Its tree is in general not the join of the two: the chain of the first query goes on, and
the alternatives of the second are spliced onto it.  What it asks is the same: first the words of
the first query, and then, if that does not hold, those of the second.

* `Derives.splice`, `parse_splice` — a chain that goes on with the operands of another one;
* `inquire_from` — an item that has been asked before gives the same answers;
* `eitherM` — two queries of which the second is evaluated only if the first is false;
  `eitherM_holds` and `eitherM_inquire` say what that is for an item;
* `parse_or_alternatives` — texts with `or` between them.
-/

namespace KeywordQuery

namespace Query

variable {policy : MatchPolicy}

/-! ### Chains that go on -/

/-- The tokens of two chains, with the connective between them, are those of a chain that goes on
from the first with the operands of the second. -/
theorem Derives.splice {op : Connective} {before after : List Token} {left right : Query}
    (h : Derives policy op.rank before left) (h' : Derives policy op.rank after right) :
    ∃ first others, right = others.foldl (.join op) first ∧
      Derives policy op.rank (before ++ op.token :: after)
        ((first :: others).foldl (.join op) left) := by
  -- The operands are those that the tokens name: the first of them is one even if it is a group
  -- that holds a chain of the same connective.
  obtain ⟨first, others, parts, rfl, rfl⟩ := h'.repeats
  refine ⟨first.2, others.map (·.2), by rw [List.foldl_map], ?_⟩
  have longer := h.foldl_join parts
  rwa [List.flatMap_cons, List.cons_append, ← List.foldl_map] at longer

theorem parse_splice {text text' : String} {query query' : Query}
    (h : parse policy text = .ok query) (h' : parse policy text' = .ok query') :
    ∃ first others, query' = others.foldl (.join .or) first ∧
      parse policy (text ++ " or " ++ text') = .ok ((first :: others).foldl (.join .or) query) := by
  have left : Derives policy Connective.or.rank (tokens text) query := parse_eq_ok_iff.mp h
  have right : Derives policy Connective.or.rank (tokens text') query' := parse_eq_ok_iff.mp h'
  obtain ⟨first, others, whole, derived⟩ := left.splice right
  refine ⟨first, others, whole, ?_⟩
  rw [← tokens_append_keyword] at derived
  exact parse_eq_ok_iff.mpr derived

/-! ### Items asked twice -/

/-- An item answers as if it had not been asked before, and its record goes on. -/
theorem inquire_from (query : Query) (item : Item) (before : List String) :
    (query.evalM (askRecorded item)).run.run before =
      ((query.inquire item).1, before ++ (query.inquire item).2) := by
  have goesOn : query.hear (askRecorded item) (before ++ []) =
      (query.hear (askRecorded item) []).view (fun record _ => before ++ record) [] := by
    refine hear_view (fun record _ => before ++ record) (fun term policy record asked => ?_) query
      [] []
    rw [run_askRecorded, run_askRecorded, List.append_assoc]
  rw [List.append_nil] at goesOn
  rw [inquire, evalM_eq_evalTreeM, evalTreeM_run, evalTreeM_run, goesOn]
  rfl

/-- The value of two queries of which the second is evaluated only if the first is false. -/
def eitherM {m : Type → Type} [Monad m] (ask : String → MatchPolicy → m Bool)
    (query query' : Query) : m Bool := do
  if ← query.evalM ask then pure true else query'.evalM ask

theorem eitherM_holds (query query' : Query) (item : Item) :
    eitherM item.holds query query' =
      match query.holds item with
      | .ok false => query'.holds item
      | decided => decided := by
  rw [eitherM]
  show (query.holds item >>= _) = _
  rcases query.holds item with fault | value
  · rfl
  · cases value with
    | false => rfl
    | true => rfl

theorem eitherM_inquire (query query' : Query) (item : Item) :
    (eitherM (askRecorded item) query query').run.run [] =
      match query.inquire item with
      | (.ok false, asked) => ((query'.inquire item).1, asked ++ (query'.inquire item).2)
      | decided => decided := by
  rcases h : query.inquire item with ⟨answer, asked⟩
  cases answer with
  | error fault => exact run_bind_error h
  | ok value =>
    rw [eitherM, run_bind_ok h]
    cases value with
    | false => exact inquire_from query' item asked
    | true => rfl

/-- **Texts joined by `or`.**  Two query texts with `or` between them are a query.  Its words are
those of the first query and then those of the second.  Whatever is asked, and whatever comes of
asking, it is evaluated by evaluating the first query, and the second only if the first is false;
so is a query of an item, with the terms that the item is asked for. -/
theorem parse_or_alternatives {text text' : String} {query query' : Query}
    (h : parse policy text = .ok query) (h' : parse policy text' = .ok query') :
    ∃ joined, parse policy (text ++ " or " ++ text') = .ok joined ∧
      joined.terms = query.terms ++ query'.terms ∧
      (∀ {m : Type → Type} [Monad m] [LawfulMonad m] (ask : String → MatchPolicy → m Bool),
        joined.evalM ask = do if ← query.evalM ask then pure true else query'.evalM ask) ∧
      ∀ item,
        joined.holds item =
          (match query.holds item with
          | .ok false => query'.holds item
          | decided => decided) ∧
        joined.inquire item =
          (match query.inquire item with
          | (.ok false, asked) => ((query'.inquire item).1, asked ++ (query'.inquire item).2)
          | decided => decided) := by
  obtain ⟨first, others, rfl, read⟩ := parse_splice h h'
  have either {m : Type → Type} [Monad m] [LawfulMonad m]
      (ask : String → MatchPolicy → m Bool) :
      ((first :: others).foldl (.join .or) query).evalM ask =
        eitherM ask query (others.foldl (.join .or) first) := by
    rw [evalM_splice, eitherM]
    simp only [Connective.decisive, beq_true]
  refine ⟨_, read, terms_splice .or query first others, either, fun item => ⟨?_, ?_⟩⟩
  · rw [holds, either]
    exact eitherM_holds query _ item
  · rw [inquire, either]
    exact eitherM_inquire query _ item

/-- The second text starts with an alternative of its own, which is all that is asked of it. -/
theorem alternatives_asked_in_turn :
    let text := "red or not blue"
    let text' := "sky or (green and red)"
    let item := Item.container "Palette" (fun term => term == "blue" || term == "sky") none
    ∃ query query' joined, parse .word text = .ok query ∧ parse .word text' = .ok query' ∧
      parse .word (text ++ " or " ++ text') = .ok joined ∧
      joined.terms = ["red", "blue", "sky", "green", "red"] ∧
      query.inquire item = (.ok false, ["red", "blue"]) ∧
      joined.inquire item = (.ok true, ["red", "blue", "sky"]) := by
  intro text text' item
  let query := join .or (word "red" .word) (not (word "blue" .word))
  let query' := join .or (word "sky" .word) (join .and (word "green" .word) (word "red" .word))
  have read : parse .word text = .ok query := by cbv
  have read' : parse .word text' = .ok query' := by cbv
  have asked : query.inquire item = (.ok false, ["red", "blue"]) := by cbv
  have asked' : query'.inquire item = (.ok true, ["sky"]) := by cbv
  obtain ⟨joined, readJoined, words, -, items⟩ := parse_or_alternatives read read'
  have terms : query.terms ++ query'.terms = ["red", "blue", "sky", "green", "red"] := by cbv
  refine ⟨query, query', joined, read, read', readJoined, words.trans terms, asked, ?_⟩
  rw [(items item).2, asked, asked']
  rfl

end Query

end KeywordQuery
