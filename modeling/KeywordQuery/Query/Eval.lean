import KeywordQuery.Item
import KeywordQuery.Query.Basic

/-!
# Evaluating queries

A query is evaluated from left to right and stops as soon as its value is known.  What it means to
ask for one word is left open: the answer may be a truth value, a fault, or come with a record of
the question.

* `Query.evalM` — evaluation chain by chain, and `Query.evalTreeM` node by node;
  `evalM_eq_evalTreeM` says that they do the same;
* `Query.holds` — whether an item matches;
* `Query.inquire` — the same with the terms asked for, in order;
* `Query.select` — the matching members of a list, up to the first one whose answer is a fault.
-/

namespace KeywordQuery

/-- The value of a chain of operands: the first one that decides it, or else the other value. -/
def Connective.decideM {m : Type → Type} [Monad m] {α : Type} (op : Connective) (f : α → m Bool) :
    List α → m Bool
  | [] => pure !op.decisive
  | operand :: rest => do
    if (← f operand) == op.decisive then pure op.decisive else decideM op f rest

namespace Connective

section

variable {m : Type → Type} [Monad m] {α β : Type}

theorem decideM_map (op : Connective) (f : β → m Bool) (g : α → β) (xs : List α) :
    op.decideM f (xs.map g) = op.decideM (fun x => f (g x)) xs := by
  induction xs with
  | nil => rfl
  | cons x xs ih => simp only [List.map_cons, decideM, ih]

theorem decideM_attach (op : Connective) (f : α → m Bool) (xs : List α) :
    op.decideM (fun x : { x // x ∈ xs } => f x.1) xs.attach = op.decideM f xs := by
  rw [← decideM_map op f Subtype.val xs.attach, List.attach_map_subtype_val]

variable [LawfulMonad m]

theorem decideM_append (op : Connective) (f : α → m Bool) (xs ys : List α) :
    op.decideM f (xs ++ ys) = op.decideM f xs >>= fun answer =>
      if answer == op.decisive then pure op.decisive else op.decideM f ys := by
  induction xs with
  | nil => cases op <;> simp [decideM, decisive]
  | cons x xs ih =>
    simp only [List.cons_append, decideM, ih, bind_assoc]
    congr 1
    funext answer
    split <;> simp

theorem decideM_singleton (op : Connective) (f : α → m Bool) (x : α) :
    op.decideM f [x] = f x := by
  have h (answer : Bool) :
      (if answer == op.decisive then pure op.decisive else pure !op.decisive : m Bool) =
        pure answer := by
    cases op <;> cases answer <;> rfl
  simp only [decideM, h, bind_pure]

end

end Connective

namespace Query

/-- The value of a query, with every chain of one connective evaluated in one go. -/
def evalM {m : Type → Type} [Monad m] (ask : String → MatchPolicy → m Bool) (query : Query) :
    m Bool :=
  match query with
  | .word term policy => ask term policy
  | .not child => do return !(← evalM ask child)
  | .join op left right =>
    op.decideM (fun ⟨operand, _⟩ => evalM ask operand) (operands op (.join op left right)).attach
termination_by sizeOf query
decreasing_by
  · simp
  · exact sizeOf_lt_of_mem_operands (by assumption)

/-- The value of a query: the right side of a connective is evaluated only if the left side does
not decide it. -/
def evalTreeM {m : Type → Type} [Monad m] (ask : String → MatchPolicy → m Bool) :
    Query → m Bool
  | .word term policy => ask term policy
  | .not child => do return !(← evalTreeM ask child)
  | .join op left right => do
    if (← evalTreeM ask left) == op.decisive then pure op.decisive else evalTreeM ask right

section

variable {m : Type → Type} [Monad m]

theorem evalM_join (ask : String → MatchPolicy → m Bool) (op : Connective) (left right : Query) :
    (join op left right).evalM ask =
      op.decideM (evalM ask) (operands op (.join op left right)) := by
  rw [evalM]
  exact op.decideM_attach (evalM ask) _

variable [LawfulMonad m]

theorem decideM_operands (ask : String → MatchPolicy → m Bool) (op : Connective) (query : Query) :
    op.decideM (evalM ask) (operands op query) = query.evalM ask := by
  cases query with
  | word => exact op.decideM_singleton _ _
  | not => exact op.decideM_singleton _ _
  | join op' left right =>
    by_cases h : op' = op
    · subst h
      exact (evalM_join ask op' left right).symm
    · simp only [operands, operandsOnto, h, if_false]
      exact op.decideM_singleton _ _

/-- Evaluating chain by chain asks the same words in the same order as node by node. -/
theorem evalM_eq_evalTreeM (ask : String → MatchPolicy → m Bool) (query : Query) :
    query.evalM ask = query.evalTreeM ask := by
  induction query with
  | word => simp [evalM, evalTreeM]
  | not child ih => simp [evalM, evalTreeM, ih]
  | join op left right ihl ihr =>
    rw [evalM_join, operands_join_self, Connective.decideM_append, decideM_operands,
      Connective.decideM_singleton, evalTreeM, ihl, ihr]

end

/-- Whether an item matches the query. -/
def holds (query : Query) (item : Item) : Except ItemFault Bool := query.evalM item.holds

/-- An answer that may be a fault, with the terms asked for so far. -/
abbrev Inquiry := ExceptT ItemFault (StateM (List String))

/-- Asking an item for a term, with a record of the question. -/
def askRecorded (item : Item) (term : String) (policy : MatchPolicy) : Inquiry Bool := do
  modify (· ++ [term])
  match item.holds term policy with
  | .ok answer => pure answer
  | .error fault => throw fault

/-- Whether an item matches the query, and the terms that it was asked for, in order. -/
def inquire (query : Query) (item : Item) : Except ItemFault Bool × List String :=
  (query.evalM (askRecorded item)).run.run []

/-- The members of a list that match, in order, up to the first one whose answer is a fault; and
that fault.  A member is asked for words in the given way. -/
def select {α ε : Type} (ask : α → String → MatchPolicy → Except ε Bool) (query : Query) :
    List α → List α × Option ε
  | [] => ([], none)
  | x :: rest =>
    match query.evalM (ask x) with
    | .error fault => ([], some fault)
    | .ok matched =>
      let (kept, fault) := select ask query rest
      (if matched then x :: kept else kept, fault)

end Query

end KeywordQuery
