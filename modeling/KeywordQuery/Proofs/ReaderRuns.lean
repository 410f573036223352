import Mathlib.Data.List.Basic
import Mathlib.Logic.Function.Iterate
import KeywordQuery.Proofs.Diagnosis
import KeywordQuery.Proofs.Partition
import KeywordQuery.Query.Run

/-!
# Runs of the readers end

A reader that finds a query has taken a token for it.  So there are fewer tokens ahead of the reader
in a group, of the readers of later operands and of the next turn of a loop than there were ahead of
their callers.  A reader that is called for the same token as its caller binds more tightly.

* `Scan.after` — the scan after a number of advances, at the token with this number;
* `Reader.read` — a reader without its cursor: what it finds in a list of tokens, and what it leaves;
* `Reaches` — where a reader gets from a token; `Runs.reaches` says that its runs get there;
* `exists_runs` — every reader has a run from every token;
* `readers_advance` — the runs of the readers, and those over a whole text.
-/

namespace KeywordQuery

/-! ### Scans after advances -/

namespace Scan

variable {text : String} {i : Nat}

/-- The scan of a text after a number of advances: it stands at the token with this number, or at
the end of the text if there is none. -/
def after (text : String) (i : Nat) : Scan := ⟨Cursor.advance^[i] (.start text), i⟩

theorem advance_after (text : String) (i : Nat) : (after text i).advance = after text (i + 1) := by
  rw [advance, after, after, Function.iterate_succ_apply']

/-- The token at a scan is the first of those that are left. -/
theorem token?_after (text : String) (i : Nat) :
    (after text i).token? = ((tokens text).drop i).head? := by
  obtain ⟨current, -⟩ := Cursor.iterate_advance text i
  rw [token?, after, current, List.head?_drop, tokens, List.getElem?_map, Option.map_map]
  rfl

theorem drop_of_token? {token : Token} (h : (after text i).token? = some token) :
    (tokens text).drop i = token :: (tokens text).drop (i + 1) := by
  rw [token?_after] at h
  obtain ⟨rest, split⟩ := List.head?_eq_some_iff.mp h
  rw [← List.tail_drop, split, List.tail_cons]

theorem lt_of_token? {token : Token} (h : (after text i).token? = some token) :
    i < (tokens text).length := by
  have length := congrArg List.length (drop_of_token? h)
  rw [List.length_drop, List.length_cons] at length
  omega

/-- The fault at a scan is the place of a refusal of the tokens that are left. -/
theorem fault_after (text : String) (i : Nat) (wanted : Wanted) :
    (after text i).fault wanted =
      Query.faultAt (lexemes text) text.length ⟨wanted, (tokens text).drop i⟩ := by
  obtain ⟨current, position⟩ := Cursor.iterate_advance text i
  have place := Query.faultAt_append ((lexemes text).take i) ((lexemes text).drop i) text.length
    wanted
  rw [List.take_append_drop, List.map_drop] at place
  rw [fault, after, current, position, tokens, place, ← List.head?_drop]
  cases (lexemes text).drop i with
  | nil => rfl
  | cons lexeme rest => rfl

end Scan

namespace Query

variable {policy : MatchPolicy} {text : String}

/-! ### Readers without a cursor -/

namespace Reader

/-- What a reader finds in the tokens, and what it leaves of them. -/
def read (policy : MatchPolicy) : Reader → List Token → Except Refusal (Query × List Token)
  | .whole, tokens => ofTokens policy tokens >>= fun query => .ok (query, [])
  | .chain op, tokens => outcome (Query.chain policy op tokens)
  | .others op left, tokens => outcome (chainTail policy op left tokens)
  | .negation, tokens => outcome (Query.negation policy tokens)
  | .primary, tokens => outcome (Query.primary policy tokens)

/-- The number of tokens that a reader takes at the least for a query that it finds.  The loop of a
chain may find no further operand. -/
def least : Reader → Nat
  | .others _ _ => 0
  | _ => 1

/-- A reader is heavier than those that it calls for the same token. -/
def weight : Reader → Nat
  | .primary | .others _ _ => 0
  | .negation => 1
  | .chain .and => 2
  | .chain .or => 3
  | .whole => 4

theorem least_ofOperand (op : Connective) : (ofOperand op).least = 1 := by
  cases op <;> rfl

theorem weight_ofOperand_lt (op : Connective) : (ofOperand op).weight < (chain op).weight := by
  cases op <;> decide

theorem read_ofOperand (op : Connective) (tokens : List Token) :
    (ofOperand op).read policy tokens = outcome (operand policy op tokens) := by
  cases op with
  | and => exact (outcome_operand_and tokens).symm
  | or => exact (outcome_operand_or tokens).symm

theorem read_whole (tokens : List Token) :
    whole.read policy tokens =
      ((chain .or).read policy tokens >>= fun found =>
        if found.2 = [] then .ok found else .error (Refusal.mk .finish found.2)) := by
  show (ofTokens policy tokens >>= fun query => .ok (query, [])) = _
  rw [ofTokens_eq, read]
  rcases outcome (Query.chain policy .or tokens) with refusal | ⟨query, rest⟩
  · rfl
  · by_cases ended : rest = []
    · subst ended
      rfl
    · simp only [bind, Except.bind, if_neg ended]

theorem read_chain (op : Connective) (tokens : List Token) :
    (chain op).read policy tokens =
      ((ofOperand op).read policy tokens >>= fun found =>
        (others op found.1).read policy found.2) := by
  rw [read_ofOperand]
  exact outcome_chain op tokens

theorem read_others (op : Connective) (left : Query) (after : List Token) :
    (others op left).read policy (op.token :: after) =
      ((ofOperand op).read policy after >>= fun found =>
        (others op (.join op left found.1)).read policy found.2) := by
  rw [read_ofOperand]
  exact outcome_chainTail_token op left after

theorem read_negation_not (after : List Token) :
    negation.read policy (.not :: after) =
      (negation.read policy after >>= fun found => .ok (.not found.1, found.2)) :=
  outcome_negation_not after

theorem read_primary_lparen (after : List Token) :
    primary.read policy (.lparen :: after) =
      ((chain .or).read policy after >>= closeGroup) :=
  outcome_primary_lparen after

theorem read_primary_word {token : Token} (h : token ∉ [.lparen, .rparen, .or, .and])
    (after : List Token) :
    primary.read policy (token :: after) = .ok (.word token.text policy, after) := by
  cases token with
  | lparen | rparen | and | or => exact absurd h (by decide)
  | not => exact outcome_primary_not after
  | word term => exact outcome_primary_word term after

end Reader

/-- The result of a reader that leaves the given tokens, in terms of tokens. -/
def reading (rest : List Token) : Except ParseFault Query → Except Refusal (Query × List Token)
  | .ok query => .ok (query, rest)
  | .error fault => .error ⟨fault.wanted, rest⟩

/-! ### Where a run gets -/

/-- A reader that starts at the token `i` of the text ends with the result at the token `j`. -/
structure Reaches (policy : MatchPolicy) (text : String) (reader : Reader) (i : Nat)
    (result : Except ParseFault Query) (j : Nat) : Prop where
  /-- It does not go back. -/
  forward : i ≤ j
  /-- It does not go past the end. -/
  inside : j ≤ (tokens text).length
  /-- It takes tokens for a query that it finds. -/
  takes : ∀ query, result = .ok query → i + reader.least ≤ j
  /-- It finds no fault but at the cursor. -/
  faults : ∀ fault, result = .error fault → fault = (Scan.after text j).fault fault.wanted
  /-- The reader without a cursor finds the same and leaves what the cursor has not passed. -/
  agrees : reader.read policy ((tokens text).drop i) = reading ((tokens text).drop j) result

namespace Reaches

variable {reader reader' : Reader} {i i' middle j : Nat} {result : Except ParseFault Query}
  {query : Query} {fault : ParseFault} {op : Connective}

theorem read_ok (h : Reaches policy text reader i (.ok query) j) :
    reader.read policy ((tokens text).drop i) = .ok (query, (tokens text).drop j) := h.agrees

theorem ok (takes : i + reader.least ≤ j) (inside : j ≤ (tokens text).length)
    (read : reader.read policy ((tokens text).drop i) = .ok (query, (tokens text).drop j)) :
    Reaches policy text reader i (.ok query) j where
  forward := (Nat.le_add_right i _).trans takes
  inside := inside
  takes _ _ := takes
  faults _ impossible := nomatch impossible
  agrees := read

theorem error {wanted : Wanted} (forward : i ≤ j) (inside : j ≤ (tokens text).length)
    (read : reader.read policy ((tokens text).drop i) = .error ⟨wanted, (tokens text).drop j⟩) :
    Reaches policy text reader i (.error ((Scan.after text j).fault wanted)) j where
  forward := forward
  inside := inside
  takes _ impossible := nomatch impossible
  faults fault found := by
    obtain rfl := Except.error.inj found
    rfl
  agrees := read

/-- A reader gets where the one gets that it leaves the rest to. -/
theorem goesOn (h : Reaches policy text reader' i' result j) (forward : i ≤ i')
    (takes : i + reader.least ≤ i' + reader'.least)
    (read : reader.read policy ((tokens text).drop i) =
      reader'.read policy ((tokens text).drop i')) : Reaches policy text reader i result j where
  forward := forward.trans h.forward
  inside := h.inside
  takes query found := takes.trans (h.takes query found)
  faults := h.faults
  agrees := read.trans h.agrees

/-- A reader passes on the fault of one that it calls. -/
theorem passesOn (h : Reaches policy text reader' i' (.error fault) j) (forward : i ≤ i')
    (read : ∀ refusal, reader'.read policy ((tokens text).drop i') = .error refusal →
      reader.read policy ((tokens text).drop i) = .error refusal) :
    Reaches policy text reader i (.error fault) j where
  forward := forward.trans h.forward
  inside := h.inside
  takes _ impossible := nomatch impossible
  faults := h.faults
  agrees := read _ h.agrees

/-- The readers of operands take tokens for what they find. -/
theorem operand_lt (h : Reaches policy text (.ofOperand op) i (.ok query) j) : i < j := by
  have takes := h.takes query rfl
  rwa [Reader.least_ofOperand] at takes

theorem whole (inner : Reaches policy text (.chain .or) i (.ok query) j)
    (ended : (Scan.after text j).token? = none) : Reaches policy text .whole i (.ok query) j := by
  rw [Scan.token?_after, List.head?_eq_none_iff] at ended
  refine .ok (inner.takes query rfl) inner.inside ?_
  rw [Reader.read_whole, inner.read_ok, ended]
  rfl

theorem wholeExtra (inner : Reaches policy text (.chain .or) i (.ok query) j)
    (extra : (Scan.after text j).token? ≠ none) :
    Reaches policy text .whole i (.error ((Scan.after text j).fault .finish)) j := by
  rw [Scan.token?_after, Ne, List.head?_eq_none_iff] at extra
  refine .error inner.forward inner.inside ?_
  rw [Reader.read_whole, inner.read_ok]
  exact if_neg extra

theorem wholeFault (inner : Reaches policy text (.chain .or) i (.error fault) j) :
    Reaches policy text .whole i (.error fault) j := by
  refine inner.passesOn le_rfl fun refusal read => ?_
  rw [Reader.read_whole, read]
  rfl

theorem chain {left : Query} (first : Reaches policy text (.ofOperand op) i (.ok left) middle)
    (others : Reaches policy text (.others op left) middle result j) :
    Reaches policy text (.chain op) i result j := by
  refine others.goesOn first.forward first.operand_lt ?_
  rw [Reader.read_chain, first.read_ok]
  rfl

theorem chainFault (first : Reaches policy text (.ofOperand op) i (.error fault) j) :
    Reaches policy text (.chain op) i (.error fault) j := by
  refine first.passesOn le_rfl fun refusal read => ?_
  rw [Reader.read_chain, read]
  rfl

theorem others {left right : Query} (next : (Scan.after text i).token? = some op.token)
    (operand : Reaches policy text (.ofOperand op) (i + 1) (.ok right) middle)
    (others : Reaches policy text (.others op (.join op left right)) middle result j) :
    Reaches policy text (.others op left) i result j := by
  have forward : i ≤ middle := (Nat.le_succ i).trans operand.forward
  refine others.goesOn forward forward ?_
  rw [Scan.drop_of_token? next, Reader.read_others, operand.read_ok]
  rfl

theorem othersFault (left : Query) (next : (Scan.after text i).token? = some op.token)
    (operand : Reaches policy text (.ofOperand op) (i + 1) (.error fault) j) :
    Reaches policy text (.others op left) i (.error fault) j := by
  refine operand.passesOn (Nat.le_succ i) fun refusal read => ?_
  rw [Scan.drop_of_token? next, Reader.read_others, read]
  rfl

theorem othersEnd (left : Query) (ended : (Scan.after text i).token? ≠ some op.token)
    (inside : i ≤ (tokens text).length) : Reaches policy text (.others op left) i (.ok left) i := by
  rw [Scan.token?_after] at ended
  exact .ok le_rfl inside (outcome_chainTail_stop ended left)

theorem not (next : (Scan.after text i).token? = some .not)
    (inner : Reaches policy text .negation (i + 1) (.ok query) j) :
    Reaches policy text .negation i (.ok (.not query)) j := by
  refine .ok ((Nat.le_succ _).trans (inner.takes query rfl)) inner.inside ?_
  rw [Scan.drop_of_token? next, Reader.read_negation_not, inner.read_ok]
  rfl

theorem notFault (next : (Scan.after text i).token? = some .not)
    (inner : Reaches policy text .negation (i + 1) (.error fault) j) :
    Reaches policy text .negation i (.error fault) j := by
  refine inner.passesOn (Nat.le_succ i) fun refusal read => ?_
  rw [Scan.drop_of_token? next, Reader.read_negation_not, read]
  rfl

theorem positive (other : (Scan.after text i).token? ≠ some .not)
    (inner : Reaches policy text .primary i result j) :
    Reaches policy text .negation i result j := by
  rw [Scan.token?_after] at other
  exact inner.goesOn le_rfl le_rfl (outcome_negation_primary other)

theorem group (opened : (Scan.after text i).token? = some .lparen)
    (inner : Reaches policy text (.chain .or) (i + 1) (.ok query) j)
    (closed : (Scan.after text j).token? = some .rparen) :
    Reaches policy text .primary i (.ok query) (j + 1) := by
  have split := Scan.drop_of_token? closed
  refine .ok (inner.forward.trans (Nat.le_succ j)) (Scan.lt_of_token? closed) ?_
  rw [Scan.drop_of_token? opened, Reader.read_primary_lparen, inner.read_ok, split]
  rfl

theorem groupOpen (opened : (Scan.after text i).token? = some .lparen)
    (inner : Reaches policy text (.chain .or) (i + 1) (.ok query) j)
    (unclosed : (Scan.after text j).token? ≠ some .rparen) :
    Reaches policy text .primary i (.error ((Scan.after text j).fault .close)) j := by
  rw [Scan.token?_after] at unclosed
  refine .error ((Nat.le_succ i).trans inner.forward) inner.inside ?_
  rw [Scan.drop_of_token? opened, Reader.read_primary_lparen, inner.read_ok]
  exact closeGroup_of_head?_ne unclosed query

theorem groupFault (opened : (Scan.after text i).token? = some .lparen)
    (inner : Reaches policy text (.chain .or) (i + 1) (.error fault) j) :
    Reaches policy text .primary i (.error fault) j := by
  refine inner.passesOn (Nat.le_succ i) fun refusal read => ?_
  rw [Scan.drop_of_token? opened, Reader.read_primary_lparen, read]
  rfl

theorem word {token : Token} (next : (Scan.after text i).token? = some token)
    (term : token ∉ [.lparen, .rparen, .or, .and]) :
    Reaches policy text .primary i (.ok (.word token.text policy)) (i + 1) := by
  refine .ok le_rfl (Scan.lt_of_token? next) ?_
  rw [Scan.drop_of_token? next]
  exact Reader.read_primary_word term _

theorem refused (noTerm : ∀ token ∈ (Scan.after text i).token?, token ∈ [.rparen, .or, .and])
    (inside : i ≤ (tokens text).length) :
    Reaches policy text .primary i (.error ((Scan.after text i).fault .term)) i := by
  rw [Scan.token?_after] at noTerm
  exact .error le_rfl inside (outcome_primary_refused noTerm)

end Reaches

/-- **Where runs get.**  The induction is on the run: a reader gets on from where the readers that
it called have got, past the token at the cursor if it advances. -/
theorem Runs.reaches {reader : Reader} {i : Nat} {result : Except ParseFault Query} {stop : Scan}
    (h : Runs policy reader (.after text i) result stop) (inside : i ≤ (tokens text).length) :
    ∃ j, stop = .after text j ∧ Reaches policy text reader i result j := by
  generalize start : Scan.after text i = scan at h
  induction h generalizing i with
  | whole inner ended ih =>
    obtain ⟨j, rfl, reached⟩ := ih inside start
    exact ⟨j, rfl, reached.whole ended⟩
  | wholeExtra inner extra ih =>
    obtain ⟨j, rfl, reached⟩ := ih inside start
    exact ⟨j, rfl, reached.wholeExtra extra⟩
  | wholeFault inner ih =>
    obtain ⟨j, rfl, reached⟩ := ih inside start
    exact ⟨j, rfl, reached.wholeFault⟩
  | chain first others ihf iho =>
    obtain ⟨middle, rfl, reached⟩ := ihf inside start
    obtain ⟨j, rfl, reached'⟩ := iho reached.inside rfl
    exact ⟨j, rfl, reached.chain reached'⟩
  | chainFault first ih =>
    obtain ⟨j, rfl, reached⟩ := ih inside start
    exact ⟨j, rfl, reached.chainFault⟩
  | others next operand others ihr iho =>
    subst start
    obtain ⟨middle, rfl, reached⟩ := ihr (Scan.lt_of_token? next) (Scan.advance_after text i).symm
    obtain ⟨j, rfl, reached'⟩ := iho reached.inside rfl
    exact ⟨j, rfl, .others next reached reached'⟩
  | othersFault next operand ih =>
    subst start
    obtain ⟨j, rfl, reached⟩ := ih (Scan.lt_of_token? next) (Scan.advance_after text i).symm
    exact ⟨j, rfl, .othersFault _ next reached⟩
  | othersEnd ended =>
    subst start
    exact ⟨i, rfl, .othersEnd _ ended inside⟩
  | not next inner ih =>
    subst start
    obtain ⟨j, rfl, reached⟩ := ih (Scan.lt_of_token? next) (Scan.advance_after text i).symm
    exact ⟨j, rfl, .not next reached⟩
  | notFault next inner ih =>
    subst start
    obtain ⟨j, rfl, reached⟩ := ih (Scan.lt_of_token? next) (Scan.advance_after text i).symm
    exact ⟨j, rfl, .notFault next reached⟩
  | positive other inner ih =>
    subst start
    obtain ⟨j, rfl, reached⟩ := ih inside rfl
    exact ⟨j, rfl, .positive other reached⟩
  | group opened inner closed ih =>
    subst start
    obtain ⟨j, rfl, reached⟩ := ih (Scan.lt_of_token? opened) (Scan.advance_after text i).symm
    exact ⟨j + 1, Scan.advance_after text j, .group opened reached closed⟩
  | groupOpen opened inner unclosed ih =>
    subst start
    obtain ⟨j, rfl, reached⟩ := ih (Scan.lt_of_token? opened) (Scan.advance_after text i).symm
    exact ⟨j, rfl, .groupOpen opened reached unclosed⟩
  | groupFault opened inner ih =>
    subst start
    obtain ⟨j, rfl, reached⟩ := ih (Scan.lt_of_token? opened) (Scan.advance_after text i).symm
    exact ⟨j, rfl, .groupFault opened reached⟩
  | word next term =>
    subst start
    exact ⟨i + 1, Scan.advance_after text i, .word next term⟩
  | refused noTerm =>
    subst start
    exact ⟨i, rfl, .refused noTerm inside⟩

/-! ### Every reader has a run -/

/-- **Readers end.**  From every token a reader has a run.  A reader that it calls has fewer tokens
ahead, or is not as heavy. -/
theorem exists_runs (policy : MatchPolicy) (text : String) (reader : Reader) (i : Nat)
    (inside : i ≤ (tokens text).length) :
    ∃ result stop, Runs policy reader (.after text i) result stop := by
  match reader with
  | .whole =>
    obtain ⟨result, stop, inner⟩ := exists_runs policy text (.chain .or) i inside
    rcases result with fault | query
    · exact ⟨_, _, .wholeFault inner⟩
    · by_cases ended : stop.token? = none
      · exact ⟨_, _, .whole inner ended⟩
      · exact ⟨_, _, .wholeExtra inner ended⟩
  | .chain op =>
    obtain ⟨result, stop, first⟩ := exists_runs policy text (.ofOperand op) i inside
    rcases result with fault | left
    · exact ⟨_, _, .chainFault first⟩
    · -- That there are fewer tokens ahead of the loop is known from the run of the operand only.
      obtain ⟨middle, rfl, reached⟩ := first.reaches inside
      have forward := reached.operand_lt
      have more := forward.trans_le reached.inside
      obtain ⟨result, stop, others⟩ :=
        exists_runs policy text (.others op left) middle reached.inside
      exact ⟨_, _, .chain first others⟩
  | .others op left =>
    by_cases next : (Scan.after text i).token? = some op.token
    · have more := Scan.lt_of_token? next
      obtain ⟨result, stop, operand⟩ := exists_runs policy text (.ofOperand op) (i + 1) more
      have advanced := operand
      rw [← Scan.advance_after] at advanced
      rcases result with fault | right
      · exact ⟨_, _, .othersFault next advanced⟩
      · obtain ⟨middle, rfl, reached⟩ := operand.reaches more
        have forward := reached.operand_lt
        obtain ⟨result, stop, others⟩ :=
          exists_runs policy text (.others op (.join op left right)) middle reached.inside
        exact ⟨_, _, .others next advanced others⟩
    · exact ⟨_, _, .othersEnd next⟩
  | .negation =>
    by_cases next : (Scan.after text i).token? = some .not
    · have more := Scan.lt_of_token? next
      obtain ⟨result, stop, inner⟩ := exists_runs policy text .negation (i + 1) more
      rw [← Scan.advance_after] at inner
      rcases result with fault | child
      · exact ⟨_, _, .notFault next inner⟩
      · exact ⟨_, _, .not next inner⟩
    · obtain ⟨result, stop, inner⟩ := exists_runs policy text .primary i inside
      exact ⟨_, _, .positive next inner⟩
  | .primary =>
    by_cases opened : (Scan.after text i).token? = some .lparen
    · have more := Scan.lt_of_token? opened
      obtain ⟨result, stop, inner⟩ := exists_runs policy text (.chain .or) (i + 1) more
      rw [← Scan.advance_after] at inner
      rcases result with fault | query
      · exact ⟨_, _, .groupFault opened inner⟩
      · by_cases closed : stop.token? = some .rparen
        · exact ⟨_, _, .group opened inner closed⟩
        · exact ⟨_, _, .groupOpen opened inner closed⟩
    · rcases next : (Scan.after text i).token? with _ | token
      · exact ⟨_, _, .refused (by simp [next])⟩
      · by_cases term : token ∈ [.rparen, .or, .and]
        · exact ⟨_, _, .refused (by simpa [next] using term)⟩
        · have noGroup : token ≠ .lparen := by
            rintro rfl
            exact opened next
          exact ⟨_, _, .word next (List.not_mem_cons_of_ne_of_not_mem noGroup term)⟩
termination_by ((tokens text).length - i, reader.weight)
decreasing_by
  · exact Prod.Lex.right _ (by decide)
  · exact Prod.Lex.right _ (Reader.weight_ofOperand_lt op)
  · exact Prod.Lex.left _ _ (by omega)
  · exact Prod.Lex.left _ _ (by omega)
  · exact Prod.Lex.left _ _ (by omega)
  · exact Prod.Lex.left _ _ (by omega)
  · exact Prod.Lex.right _ (by decide)
  · exact Prod.Lex.left _ _ (by omega)

/-! ### What follows for all readers -/

/-- What is left behind a chain does not go on with it. -/
theorem Reaches.closed {op : Connective} {i j : Nat} {query : Query}
    (h : Reaches policy text (.chain op) i (.ok query) j) :
    Closed op ((tokens text).drop j) := by
  have read : outcome (Query.chain policy op ((tokens text).drop i)) =
      .ok (query, (tokens text).drop j) := h.read_ok
  cases op with
  | and =>
    have accounts := (accountsBelow policy _).conjunction ((tokens text).drop i) le_rfl
    rw [read] at accounts
    exact accounts.1
  | or =>
    have accounts := accounts_disjunction policy ((tokens text).drop i)
    rw [read] at accounts
    exact accounts.1

/-- Where a reader gets from a token is settled by the token. -/
theorem Reaches.unique {reader : Reader} {i j j' : Nat} {result result' : Except ParseFault Query}
    (h : Reaches policy text reader i result j) (h' : Reaches policy text reader i result' j') :
    result = result' ∧ j = j' := by
  have same := h.agrees.symm.trans h'.agrees
  have left : (tokens text).drop j = (tokens text).drop j' → j = j' := by
    intro drops
    have lengths := congrArg List.length drops
    rw [List.length_drop, List.length_drop] at lengths
    have := h.inside
    have := h'.inside
    omega
  rcases result with fault | query <;> rcases result' with fault' | query'
  · obtain ⟨wanted, drops⟩ := Refusal.mk.inj (Except.error.inj same)
    obtain rfl := left drops
    rw [h.faults fault rfl, h'.faults fault' rfl, wanted]
    exact ⟨rfl, rfl⟩
  · exact nomatch same
  · exact nomatch same
  · obtain ⟨found, drops⟩ := Prod.mk.inj (Except.ok.inj same)
    exact ⟨congrArg Except.ok found, left drops⟩

theorem parse_eq_read (policy : MatchPolicy) (text : String) :
    parse policy text =
      match Reader.whole.read policy (tokens text) with
      | .error refusal => .error (faultAt (lexemes text) text.length refusal)
      | .ok (query, _) => .ok query := by
  rw [parse, Reader.read]
  cases ofTokens policy (tokens text) with
  | error refusal => rfl
  | ok query => rfl

/-- The result of a run over a text is what is read from the text. -/
theorem Runs.parse_eq {result : Except ParseFault Query} {stop : Scan}
    (h : Runs policy .whole (.start text) result stop) : parse policy text = result := by
  obtain ⟨j, rfl, reached⟩ := h.reaches (Nat.zero_le _)
  have agrees := reached.agrees
  rw [List.drop_zero] at agrees
  rw [parse_eq_read, agrees]
  cases result with
  | error fault =>
    have place := reached.faults fault rfl
    rw [Scan.fault_after] at place
    exact congrArg Except.error place.symm
  | ok query => rfl

/-- **The readers advance.**  From every token, and from the end of the text, a reader ends with one
result, at one place.  It neither goes back nor past the end, and it takes a token for a query that
it finds.  Neither connective follows a disjunction that was found, and no `and` a conjunction.  So
a whole text has a run, with the result that is read from it, and the run that finds a query has
advanced the cursor once for every token. -/
theorem readers_advance (policy : MatchPolicy) (text : String) :
    (∀ (reader : Reader) (i : Nat), i ≤ (tokens text).length →
      ∃ (result : Except ParseFault Query) (j : Nat),
        (∀ result' stop, Runs policy reader (.after text i) result' stop ↔
          result' = result ∧ stop = .after text j) ∧
        Reaches policy text reader i result j ∧
        ∀ query, result = .ok query →
          (reader = .chain .or → (Scan.after text j).token? ∉ [some .or, some .and]) ∧
          (reader = .chain .and → (Scan.after text j).token? ≠ some .and)) ∧
    (∀ result, (∃ stop, Runs policy .whole (.start text) result stop) ↔
      parse policy text = result) ∧
    ∀ query stop, Runs policy .whole (.start text) (.ok query) stop →
      stop.token? = none ∧ stop.advances = (tokens text).length := by
  refine ⟨fun reader i inside => ?_, fun result => ?_, fun query stop run => ?_⟩
  · obtain ⟨result, stop, run⟩ := exists_runs policy text reader i inside
    obtain ⟨j, rfl, reached⟩ := run.reaches inside
    refine ⟨result, j, fun result' stop => ⟨fun run' => ?_, ?_⟩, reached, ?_⟩
    · obtain ⟨j', rfl, reached'⟩ := run'.reaches inside
      obtain ⟨rfl, rfl⟩ := reached'.unique reached
      exact ⟨rfl, rfl⟩
    · rintro ⟨rfl, rfl⟩
      exact run
    · rintro query rfl
      rw [Scan.token?_after]
      constructor
      · rintro rfl
        obtain ⟨noOr, noAnd⟩ := reached.closed
        exact List.not_mem_cons_of_ne_of_not_mem noOr
          (List.not_mem_cons_of_ne_of_not_mem (noAnd rfl) List.not_mem_nil)
      · rintro rfl
        exact reached.closed.1
  · constructor
    · rintro ⟨stop, run⟩
      exact run.parse_eq
    · rintro rfl
      obtain ⟨result, stop, run⟩ := exists_runs policy text .whole 0 (Nat.zero_le _)
      exact ⟨stop, run.parse_eq.symm ▸ run⟩
  · cases run with
    | whole inner ended =>
      obtain ⟨j, rfl, reached⟩ := inner.reaches (Nat.zero_le _)
      refine ⟨ended, ?_⟩
      rw [Scan.token?_after, List.head?_eq_none_iff, List.drop_eq_nil_iff] at ended
      exact Nat.le_antisymm reached.inside ended

/-- A group that is left open is read to the end of the text, and the fault is there. -/
theorem open_group_stops_at_end :
    1 ≤ (tokens "not (red").length ∧
    ∀ result stop, Runs .substring .negation (.after "not (red" 1) result stop →
      result = .error ⟨.close, none, 8⟩ ∧ stop = .after "not (red" 3 := by
  have inside : 1 ≤ (tokens "not (red").length := by decide +kernel
  have opened : (Scan.after "not (red" 1).token? = some .lparen := by decide
  have word : (Scan.after "not (red" 2).token? = some (.word "red") := by decide
  have ended : (Scan.after "not (red" 3).token? = none := by decide
  have fault : (Scan.after "not (red" 3).fault .close = ⟨.close, none, 8⟩ := by decide
  obtain ⟨result, j, runs, -, -⟩ := (readers_advance .substring "not (red").1 .negation 1 inside
  have red : Runs .substring .negation (.after "not (red" 2) (.ok (.word "red" .substring))
      (.after "not (red" 3) := .positive (by simp [word]) (.word word (by decide))
  have group : Runs .substring (.chain .or) (.after "not (red" 2) (.ok (.word "red" .substring))
      (.after "not (red" 3) :=
    .chain (.chain red (.othersEnd (by simp [ended]))) (.othersEnd (by simp [ended]))
  have run : Runs .substring .negation (.after "not (red" 1) (.error ⟨.close, none, 8⟩)
      (.after "not (red" 3) := by
    rw [← fault]
    exact .positive (by simp [opened]) (.groupOpen opened group (by simp [ended]))
  refine ⟨inside, fun result' stop run' => ?_⟩
  obtain ⟨rfl, rfl⟩ := (runs _ _).mp run'
  obtain ⟨found, place⟩ := (runs _ _).mp run
  exact ⟨found.symm, place.symm⟩

end Query

end KeywordQuery
