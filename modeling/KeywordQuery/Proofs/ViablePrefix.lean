import Mathlib
import KeywordQuery.Proofs.Partition
import KeywordQuery.Proofs.Reading

/-!
# Faults stand at the earliest token

A text is refused at the first token that no query can have there: what stands before that token
can still be completed to a query, and what stands up to it cannot.

* `spaced`, `lexemeTexts_spaced` — tokens written out with a space after each, and scanned again;
* `countP_start_lt` — the tokens that start before a place between two of them;
* `Progress.after?` — the state of the pass after some tokens; `Progress.refusal?_of_after?` goes on
  from it, and `Progress.exists_of_refusal?` finds it for a refusal;
* `Progress.completion` — tokens that complete a query from any state on;
* `parse_error_earliest` — the place of a fault of the reader.
-/

namespace KeywordQuery

open Text (isBlank)

/-! ### Writing tokens out -/

/-- The tokens with a space after each. -/
def spaced (texts : List String) : List Char := texts.flatMap fun text => text.toList ++ [' ']

theorem IsTokenText.lexemeTexts_eq {text : String} (h : IsTokenText text) :
    lexemeTexts text.toList = [text] := by
  rcases h with rfl | rfl | h
  · exact (lexemeTexts_paren (c := '(') (by decide) []).trans (by rw [lexemeTexts_nil]; rfl)
  · exact (lexemeTexts_paren (c := ')') (by decide) []).trans (by rw [lexemeTexts_nil]; rfl)
  · exact lexemeTexts_unbroken h

/-- Tokens that are written out are scanned again. -/
theorem lexemeTexts_spaced {texts : List String} (h : ∀ text ∈ texts, IsTokenText text) :
    lexemeTexts (spaced texts) = texts := by
  induction texts with
  | nil => exact lexemeTexts_nil
  | cons text texts ih =>
    have rest := ih fun other ho => h other (List.mem_cons_of_mem _ ho)
    rw [spaced, List.flatMap_cons, List.append_assoc, List.singleton_append,
      lexemeTexts_append_blank (by decide), (h text (by simp)).lexemeTexts_eq]
    exact congrArg (text :: ·) rest

/-! ### Places of tokens -/

theorem lexemes_partition (text : String) : Partitions 0 text.toList (lexemes text) :=
  partitions_iff.mpr rfl

theorem stop_le_length {text : String} {l : Lexeme} (hl : l ∈ lexemes text) :
    l.stop ≤ text.length := by
  have spelled := congrArg List.length ((lexemes_partition text).spelled l hl).2
  have positive := ((lexemes_partition text).shaped l hl).length_pos
  simp only [List.length_take, List.length_drop, String.length_toList, Nat.sub_zero] at spelled
  rw [Lexeme.stop]
  omega

theorem start_lt_stop {text : String} {l : Lexeme} (hl : l ∈ lexemes text) : l.start < l.stop :=
  Nat.lt_add_of_pos_right ((lexemes_partition text).shaped l hl).length_pos

/-- The place of the first of the tokens, or the end of the text. -/
def placeOf (after : List Lexeme) (stop : Nat) : Nat := (after.head?.map (·.start)).getD stop

/-- The tokens that start before a place between them are those on its left. -/
theorem countP_start_lt {text : String} {before after : List Lexeme}
    (h : lexemes text = before ++ after) :
    (lexemes text).countP (·.start < placeOf after text.length) = before.length := by
  have earlier : ∀ l ∈ before, l.start < placeOf after text.length := by
    intro l hl
    have mem : l ∈ lexemes text := by rw [h]; exact List.mem_append_left _ hl
    refine Nat.lt_of_lt_of_le (start_lt_stop mem) ?_
    cases after with
    | nil => exact stop_le_length mem
    | cons first after =>
      have ordered := (lexemes_partition text).ordered
      rw [h] at ordered
      exact (List.pairwise_append.mp ordered).2.2 l hl first (by simp)
  have later : ∀ l ∈ after, ¬l.start < placeOf after text.length := by
    intro l hl
    cases after with
    | nil => simp at hl
    | cons first after =>
      rcases List.mem_cons.mp hl with rfl | hl'
      · exact Nat.lt_irrefl _
      · have ordered := (lexemes_partition text).ordered
        rw [h] at ordered
        have follows := (List.pairwise_cons.mp (List.pairwise_append.mp ordered).2.1).1 l hl'
        have mem : first ∈ lexemes text := by rw [h]; simp
        have extent := start_lt_stop mem
        show ¬l.start < first.start
        omega
  rw [h, List.countP_append, List.countP_eq_length.mpr (by simpa using earlier),
    List.countP_eq_zero.mpr (by simpa using later), Nat.add_zero]

namespace Query

/-! ### The pass up to a refusal -/

namespace Progress

/-- What is known after the tokens, if all of them can be taken. -/
def after? (progress : Progress) : List Token → Option Progress
  | [] => some progress
  | token :: rest =>
    match progress.step token with
    | .error _ => none
    | .ok progress => progress.after? rest

theorem refusal?_of_after? {progress reached : Progress} {before : List Token}
    (h : progress.after? before = some reached) (rest : List Token) :
    progress.refusal? (before ++ rest) = reached.refusal? rest := by
  induction before generalizing progress with
  | nil =>
    obtain rfl := Option.some.inj h
    rfl
  | cons token before ih =>
    rw [after?] at h
    rw [List.cons_append, refusal?]
    rcases hs : progress.step token with wanted | progress'
    · rw [hs] at h
      exact nomatch h
    · rw [hs] at h
      exact ih h

/-- A refusal comes after tokens that are taken, in a state that refuses what follows whatever
comes later. -/
theorem exists_of_refusal? {progress : Progress} {tokens : List Token} {refusal : Refusal}
    (h : progress.refusal? tokens = some refusal) :
    ∃ before reached, tokens = before ++ refusal.rest ∧ progress.after? before = some reached ∧
      ∀ token ∈ refusal.rest.head?, ∀ rest, (reached.refusal? (token :: rest)).isSome := by
  induction tokens generalizing progress with
  | nil =>
    obtain ⟨wanted, -, rfl⟩ := Option.map_eq_some_iff.mp h
    exact ⟨[], progress, rfl, rfl, by simp⟩
  | cons token tokens ih =>
    rw [refusal?] at h
    rcases hs : progress.step token with wanted | progress'
    · rw [hs] at h
      obtain rfl := Option.some.inj h
      refine ⟨[], progress, rfl, rfl, fun token' ht rest => ?_⟩
      obtain rfl : token = token' := by simpa using ht
      rw [refusal?, hs]
      rfl
    · rw [hs] at h
      obtain ⟨before, reached, rfl, taken, refused⟩ := ih h
      exact ⟨token :: before, reached, rfl, by rw [after?, hs]; exact taken, refused⟩

/-- Tokens that complete a query: a word where an operand is needed, and the end of every open
group. -/
def completion (progress : Progress) : List Token :=
  (if progress.needsOperand then [.word "x"] else []) ++ List.replicate progress.depth .rparen

theorem refusal?_completion (progress : Progress) :
    progress.refusal? progress.completion = none := by
  have closing (depth : Nat) :
      refusal? ⟨false, depth⟩ (List.replicate depth .rparen) = none := by
    induction depth with
    | zero => rfl
    | succ depth ih => rw [List.replicate_succ, refusal?_rparen]; exact ih
  obtain ⟨needsOperand, depth⟩ := progress
  cases needsOperand with
  | true => exact closing depth
  | false => exact closing depth

theorem isTokenText_of_mem_completion {progress : Progress} {token : Token}
    (h : token ∈ progress.completion) :
    IsTokenText token.text ∧ Token.ofText token.text = token := by
  have word : IsTokenText "x" :=
    .inr (.inr (isUnbroken_of_isWordPart (by decide) (List.all_eq_true.mp (by decide))))
  rcases List.mem_append.mp h with h | h
  · split at h
    · obtain rfl := List.mem_singleton.mp h
      exact ⟨word, rfl⟩
    · simp at h
  · obtain rfl := (List.mem_replicate.mp h).2
    exact ⟨.inr (.inl rfl), rfl⟩

end Progress

/-! ### Faults of the reader -/

variable {policy : MatchPolicy}

theorem exists_parse_ok_iff {text : String} :
    (∃ query, parse policy text = .ok query) ↔ refusal? (tokens text) = none := by
  rw [refusal?_eq_ofTokens policy, parse]
  rcases ofTokens policy (tokens text) with refusal | query
  · simp
  · simp

theorem exists_parse_error_iff {text : String} :
    (∃ fault, parse policy text = .error fault) ↔ (refusal? (tokens text)).isSome := by
  rw [refusal?_eq_ofTokens policy, parse]
  rcases ofTokens policy (tokens text) with refusal | query
  · simp
  · simp

/-- A fault of the reader is at the first of the tokens that the pass refuses. -/
theorem exists_split_of_parse_error {text : String} {fault : ParseFault}
    (h : parse policy text = .error fault) :
    ∃ before after reached, lexemes text = before ++ after ∧
      fault.position = placeOf after text.length ∧
      Progress.after? {} (before.map (Token.ofText ·.text)) = some reached ∧
      ∀ l ∈ after.head?, ∀ rest, (reached.refusal? (Token.ofText l.text :: rest)).isSome := by
  have agreed := refusal?_eq_ofTokens policy (tokens text)
  rw [parse] at h
  rcases hread : ofTokens policy (tokens text) with refusal | query
  · rw [hread] at h agreed
    obtain ⟨taken, reached, split, run, refused⟩ := Progress.exists_of_refusal? agreed
    obtain ⟨before, after, whole, rfl, rest⟩ := List.map_eq_append_iff.mp split
    have reach : (lexemes text).drop ((lexemes text).length - refusal.rest.length) = after := by
      rw [whole, ← rest, List.length_map, List.length_append, Nat.add_sub_cancel, List.drop_left]
    refine ⟨before, after, reached, whole, ?_, run, ?_⟩
    · obtain rfl := Except.error.inj h
      rw [faultAt, reach]
      cases after with
      | nil => rfl
      | cons l after => rfl
    · intro l hl
      refine refused _ ?_
      rw [← rest, List.head?_map, Option.mem_def.mp hl]
      rfl
  · rw [hread] at h
    exact nomatch h

/-- The tokens that the pass takes before it refuses one start a text that is read. -/
theorem exists_parse_ok_of_after? (policy : MatchPolicy) {text : String}
    {before after : List Lexeme} {reached : Progress} (whole : lexemes text = before ++ after)
    (run : Progress.after? {} (before.map (Token.ofText ·.text)) = some reached) :
    ∃ more query, parse policy more = .ok query ∧
      before.map (·.text) <+: (lexemes more).map (·.text) := by
  let texts := before.map (·.text) ++ reached.completion.map Token.text
  have shaped : ∀ part ∈ texts, IsTokenText part := by
    intro part hp
    rcases List.mem_append.mp hp with hp | hp
    · obtain ⟨l, hl, rfl⟩ := List.mem_map.mp hp
      exact (lexemes_partition text).shaped l (by rw [whole]; exact List.mem_append_left _ hl)
    · obtain ⟨token, ht, rfl⟩ := List.mem_map.mp hp
      exact (Progress.isTokenText_of_mem_completion ht).1
  let more := String.ofList (spaced texts)
  have scanned : (lexemes more).map (·.text) = texts := by
    have again := lexemeTexts_spaced shaped
    rwa [← String.toList_ofList (l := spaced texts)] at again
  have completed : tokens more = before.map (Token.ofText ·.text) ++ reached.completion := by
    have same : reached.completion.map (Token.ofText ·.text) = reached.completion :=
      (List.map_congr_left fun token ht =>
        (Progress.isTokenText_of_mem_completion ht).2).trans (List.map_id _)
    show (lexemes more).map (Token.ofText ∘ (·.text)) = _
    rw [← List.map_map, scanned, List.map_append, List.map_map, List.map_map]
    exact congrArg (_ ++ ·) same
  obtain ⟨query, read⟩ : ∃ query, parse policy more = .ok query := by
    rw [exists_parse_ok_iff, completed]
    exact (Progress.refusal?_of_after? run _).trans (Progress.refusal?_completion reached)
  exact ⟨more, query, read, by rw [scanned]; exact List.prefix_append _ _⟩

/-- No text that starts with the tokens up to a refused one is read. -/
theorem exists_parse_error_of_after? (policy : MatchPolicy) {before : List Lexeme} {l : Lexeme}
    {reached : Progress}
    (run : Progress.after? {} (before.map (Token.ofText ·.text)) = some reached)
    (refused : ∀ rest, (reached.refusal? (Token.ofText l.text :: rest)).isSome) {more : String}
    (starts : (before ++ [l]).map (·.text) <+: (lexemes more).map (·.text)) :
    ∃ fault, parse policy more = .error fault := by
  obtain ⟨rest, split⟩ := starts
  have continued : tokens more = before.map (Token.ofText ·.text) ++
      (Token.ofText l.text :: rest.map Token.ofText) := by
    show (lexemes more).map (Token.ofText ∘ (·.text)) = _
    rw [← List.map_map, ← split]
    simp
  rw [exists_parse_error_iff, continued]
  exact (congrArg Option.isSome (Progress.refusal?_of_after? run _)).trans (refused _)

/-- A fault lies in the text or at its end. -/
theorem position_le_length {text : String} {fault : ParseFault}
    (h : parse policy text = .error fault) : fault.position ≤ text.length := by
  obtain ⟨before, after, reached, whole, place, -⟩ := exists_split_of_parse_error h
  rw [place]
  cases after with
  | nil => exact Nat.le_refl _
  | cons l after =>
    have mem : l ∈ lexemes text := by rw [whole]; simp
    exact Nat.le_trans (Nat.le_of_lt (start_lt_stop mem)) (stop_le_length mem)

/-- **Faults are found at the earliest token.**  Let a text be refused at a position, with `k`
tokens that start before it.  Some text that is read starts with these `k` tokens.  If the position
is inside the text, a token starts there, and no text is read that starts with one token more; if
it is the end of the text, all tokens lie before it. -/
theorem parse_error_earliest {text : String} {fault : ParseFault}
    (h : parse policy text = .error fault) :
    let spelled := (lexemes text).map (·.text)
    let k := (lexemes text).countP (·.start < fault.position)
    (∃ more query, parse policy more = .ok query ∧
      spelled.take k <+: (lexemes more).map (·.text)) ∧
    fault.position ≤ text.length ∧
    (fault.position < text.length →
      (∃ l ∈ lexemes text, l.start = fault.position) ∧
      ∀ more, spelled.take (k + 1) <+: (lexemes more).map (·.text) →
        ∃ fault', parse policy more = .error fault') ∧
    (fault.position = text.length → ∀ l ∈ lexemes text, l.stop ≤ fault.position) := by
  obtain ⟨before, after, reached, whole, place, run, refused⟩ := exists_split_of_parse_error h
  have count : (lexemes text).countP (·.start < fault.position) = before.length := by
    rw [place]
    exact countP_start_lt whole
  intro spelled k
  have taken (n : Nat) :
      spelled.take (k + n) = before.map (·.text) ++ (after.take n).map (·.text) := by
    rw [show k = before.length from count, show spelled = _ from rfl, ← List.map_take, whole,
      List.take_length_add_append, List.map_append]
  refine ⟨?_, position_le_length h, fun inside => ?_, fun atEnd l hl => ?_⟩
  · rw [show spelled.take k = _ from taken 0, List.take_zero, List.map_nil, List.append_nil]
    exact exists_parse_ok_of_after? policy whole run
  · cases after with
    | nil =>
      rw [place] at inside
      exact absurd inside (Nat.lt_irrefl _)
    | cons l after =>
      refine ⟨⟨l, by rw [whole]; simp, place.symm⟩, fun more starts => ?_⟩
      rw [taken 1, ← List.map_append] at starts
      exact exists_parse_error_of_after? policy run (refused l rfl) starts
  · rw [atEnd]
    exact stop_le_length hl

/-- In a group that ends after `or`, the parenthesis is at fault: a word could stand there. -/
theorem unfinished_group_earliest :
    parse .word "red and (blue or) green" = .error ⟨.term, some ")", 16⟩ ∧
    (∃ more query, parse .word more = .ok query ∧
      ["red", "and", "(", "blue", "or"] <+: (lexemes more).map (·.text)) ∧
    ∀ more, ["red", "and", "(", "blue", "or", ")"] <+: (lexemes more).map (·.text) →
      ∃ fault, parse .word more = .error fault := by
  have refused : parse .word "red and (blue or) green" = .error ⟨.term, some ")", 16⟩ := by
    cbv
  have scanned : lexemes "red and (blue or) green" = [⟨"red", 0⟩, ⟨"and", 4⟩, ⟨"(", 8⟩,
      ⟨"blue", 9⟩, ⟨"or", 14⟩, ⟨")", 16⟩, ⟨"green", 18⟩] := by
    decide +kernel
  obtain ⟨viable, -, inside, -⟩ := parse_error_earliest refused
  rw [scanned] at viable inside
  exact ⟨refused, viable, (inside (by decide)).2⟩

end Query

end KeywordQuery
