import Mathlib.Data.List.DropRight
import KeywordQuery.Text.Blank

/-!
# The ends of a list

What is left of a list when the elements of a class are dropped at its ends.

* `dropWhile_eq_self`, `dropEnd_eq_self`, `dropEnds_eq_self` — lists that keep their ends;
* `dropEnds_eq_nil_iff` — lists of which nothing is left;
* `dropEnd_append_of_neg`, `dropEnd_append_of_pos` — ends of an append that stay, and that go;
* `dropEnds_surrounded` — lists between elements that are dropped.
-/

namespace KeywordQuery.Text

variable {α : Type} {p : α → Bool} {xs ys : List α}

/-! ### What is kept -/

theorem dropWhile_eq_self (h : ∀ x ∈ xs.head?, p x = false) : xs.dropWhile p = xs := by
  cases xs with
  | nil => rfl
  | cons x xs => exact List.dropWhile_cons_of_neg (by simp [h x rfl])

theorem dropEnd_eq_self (h : ∀ x ∈ xs.getLast?, p x = false) : dropEnd p xs = xs := by
  have last : ∀ x ∈ xs.reverse.head?, p x = false := by
    rwa [List.head?_reverse]
  rw [dropEnd, dropWhile_eq_self last, List.reverse_reverse]

theorem dropEnds_eq_self (first : ∀ x ∈ xs.head?, p x = false)
    (last : ∀ x ∈ xs.getLast?, p x = false) : dropEnds p xs = xs := by
  rw [dropEnds, dropWhile_eq_self first, dropEnd_eq_self last]

theorem dropEnds_cons_concat {first last : α} (hf : p first = false) (hl : p last = false)
    (middle : List α) : dropEnds p (first :: (middle ++ [last])) = first :: (middle ++ [last]) := by
  have behind : (first :: (middle ++ [last])).getLast? = some last :=
    List.getLast?_concat (l := first :: middle)
  refine dropEnds_eq_self (fun x hx => ?_) (fun x hx => ?_)
  · obtain rfl : first = x := by simpa using hx
    exact hf
  · rw [behind, Option.mem_some_iff] at hx
    obtain rfl := hx
    exact hl

theorem dropEnd_isPrefix (p : α → Bool) (xs : List α) : dropEnd p xs <+: xs :=
  List.rdropWhile_prefix p xs

theorem dropEnds_isInfix (p : α → Bool) (xs : List α) : dropEnds p xs <:+: xs :=
  (dropEnd_isPrefix p _).isInfix.trans (List.dropWhile_suffix p).isInfix

/-! ### What is dropped -/

theorem dropEnds_eq_nil_iff : dropEnds p xs = [] ↔ ∀ x ∈ xs, p x = true := by
  constructor
  · intro none x hx
    by_contra kept
    have rest : ∀ y ∈ xs.dropWhile p, p y = true := List.rdropWhile_eq_nil_iff.mp none
    have all : xs.dropWhile p = [] := by
      cases split : xs.dropWhile p with
      | nil => rfl
      | cons y ys =>
        have stop := List.head?_dropWhile_not p xs
        rw [split, List.head?_cons] at stop
        have first := rest y (by rw [split]; exact List.mem_cons_self)
        exact absurd first (by simp [stop])
    exact kept (List.dropWhile_eq_nil_iff.mp all x hx)
  · intro all
    rw [dropEnds, List.dropWhile_eq_nil_iff.mpr all]
    rfl

theorem dropEnd_append_of_ne_nil (h : dropEnd p ys ≠ []) :
    dropEnd p (xs ++ ys) = xs ++ dropEnd p ys := by
  have some : ¬(ys.reverse.dropWhile p).isEmpty = true := by
    rw [List.isEmpty_iff]
    exact mt List.reverse_eq_nil_iff.mpr h
  rw [dropEnd, List.reverse_append, List.dropWhile_append, if_neg some, List.reverse_append,
    List.reverse_reverse]
  rfl

theorem dropEnd_append_of_neg (h : ∀ x ∈ xs, p x = false) :
    dropEnd p (xs ++ ys) = xs ++ dropEnd p ys := by
  by_cases nil : dropEnd p ys = []
  · have gone : (ys.reverse.dropWhile p).isEmpty = true := by
      rw [List.isEmpty_iff]
      exact List.reverse_eq_nil_iff.mp nil
    have last : dropEnd p xs = xs :=
      dropEnd_eq_self fun x hx => h x (List.mem_of_getLast? hx)
    rw [nil, dropEnd, List.reverse_append, List.dropWhile_append, if_pos gone, List.append_nil]
    exact last
  · exact dropEnd_append_of_ne_nil nil

theorem dropEnd_append_of_pos (h : ∀ y ∈ ys, p y = true) :
    dropEnd p (xs ++ ys) = dropEnd p xs := by
  have gone : ∀ y ∈ ys.reverse, p y = true := fun y hy => h y (List.mem_reverse.mp hy)
  rw [dropEnd, List.reverse_append, List.dropWhile_append_of_pos gone, dropEnd]

/-- What is dropped anyway can be put around a list. -/
theorem dropEnds_surrounded {before after : List α} (hb : ∀ x ∈ before, p x = true)
    (ha : ∀ x ∈ after, p x = true) (xs : List α) :
    dropEnds p (before ++ xs ++ after) = dropEnds p xs := by
  rw [dropEnds, List.append_assoc, List.dropWhile_append_of_pos hb, List.dropWhile_append]
  by_cases gone : (xs.dropWhile p).isEmpty = true
  · have rest : after.dropWhile p = [] := List.dropWhile_eq_nil_iff.mpr ha
    rw [if_pos gone, rest, dropEnds, List.isEmpty_iff.mp gone]
  · rw [if_neg gone, dropEnd_append_of_pos ha, dropEnds]

end KeywordQuery.Text
