import Mathlib.Data.List.InsertIdx

set_option autoImplicit false

/-! # Places in a row

Both the messages of a prompt and the figures on the stage stand in a row, into which things are put
and from which they are taken by their places. -/

namespace Dramaturg.Row

variable {α : Type}

theorem insertIdx_eq_take_append_drop (xs : List α) (x : α) {i : Nat} (h : i ≤ xs.length) :
    xs.insertIdx i x = xs.take i ++ x :: xs.drop i := by
  induction xs generalizing i with
  | nil =>
    obtain rfl : i = 0 := Nat.le_zero.1 h
    rfl
  | cons y xs ih =>
    cases i with
    | zero => rfl
    | succ i =>
      have hi : i ≤ xs.length := Nat.le_of_succ_le_succ h
      simp [ih hi]

/-- Taking out by places that are all one further to the right leaves the first thing alone. -/
theorem foldr_eraseIdx_cons (places : List (α × Nat)) (x : α) (xs : List α) :
    (places.map fun placed => (placed.1, placed.2 + 1)).foldr
        (fun placed ys => ys.eraseIdx placed.2) (x :: xs)
      = x :: places.foldr (fun placed ys => ys.eraseIdx placed.2) xs := by
  induction places with
  | nil => rfl
  | cons first places ih =>
    rw [List.map_cons, List.foldr_cons, ih, List.foldr_cons, List.eraseIdx_cons_succ]

/-- Taking out by place, the last one first, is keeping the rest. -/
theorem foldr_eraseIdx_zipIdx (wanted : α → Bool) (xs : List α) :
    (xs.zipIdx.filter fun placed => !wanted placed.1).foldr
        (fun placed ys => ys.eraseIdx placed.2) xs
      = xs.filter wanted := by
  induction xs with
  | nil => rfl
  | cons x xs ih =>
    have hlater : (xs.zipIdx 1).filter (fun placed => !wanted placed.1)
        = (xs.zipIdx.filter fun placed => !wanted placed.1).map
            fun placed => (placed.1, placed.2 + 1) := by
      rw [List.zipIdx_succ, List.filter_map]
      rfl
    rw [List.zipIdx_cons, List.filter_cons, hlater]
    cases hx : wanted x with
    | true => rw [if_neg (by simp), foldr_eraseIdx_cons, ih, List.filter_cons_of_pos hx]
    | false =>
      rw [if_pos (by simp), List.foldr_cons, foldr_eraseIdx_cons, ih, List.eraseIdx_cons_zero,
        List.filter_cons_of_neg (by simp [hx])]

end Dramaturg.Row
