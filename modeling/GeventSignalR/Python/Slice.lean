import Mathlib.Data.List.Basic
import Mathlib.Order.MinMax
import Mathlib.Tactic.SplitIfs

/-!
# Python slices of a list

`xs[start:stop]` with Python's rules for bounds: a negative bound counts from
the end, and a bound outside the sequence is clipped instead of raising.  The
definition works for elements of any type.
-/

namespace Python

variable {α : Type}

/-- The position a slice bound denotes in a sequence of `length` elements. -/
def bound (length : Nat) (i : Int) : Nat :=
  if i < 0 then (length + i).toNat else min i.toNat length

/-- `xs[start:stop]`. -/
def slice (xs : List α) (start stop : Int) : List α :=
  (xs.take (bound xs.length stop)).drop (bound xs.length start)

@[simp] theorem bound_natCast (length n : Nat) : bound length n = min n length := by
  simp [bound]

theorem bound_of_neg {length : Nat} {i : Int} (h : i < 0) :
    bound length i = (length + i).toNat := by
  simp [bound, h]

theorem bound_of_nonneg {length : Nat} {i : Int} (h : 0 ≤ i) :
    bound length i = min i.toNat length := by
  simp [bound, not_lt.mpr h]

@[simp] theorem length_slice (xs : List α) (start stop : Int) :
    (slice xs start stop).length =
      min (bound xs.length stop) xs.length - bound xs.length start := by
  simp [slice]

/-- A slice of width one has at most one element. -/
theorem length_slice_succ_le (xs : List α) (i : Int) : (slice xs i (i + 1)).length ≤ 1 := by
  rw [length_slice, bound, bound]
  split_ifs <;> omega

/-- A slice whose bounds meet or cross is empty. -/
theorem slice_eq_nil {xs : List α} {start stop : Int}
    (h : bound xs.length stop ≤ bound xs.length start) :
    slice xs start stop = [] := by
  apply List.eq_nil_of_length_eq_zero
  rw [length_slice]
  omega

/-- Two bounds that are both non-negative and in the wrong order. -/
theorem slice_eq_nil_of_nonneg {xs : List α} {start stop : Int}
    (hstop : 0 ≤ stop) (hle : stop ≤ start) : slice xs start stop = [] := by
  apply slice_eq_nil
  rw [bound_of_nonneg hstop, bound_of_nonneg (hstop.trans hle)]
  omega

/-- The slice between the lengths of a prefix and of a longer prefix. -/
theorem slice_append_append (xs ys zs : List α) :
    slice (xs ++ ys ++ zs) xs.length (xs.length + ys.length : Nat) = ys := by
  simp only [slice, bound_natCast, List.length_append]
  rw [min_eq_left (by omega), min_eq_left (by omega), List.take_append_of_le_length (by simp),
    List.take_of_length_le (by simp), List.drop_left]

end Python
