import Mathlib.Data.List.Induction

/-!
# Attributes behind a sequence of calls

An object whose methods assign attributes, and what an attribute is behind a sequence of calls.

* `foldl_assigned`: the last call that assigns it counts.
* `foldl_collected`: an attribute that calls add to has what all of them add, in their order.
-/

namespace Python

variable {σ α β γ : Type} {step : σ → α → σ} {get : σ → β}

/-- The last assignment counts. -/
theorem foldl_assigned {assigned : α → Option β}
    (hstep : ∀ s a, get (step s a) = (assigned a).getD (get s)) (s : σ)
    (calls : List α) :
    get (calls.foldl step s) = (calls.filterMap assigned).getLast?.getD (get s) := by
  induction calls using List.reverseRecOn with
  | nil => rfl
  | append_singleton calls call ih =>
      rw [List.foldl_append, List.foldl_cons, List.foldl_nil, hstep, ih, List.filterMap_append]
      cases hcall : assigned call <;> simp [hcall]

/-- What is added is added up. -/
theorem foldl_collected {add : β → γ → β} {added : α → List γ}
    (hstep : ∀ s a, get (step s a) = (added a).foldl add (get s)) (s : σ)
    (calls : List α) :
    get (calls.foldl step s) = (calls.flatMap added).foldl add (get s) := by
  induction calls generalizing s with
  | nil => rfl
  | cons call calls ih => rw [List.foldl_cons, ih, hstep, List.flatMap_cons, List.foldl_append]

/-- Calls that assign nothing do not matter. -/
theorem filterMap_filter {assigned : α → Option β} {p : α → Bool}
    (h : ∀ a, p a = false → assigned a = none) (calls : List α) :
    (calls.filter p).filterMap assigned = calls.filterMap assigned := by
  induction calls with
  | nil => rfl
  | cons call calls ih =>
      cases hp : p call with
      | true => simp [hp, List.filterMap_cons, ih]
      | false => simp [hp, h call hp, ih]

end Python
