import Mathlib.Data.List.Induction
import Mathlib.Tactic.SplitIfs
import GeventSignalR.Transport.Base

/-!
# The two reconnection policies

What `next` returns behind any calls of `next` and `reset`.

* `attempts` are the calls of `next` since the last `reset`.
* `next_raw`: a `RawReconnectionHandler` compares the counter with its limit before it counts, so
  that one call more than the limit returns, and stops counting behind the limit.
* `next_interval`: an `IntervalReconnectionHandler` returns once for each interval, and goes on
  counting.
-/

namespace GeventSignalR
namespace ReconnectionHandler

/-- A call of a method of a reconnection handler. -/
inductive Call where
  | next
  | reset
  deriving DecidableEq, Repr

/-- The handler behind a call. -/
def call (handler : ReconnectionHandler) : Call → ReconnectionHandler
  | .next => handler.next.1
  | .reset => handler.reset

/-- The handler behind some calls. -/
def after (handler : ReconnectionHandler) (calls : List Call) : ReconnectionHandler :=
  calls.foldl call handler

/-- The calls of `next` since the last `reset`. -/
def attempts (calls : List Call) : Nat :=
  calls.foldl (fun attempts call =>
    match call with
    | .next => attempts + 1
    | .reset => 0) 0

/-- What `next` returns, where the exception says that the maximum is reached. -/
def outcome (handler : ReconnectionHandler) : Option Int :=
  handler.next.2.toOption

variable (handler : ReconnectionHandler) (calls : List Call)

theorem after_concat (c : Call) : handler.after (calls ++ [c]) = (handler.after calls).call c := by
  simp [after]

theorem attempts_next : attempts (calls ++ [.next]) = attempts calls + 1 := by
  simp [attempts]

theorem attempts_reset : attempts (calls ++ [.reset]) = 0 := by
  simp [attempts]

/-- Its policy never changes. -/
theorem policy_next : handler.next.1.policy = handler.policy := by
  unfold next
  split
  · split_ifs <;> rfl
  · rfl
  · rfl

theorem policy_after : (handler.after calls).policy = handler.policy := by
  induction calls using List.reverseRecOn with
  | nil => rfl
  | append_singleton calls c ih =>
      rw [after_concat]
      cases c with
      | next => exact (policy_next _).trans ih
      | reset => exact ih

variable {handler}

/-- One call of a `RawReconnectionHandler` with a limit. -/
theorem next_of_raw {s : Int} {n : Nat} (h : handler.policy = .raw s (some n)) :
    handler.next.1.attemptNumber =
        (if handler.attemptNumber ≤ n then handler.attemptNumber + 1 else handler.attemptNumber) ∧
      handler.outcome = if handler.attemptNumber ≤ n then some s else none := by
  unfold outcome next
  simp only [h, Int.ofNat_le]
  split_ifs
  · exact ⟨rfl, rfl⟩
  · exact ⟨rfl, rfl⟩

/-- One call of an `IntervalReconnectionHandler`. -/
theorem next_of_interval {intervals : List Int} (h : handler.policy = .interval intervals) :
    handler.next.1.attemptNumber = handler.attemptNumber + 1 ∧
      handler.outcome = intervals[handler.attemptNumber]? := by
  unfold outcome next
  rw [h]
  constructor
  · rfl
  · dsimp only
    cases intervals[handler.attemptNumber]? with
    | none => rfl
    | some sleepTime => rfl

/-- Behind its limit a `RawReconnectionHandler` does not count. -/
theorem attemptNumber_raw (s : Int) (n : Nat) :
    ((new (.raw s (some n))).after calls).attemptNumber = min (attempts calls) (n + 1) := by
  induction calls using List.reverseRecOn with
  | nil => rfl
  | append_singleton calls c ih =>
      rw [after_concat]
      cases c with
      | next =>
          have hpolicy := policy_after (new (.raw s (some n))) calls
          rw [call, (next_of_raw hpolicy).1, ih, attempts_next]
          split_ifs <;> omega
      | reset =>
          rw [attempts_reset]
          rfl

/-- An `IntervalReconnectionHandler` counts every call. -/
theorem attemptNumber_interval (intervals : List Int) :
    ((new (.interval intervals)).after calls).attemptNumber = attempts calls := by
  induction calls using List.reverseRecOn with
  | nil => rfl
  | append_singleton calls c ih =>
      rw [after_concat]
      cases c with
      | next =>
          have hpolicy := policy_after (new (.interval intervals)) calls
          rw [call, (next_of_interval hpolicy).1, ih, attempts_next]
      | reset =>
          rw [attempts_reset]
          rfl

theorem outcome_raw (s : Int) (n : Nat) :
    ((new (.raw s (some n))).after calls).outcome =
      if attempts calls ≤ n then some s else none := by
  have hpolicy := policy_after (new (.raw s (some n))) calls
  rw [(next_of_raw hpolicy).2, attemptNumber_raw]
  have hlimit : min (attempts calls) (n + 1) ≤ n ↔ attempts calls ≤ n := by omega
  simp only [hlimit]

theorem outcome_interval (s : Int) (n : Nat) :
    ((new (.interval (List.replicate n s))).after calls).outcome =
      if attempts calls < n then some s else none := by
  have hpolicy := policy_after (new (.interval (List.replicate n s))) calls
  rw [(next_of_interval hpolicy).2, attemptNumber_interval, List.getElem?_replicate]

/-- Behind any calls, `RawReconnectionHandler(s, n)` returns `s` up to `n + 1` calls since the
last `reset`, and `IntervalReconnectionHandler([s] * n)` up to `n`: they differ at that one call,
and the first is equal to the second with one interval more. -/
theorem policies_agree (s : Int) (n : Nat) (calls : List Call) :
    ((new (.raw s (some n))).after calls).outcome =
        (if attempts calls < n + 1 then some s else none) ∧
      ((new (.interval (List.replicate n s))).after calls).outcome =
        (if attempts calls < n then some s else none) ∧
      ((new (.raw s (some n))).after calls).outcome =
        ((new (.interval (List.replicate (n + 1) s))).after calls).outcome ∧
      (((new (.raw s (some n))).after calls).outcome =
          ((new (.interval (List.replicate n s))).after calls).outcome ↔
        attempts calls ≠ n) := by
  have hlimit : attempts calls ≤ n ↔ attempts calls < n + 1 := by omega
  rw [outcome_raw, outcome_interval, outcome_interval]
  simp only [hlimit, true_and]
  split_ifs with hraw hinterval <;> simp <;> omega

/-- The second call with a limit of one. -/
theorem policies_differ :
    ((new (.raw 5 (some 1))).after [.next]).outcome = some 5 ∧
      ((new (.interval (List.replicate 1 5))).after [.next]).outcome = none := by
  decide

end ReconnectionHandler
end GeventSignalR
