import GeventSignalR.Coop.Logic
import Mathlib.Algebra.BigOperators.Group.Multiset.Basic
import Mathlib.Data.Multiset.Count

/-!
# Balance

A quantity of the shared state for which the threads account by where they stand: a lock that is
taken and the thread inside it, an object in use and the thread that uses it.

* `Tally` says how much of the quantity there is, and how much of it each position accounts for.
* `Tallied` is the invariant: what is not accounted for by another position is held by the
  running thread.
* The rules say what a program does to what it holds.
-/

namespace Coop

/-- A quantity of the state, and the share of each position. -/
structure Tally (S O T : Type) : Type where
  amount : S → Nat
  share : Label O T → Nat

namespace Tally

variable {S O T : Type}

/-- The positions of one kind account for one unit each. -/
def counting (amount : S → Nat) (p : Label O T → Bool) : Tally S O T where
  amount
  share := fun l => if p l then 1 else 0

/-- The shares of some positions. -/
def shares (L : Tally S O T) (P : Multiset (Label O T)) : Nat :=
  (P.map L.share).sum

@[simp] theorem shares_zero (L : Tally S O T) : L.shares 0 = 0 := rfl

@[simp] theorem shares_cons (L : Tally S O T) (l : Label O T) (P : Multiset (Label O T)) :
    L.shares (l ::ₘ P) = L.share l + L.shares P := by
  simp [shares]

theorem shares_counting (amount : S → Nat) (p : Label O T → Bool) (P : Multiset (Label O T)) :
    (counting amount p).shares P = P.countP fun l => p l = true := by
  induction P using Multiset.induction with
  | empty => rfl
  | cons l P ih =>
      rw [shares_cons, ih, Multiset.countP_cons, add_comm]
      rfl

end Tally

/-- The running thread holds some of the quantity, and the positions of the other threads account
for the rest. -/
def Tallied {S O T : Type} (L : Tally S O T) (mine : Nat) (s : S)
    (P : Multiset (Label O T)) : Prop :=
  L.amount s = mine + L.shares P

namespace Tallied

variable {S E O T α : Type} {A : O → Type} {L : Tally S O T} {mine n : Nat} {s s' : S}
  {P : Multiset (Label O T)} {l : Label O T} {me : T}
  {C : S → Multiset (Label O T) → (op : O) → Except E (A op) → Prop}

/-! ## What the running thread holds -/

/-- The quantity does not change. -/
theorem congr (h : Tallied L mine s P) (hs : L.amount s' = L.amount s) :
    Tallied L mine s' P :=
  hs.trans h

/-- The running thread adds to the quantity. -/
theorem gain (h : Tallied L mine s P) (hs : L.amount s' = L.amount s + n) :
    Tallied L (mine + n) s' P := by
  unfold Tallied at *
  omega

/-- It takes away what it holds. -/
theorem lose (h : Tallied L (mine + n) s P) (hs : L.amount s' + n = L.amount s) :
    Tallied L mine s' P := by
  unfold Tallied at *
  omega

/-- A position accounts for all that its thread held. -/
theorem settle (h : Tallied L mine s P) (hl : L.share l = mine) : Tallied L 0 s (l ::ₘ P) := by
  unfold Tallied at *
  rw [Tally.shares_cons]
  omega

/-- A thread that goes on holds what its position accounted for. -/
theorem resume (h : Tallied L 0 s (l ::ₘ P)) (hl : L.share l = mine) : Tallied L mine s P := by
  unfold Tallied at *
  rw [Tally.shares_cons] at h
  omega

/-- A new position accounts for what the running thread hands over. -/
theorem hand (h : Tallied L (mine + n) s P) (hl : L.share l = n) :
    Tallied L mine s (l ::ₘ P) := by
  unfold Tallied at *
  rw [Tally.shares_cons]
  omega

/-! ## Programs -/

theorem modify {f : S → S} (hf : ∀ s, L.amount (f s) = L.amount s) :
    Prog.Keeps ⟨me, Tallied L 0, C⟩ (Tallied L mine)
      (Prog.modify f : Prog S E O A T Unit) :=
  Prog.Keeps.modify fun s _ h => h.congr (hf s)

theorem perform {op : O} (hop : L.share (.blocked me op) = mine) :
    Prog.Keeps ⟨me, Tallied L 0, C⟩ (Tallied L mine)
      (Prog.perform op : Prog S E O A T (A op)) :=
  Prog.Keeps.perform (fun _ _ h => h.settle hop) fun _ _ _ h _ => h.resume hop

theorem fork {t : T} (ht : L.share (.ready t) = 0) :
    Prog.Keeps ⟨me, Tallied L 0, C⟩ (Tallied L mine)
      (Prog.fork t : Prog S E O A T Unit) :=
  Prog.Keeps.fork fun _ _ h => h.hand (n := 0) ht

/-! ## Worlds -/

/-- Between the stretches of threads, the positions account for all of the quantity. -/
theorem countP {amount : S → Nat} {p : Label O T → Bool}
    (h : Tallied (Tally.counting amount p) 0 s P) :
    (P.countP fun l => p l = true) = amount s := by
  rw [← Tally.shares_counting amount p]
  unfold Tallied at h
  rw [zero_add] at h
  exact h.symm

end Tallied

end Coop
