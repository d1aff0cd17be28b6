import GeventSignalR.Coop.Logic

/-!
# Budgets

How much a thread can spend on its operations before it ends, where every operation has a price.

* `Prog.Spends` bounds what a program spends, whatever its operations return.
* `Frame.spent` is what a thread has spent so far.
* `System.spent_le`: a bound on the programs is a bound on the threads of every run.
-/

namespace Coop

namespace Prog

variable {S E O T α β : Type} {A : O → Type} {price : O → Nat} {m n : Nat}

/-- The program spends at most so much. -/
def Spends (price : O → Nat) : Nat → Prog S E O A T α → Prop
  | _, done _ => True
  | _, raise _ => True
  | n, read k => ∀ s, Spends price n (k s)
  | n, write _ k => Spends price n k
  | n, spawn _ k => Spends price n k
  | n, block op k => price op ≤ n ∧ ∀ r, Spends price (n - price op) (k r)

namespace Spends

variable {p : Prog S E O A T α}

theorem mono (hp : Spends price m p) (hmn : m ≤ n) : Spends price n p := by
  induction p generalizing m n with
  | done a => trivial
  | raise e => trivial
  | read k ih => exact fun s => ih s (hp s) hmn
  | write f k ih => exact ih hp hmn
  | spawn t k ih => exact ih hp hmn
  | block op k ih =>
      exact ⟨hp.1.trans hmn, fun r => ih r (hp.2 r) (Nat.sub_le_sub_right hmn _)⟩

theorem pure (a : α) : Spends price n (pure a : Prog S E O A T α) := trivial

theorem raise (e : E) : Spends price n (raise e : Prog S E O A T α) := trivial

theorem get : Spends price n (get : Prog S E O A T S) := fun _ => trivial

theorem modify (f : S → S) : Spends price n (modify f : Prog S E O A T Unit) := trivial

theorem fork (t : T) : Spends price n (fork t : Prog S E O A T Unit) := trivial

theorem ofExcept (r : Except E α) : Spends price n (ofExcept r : Prog S E O A T α) := by
  cases r <;> trivial

theorem perform (op : O) : Spends price (price op) (perform op : Prog S E O A T (A op)) := by
  refine ⟨le_rfl, fun r => ?_⟩
  cases r <;> trivial

/-- What both parts spend. -/
theorem bind {f : α → Prog S E O A T β} (hp : Spends price m p)
    (hf : ∀ a, Spends price n (f a)) : Spends price (m + n) (p >>= f) := by
  change Spends price (m + n) (p.bind f)
  induction p generalizing m with
  | done a => exact (hf a).mono (Nat.le_add_left n m)
  | raise e => trivial
  | read k ih => exact fun s => ih s (hp s)
  | write g k ih => exact ih hp
  | spawn t k ih => exact ih hp
  | block op k ih =>
      refine ⟨hp.1.trans (Nat.le_add_right m n), fun r => ?_⟩
      have hsub : m + n - price op = m - price op + n := by
        have hle : price op ≤ m := hp.1
        omega
      rw [hsub]
      exact ih r (hp.2 r)

/-- The part in front spends nothing. -/
theorem free_bind {f : α → Prog S E O A T β} (hp : Spends price 0 p)
    (hf : ∀ a, Spends price n (f a)) : Spends price n (p >>= f) := by
  have hbind := bind hp hf
  rwa [zero_add] at hbind

theorem get_bind {f : S → Prog S E O A T β} (hf : ∀ s, Spends price n (f s)) :
    Spends price n (Prog.get >>= f) := hf

theorem modify_bind {g : S → S} {q : Unit → Prog S E O A T β} (hq : Spends price n (q ())) :
    Spends price n (Prog.modify g >>= q) := hq

theorem tryCatch {handler : E → Prog S E O A T α} (hp : Spends price m p)
    (hhandler : ∀ e, Spends price n (handler e)) : Spends price (m + n) (p.tryCatch handler) := by
  induction p generalizing m with
  | done a => trivial
  | raise e => exact (hhandler e).mono (Nat.le_add_left n m)
  | read k ih => exact fun s => ih s (hp s)
  | write g k ih => exact ih hp
  | spawn t k ih => exact ih hp
  | block op k ih =>
      refine ⟨hp.1.trans (Nat.le_add_right m n), fun r => ?_⟩
      have hsub : m + n - price op = m - price op + n := by
        have hle : price op ≤ m := hp.1
        omega
      rw [hsub]
      exact ih r (hp.2 r)

theorem attempt (hp : Spends price n p) : Spends price n p.attempt := by
  have hattempt := tryCatch (n := 0) (bind (n := 0) hp fun a => pure (Except.ok a))
    fun e => pure (Except.error e)
  exact hattempt

theorem finally_ {q : Prog S E O A T Unit} (hp : Spends price m p) (hq : Spends price n q) :
    Spends price (m + n) (p.finally_ q) := by
  have hback : ∀ r : Except E α, Spends price n (q >>= fun _ => Prog.ofExcept r) := fun r =>
    bind (n := 0) hq fun _ => ofExcept r
  exact bind hp.attempt hback

theorem when {c : Bool} {p : Prog S E O A T Unit} (hp : Spends price n p) :
    Spends price n (p.when c) := by
  cases c with
  | true => exact hp
  | false => exact pure ()

theorem ite {c : Prop} [Decidable c] {q : Prog S E O A T α} (hp : Spends price n p)
    (hq : Spends price n q) : Spends price n (if c then p else q) := by
  split
  · exact hp
  · exact hq

theorem elim {o : Option β} {q : β → Prog S E O A T α} (hp : Spends price n p)
    (hq : ∀ b, Spends price n (q b)) : Spends price n (o.elim p q) := by
  cases o with
  | none => exact hp
  | some b => exact hq b

/-- A loop whose body spends nothing. -/
theorem each {γ : Type} {xs : List γ} {f : γ → Prog S E O A T Unit}
    (hf : ∀ x, Spends price 0 (f x)) : Spends price 0 (each xs f) := by
  induction xs with
  | nil => trivial
  | cons x xs ih => exact bind (hf x) fun _ => ih

theorem entering {f : S → S} (hp : Spends price n p) : Spends price n (p.entering f) := by
  induction p generalizing n with
  | done a => trivial
  | raise e => trivial
  | read k ih => exact fun s => ih s (hp s)
  | write g k ih => exact ih hp
  | spawn t k ih => exact ih hp
  | block op k ih => exact ⟨hp.1, fun r => ih r (hp.2 r)⟩

/-- A stretch costs nothing, and then the operation it blocks on does. -/
theorem run {s s' : S} {ts : List T} {op : O} {k : Except E (A op) → Prog S E O A T α}
    (hp : Spends price n p) (hrun : p.run s = (s', ts, .blocked op k)) :
    price op ≤ n ∧ ∀ r, Spends price (n - price op) (k r) := by
  induction p generalizing s s' ts with
  | done a => cases hrun
  | raise e => cases hrun
  | read k ih => exact ih s (hp s) hrun
  | write f k ih => exact ih hp hrun
  | spawn t p ih =>
      simp only [Prog.run] at hrun
      rcases hstretch : p.run s with ⟨mid, ts', outcome⟩
      rw [hstretch] at hrun
      simp only [Prod.mk.injEq] at hrun
      obtain ⟨-, -, rfl⟩ := hrun
      exact ih hp hstretch
  | block op k ih =>
      cases hrun
      exact hp

end Spends

end Prog

/-! ## Threads -/

/-- What the answered operations of a thread have cost. -/
def cost {S E O : Type} {A : O → Type} (price : O → Nat) : List (Logged S E O A) → Nat
  | [] => 0
  | answered :: history => price answered.op + cost price history

/-- What a thread has spent, with the operation it waits for. -/
def Frame.spent {S E O T : Type} {A : O → Type} (price : O → Nat) : Frame S E O A T → Nat
  | .ready _ => 0
  | .waiting _ history _ op _ => cost price history + price op

variable {S E O T R : Type} {A : O → Type} {price : O → Nat} {sys : System S E O A T R}
  {c : Cond S E O A T}

@[simp] theorem cost_nil : cost price ([] : List (Logged S E O A)) = 0 := rfl

@[simp] theorem cost_concat (history : List (Logged S E O A)) (answered : Logged S E O A) :
    cost price (history ++ [answered]) = cost price history + price answered.op := by
  induction history with
  | nil => simp [cost]
  | cons first history ih => rw [List.cons_append, cost, cost, ih, add_assoc]

namespace System

/-- A blocked thread has not spent more than its budget, and will not. -/
def Affords (price : O → Nat) (budget : T → Option Nat) : Frame S E O A T → Prop
  | .ready _ => True
  | .waiting t history _ op k => ∀ n, budget t = some n →
      cost price history + price op ≤ n ∧
        ∀ r, (k r).Spends price (n - (cost price history + price op))

variable {budget : T → Option Nat}

theorem affords_settles {s : S} {t : T} {P : Multiset (Label O T)}
    {history : List (Logged S E O A)} {p : Prog S E O A T Bool}
    (hspent : ∀ n, budget t = some n → cost price history ≤ n)
    (hp : ∀ n, budget t = some n → p.Spends price (n - cost price history)) :
    Settles (fun _ _ => True) (fun t h _ _ => ∀ n, budget t = some n → cost price h ≤ n)
      (fun _ => Affords price budget) s t P history (p.run s) := by
  refine ⟨fun _ hframe => hframe, ?_⟩
  rcases hrun : p.run s with ⟨s', ts, r | ⟨op, k⟩⟩
  · have hends : Ends (fun _ _ => True)
        (fun t h _ _ => ∀ n, budget t = some n → cost price h ≤ n) t r s'
        (Label.readies ts + P) history := ⟨hspent, by split <;> trivial⟩
    exact hends
  · refine ⟨trivial, fun n hn => ?_⟩
    obtain ⟨hle, hrest⟩ := (hp n hn).run hrun
    have hsofar := hspent n hn
    refine ⟨by omega, fun r => ?_⟩
    have hsub : n - (cost price history + price op) = n - cost price history - price op := by
      omega
    rw [hsub]
    exact hrest r

/-- In every run, no thread has spent more than its budget. -/
theorem spent_le (hbody : ∀ t n, budget t = some n → (sys.body t).Spends price n)
    {w : World S E O A T} (h : sys.Reach c w) {t : T} {n : Nat} (hn : budget t = some n) :
    (∀ g ∈ w.pool, ∀ frame ∈ g.frames, frame.label.thread = t → frame.spent price ≤ n) ∧
      ∀ e ∈ w.ended, e.thread = t → cost price e.history ≤ n := by
  have hupholds : w.Upholds (fun _ _ => True)
      (fun t h _ _ => ∀ n, budget t = some n → cost price h ≤ n)
      fun _ => Affords price budget := by
    refine h.upholds trivial (fun _ _ _ _ _ _ => trivial) (fun _ _ => trivial) ?_ ?_
    · intro s P t _ _
      exact affords_settles (fun _ _ => Nat.zero_le _) fun n hn => by
        rw [cost_nil, Nat.sub_zero]
        exact hbody t n hn
    · intro s P t history s₀ op k r hframe _ _
      refine affords_settles (fun n hn => ?_) fun n hn => ?_
      · rw [cost_concat]
        exact (hframe n hn).1
      · rw [cost_concat]
        exact (hframe n hn).2 r
  constructor
  · rintro g hg (t' | ⟨t', history, s, op, k⟩) hframe rfl
    · exact Nat.zero_le _
    · exact (hupholds.frames g hg _ hframe n hn).1
  · rintro e he rfl
    exact hupholds.ended e he n hn

end System

end Coop
