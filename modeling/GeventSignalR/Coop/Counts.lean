import GeventSignalR.Coop.Amid
import GeventSignalR.Coop.Logic

/-!
# Counting operations

How often a program performs operations of one kind, whatever its environment does.

* `Prog.mem_returns_only`: a program that performs only some operations gets no answer to
  another one.
* `Prog.Bounds` compares the numbers of two kinds of answers, with one rule for each construct.
* `Prog.Owes`: an exception comes with an answer of a kind.
-/

namespace Coop

namespace Prog

variable {S E O T α β : Type} {A : O → Type} {env : Env S E O A} {tr tr' : Trace S E O A T}
  {me : T}

/-- The operations of a program that performs only some are among them. -/
theorem mem_returns_only {allowed : O → Prop} {p : Prog S E O A T α} (h : Only me allowed p)
    {x : Returned S E O A} (hx : x ∈ p.returns env tr) : allowed x.op := by
  have hwp := h tr.state 0 [] ⟨trivial, by simp⟩
  clear h
  revert hwp
  generalize (0 : Multiset (Label O T)) = P₀, ([] : List (Logged S E O A)) = h₀
  intro hwp
  induction p generalizing tr P₀ h₀ with
  | done a => cases hx
  | raise e => cases hx
  | read k ih => exact ih tr.state hx P₀ h₀ hwp
  | write f k ih => exact ih hx P₀ h₀ hwp
  | spawn t k ih => exact ih hx _ h₀ hwp
  | block op k ih =>
      rcases List.mem_cons.mp hx with rfl | hx
      · exact hwp.1.head
      · exact ih _ hx P₀ _ (hwp.2 _ P₀ _ ⟨trivial, hwp.1.at_⟩ trivial)

theorem returns_attempt (p : Prog S E O A T α) : p.attempt.returns env tr = p.returns env tr := by
  induction p generalizing tr with
  | done a => rfl
  | raise e => rfl
  | read k ih => exact ih _
  | write f k ih => exact ih
  | spawn t k ih => exact ih
  | block op k ih => exact congrArg (_ :: ·) (ih _)

theorem amid_attempt (p : Prog S E O A T α) :
    p.attempt.amid env tr = (.ok (p.amid env tr).1, (p.amid env tr).2) := by
  induction p generalizing tr with
  | done a => rfl
  | raise e => rfl
  | read k ih => exact ih _
  | write f k ih => exact ih
  | spawn t k ih => exact ih
  | block op k ih => exact ih _

/-- The program performs at most so many operations of one kind more than of another. -/
def Bounds (env : Env S E O A) (f g : Returned S E O A → Bool) (k : Nat)
    (p : Prog S E O A T α) : Prop :=
  ∀ tr, (p.returns env tr).countP f ≤ k + (p.returns env tr).countP g

namespace Bounds

variable {f g : Returned S E O A → Bool} {k l : Nat} {p : Prog S E O A T α}

theorem mono (hp : Bounds env f g k p) (hkl : k ≤ l) : Bounds env f g l p := by
  intro tr
  have hbound := hp tr
  omega

/-- A program that performs no operation of the kind. -/
theorem of_only {allowed : O → Prop} (hp : Only me allowed p)
    (hf : ∀ x, allowed x.op → f x = false) : Bounds env f g 0 p := by
  intro tr
  have hnone : (p.returns env tr).countP f = 0 := by
    rw [List.countP_eq_zero]
    intro x hx
    simp [hf x (mem_returns_only hp hx)]
  omega

theorem pure (a : α) : Bounds env f g 0 (pure a : Prog S E O A T α) :=
  fun _ => Nat.zero_le _

theorem raise (e : E) : Bounds env f g 0 (raise e : Prog S E O A T α) :=
  fun _ => Nat.zero_le _

theorem perform (op : O) : Bounds env f g 1 (perform op : Prog S E O A T (A op)) := by
  intro tr
  rw [returns_perform]
  have hone := List.countP_le_length (p := f) (l := [(⟨(env tr.ops op tr.state).2, op,
    (env tr.ops op tr.state).1⟩ : Returned S E O A)])
  rw [List.length_singleton] at hone
  omega

theorem bind {q : α → Prog S E O A T β} (hp : Bounds env f g k p)
    (hq : ∀ a, Bounds env f g l (q a)) : Bounds env f g (k + l) (p >>= q) := by
  intro tr
  have hfront := hp tr
  rcases hrun : p.amid env tr with ⟨e | a, mid⟩
  · rw [returns_bind_error hrun]
    omega
  · rw [returns_bind_ok hrun, List.countP_append, List.countP_append]
    have hback := hq a mid
    omega

theorem tryCatch {handler : E → Prog S E O A T α} (hp : Bounds env f g k p)
    (hhandler : ∀ e, Bounds env f g l (handler e)) : Bounds env f g (k + l) (p.tryCatch handler) := by
  intro tr
  have hfront := hp tr
  rcases hrun : p.amid env tr with ⟨e | a, mid⟩
  · rw [returns_tryCatch_error hrun, List.countP_append, List.countP_append]
    have hback := hhandler e mid
    omega
  · rw [returns_tryCatch_ok hrun]
    omega

theorem attempt (hp : Bounds env f g k p) : Bounds env f g k p.attempt := by
  intro tr
  rw [returns_attempt]
  exact hp tr

theorem when {c : Bool} {p : Prog S E O A T Unit} (hp : Bounds env f g k p) :
    Bounds env f g k (p.when c) := by
  cases c with
  | true => exact hp
  | false => exact fun _ => Nat.zero_le _

theorem ite {c : Prop} [Decidable c] {q : Prog S E O A T α} (hp : Bounds env f g k p)
    (hq : Bounds env f g k q) : Bounds env f g k (if c then p else q) := by
  split
  · exact hp
  · exact hq

/-- An answer that counts on the right pays for one operation behind it. -/
theorem perform_bind {op : O} {q : A op → Prog S E O A T β}
    (hop : ∀ s r, f ⟨s, op, r⟩ = false)
    (hq : ∀ s a, Bounds env f g (if g ⟨s, op, .ok a⟩ then 1 else 0) (q a)) :
    Bounds env f g 0 (Prog.perform op >>= q) := by
  intro tr
  rcases hrun : (Prog.perform op : Prog S E O A T (A op)).amid env tr with ⟨e | a, mid⟩
  · rw [returns_bind_error hrun, returns_perform, List.countP_singleton, hop]
    exact Nat.zero_le _
  · rw [returns_bind_ok hrun, returns_perform, List.countP_append, List.countP_append,
      List.countP_singleton, List.countP_singleton, hop]
    have hanswer : (env tr.ops op tr.state).1 = .ok a := by
      rw [amid_perform] at hrun
      exact congrArg (·.1) hrun
    have hback := hq (env tr.ops op tr.state).2 a mid
    rw [hanswer]
    simp only [Bool.false_eq_true, if_false]
    omega

end Bounds

/-! ## Exceptions with a reason -/

/-- Where the program raises one of some exceptions, it got an answer of a kind. -/
def Owes (env : Env S E O A) (good : E → Prop) (g : Returned S E O A → Bool)
    (p : Prog S E O A T α) : Prop :=
  ∀ tr e tr', p.amid env tr = (.error e, tr') → good e → 1 ≤ (p.returns env tr).countP g

namespace Owes

variable {good : E → Prop} {f g : Returned S E O A → Bool} {p : Prog S E O A T α}

theorem pure (a : α) : Owes env good g (pure a : Prog S E O A T α) := by
  intro tr e tr' h
  cases h

theorem raise {e : E} (he : ¬good e) : Owes env good g (raise e : Prog S E O A T α) := by
  intro tr e' tr' h hgood
  cases h
  exact absurd hgood he

theorem get : Owes env good g (get : Prog S E O A T S) := by
  intro tr e tr' h
  cases h

theorem modify (f : S → S) : Owes env good g (modify f : Prog S E O A T Unit) := by
  intro tr e tr' h
  cases h

theorem ofExcept {r : Except E α} (hr : ∀ e, r = .error e → ¬good e) :
    Owes env good g (ofExcept r : Prog S E O A T α) := by
  cases r with
  | ok a => exact pure a
  | error e => exact raise (hr e rfl)

theorem perform {op : O} (hop : ∀ s e, good e → g ⟨s, op, .error e⟩ = true) :
    Owes env good g (perform op : Prog S E O A T (A op)) := by
  intro tr e tr' h hgood
  rw [amid_perform] at h
  have hanswer : (env tr.ops op tr.state).1 = .error e := congrArg (·.1) h
  rw [returns_perform, hanswer, List.countP_singleton, hop _ e hgood]
  simp

theorem bind {q : α → Prog S E O A T β} (hp : Owes env good g p)
    (hq : ∀ a, Owes env good g (q a)) : Owes env good g (p >>= q) := by
  intro tr e tr' h hgood
  rcases hrun : p.amid env tr with ⟨e' | a, mid⟩
  · rw [amid_bind, hrun] at h
    cases h
    rw [returns_bind_error hrun]
    exact hp tr _ _ hrun hgood
  · rw [amid_bind, hrun] at h
    rw [returns_bind_ok hrun, List.countP_append]
    have hback := hq a mid e tr' h hgood
    omega

theorem when {c : Bool} {p : Prog S E O A T Unit} (hp : Owes env good g p) :
    Owes env good g (p.when c) := by
  cases c with
  | true => exact hp
  | false => exact pure ()

/-- An exception that is caught and raised again. -/
theorem reraise {handler : E → Prog S E O A T α} (hp : Owes env good g p)
    (hhandler : ∀ e tr e' tr', (handler e).amid env tr = (.error e', tr') → e' = e) :
    Owes env good g (p.tryCatch handler) := by
  intro tr e tr' h hgood
  rcases hrun : p.amid env tr with ⟨e' | a, mid⟩
  · rw [amid_tryCatch, hrun] at h
    rw [returns_tryCatch_error hrun, List.countP_append]
    have hsame := hhandler e' mid e tr' h
    have hfront := hp tr e' mid hrun (hsame ▸ hgood)
    omega
  · rw [amid_tryCatch, hrun] at h
    cases h

/-- The answer behind an exception pays for one operation of its handler. -/
theorem bounds {k : Nat} {handler : E → Prog S E O A T α} (howes : Owes env good g p)
    (hp : Bounds env f (fun _ => false) k p) (hgood : ∀ e, good e → Bounds env f g 1 (handler e))
    (hother : ∀ e, ¬good e → Bounds env f g 0 (handler e)) :
    Bounds env f g k (p.tryCatch handler) := by
  intro tr
  have hfront := hp tr
  rw [List.countP_false, Function.const_apply] at hfront
  rcases hrun : p.amid env tr with ⟨e | a, mid⟩
  · rw [returns_tryCatch_error hrun, List.countP_append, List.countP_append]
    by_cases he : good e
    · have hpaid := howes tr e mid hrun he
      have hback := hgood e he mid
      omega
    · have hback := hother e he mid
      omega
  · rw [returns_tryCatch_ok hrun]
    omega

end Owes

end Prog

end Coop
