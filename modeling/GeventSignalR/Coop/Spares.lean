import GeventSignalR.Coop.Amid

/-!
# What a program leaves to its environment

A program that never writes a part of the state leaves it to the environment.

* `Prog.performed` are the operations of a program in an environment, when it performs them.
* `Prog.Spares` says that no write of the program changes what is read off the state, with
  one rule for each construct.
* `Spares.amid`: at the end the environment alone has changed it, operation by operation.
-/

namespace Coop

/-- An operation, when a program blocks on it: the operations before it, and the state. -/
structure Performed (S E O : Type) (A : O → Type) : Type where
  ops : List (Answered E O A)
  op : O
  state : S

namespace Prog

variable {S E O T α β X : Type} {A : O → Type}

/-- The operations of the program in an environment, when they are performed. -/
def performed (env : Env S E O A) :
    Prog S E O A T α → Trace S E O A T → List (Performed S E O A)
  | done _, _ => []
  | raise _, _ => []
  | read k, tr => (k tr.state).performed env tr
  | write f k, tr => k.performed env { tr with state := f tr.state }
  | spawn t k, tr => k.performed env { tr with forks := tr.forks ++ [t] }
  | block op k, tr =>
      let (r, s) := env tr.ops op tr.state
      ⟨tr.ops, op, tr.state⟩ ::
        (k r).performed env { tr with state := s, ops := tr.ops ++ [⟨op, r⟩] }

variable {env : Env S E O A} {tr tr' : Trace S E O A T}

theorem performed_perform (op : O) :
    (perform op : Prog S E O A T (A op)).performed env tr = [⟨tr.ops, op, tr.state⟩] := by
  simp only [perform, performed]
  rcases env tr.ops op tr.state with ⟨e | a, s⟩ <;> rfl

theorem performed_bind_ok {p : Prog S E O A T α} {f : α → Prog S E O A T β} {a : α}
    (h : p.amid env tr = (.ok a, tr')) :
    (p >>= f).performed env tr = p.performed env tr ++ (f a).performed env tr' := by
  change (p.bind f).performed env tr = _
  induction p generalizing tr with
  | done b =>
      cases h
      rfl
  | raise e => cases h
  | read k ih => exact ih _ h
  | write g k ih => exact ih h
  | spawn t k ih => exact ih h
  | block op k ih => exact congrArg (_ :: ·) (ih _ h)

theorem performed_bind_error {p : Prog S E O A T α} {f : α → Prog S E O A T β} {e : E}
    (h : p.amid env tr = (.error e, tr')) :
    (p >>= f).performed env tr = p.performed env tr := by
  change (p.bind f).performed env tr = _
  induction p generalizing tr with
  | done b => cases h
  | raise e => rfl
  | read k ih => exact ih _ h
  | write g k ih => exact ih h
  | spawn t k ih => exact ih h
  | block op k ih => exact congrArg (_ :: ·) (ih _ h)

/-- No write of the program changes what `π` reads off the state. -/
def Spares (π : S → X) : Prog S E O A T α → Prop
  | done _ => True
  | raise _ => True
  | read k => ∀ s, (k s).Spares π
  | write f k => (∀ s, π (f s) = π s) ∧ k.Spares π
  | spawn _ k => k.Spares π
  | block _ k => ∀ r, (k r).Spares π

namespace Spares

variable {π : S → X} {p : Prog S E O A T α}

theorem pure (a : α) : (pure a : Prog S E O A T α).Spares π := trivial

theorem raise (e : E) : (raise e : Prog S E O A T α).Spares π := trivial

theorem get : (get : Prog S E O A T S).Spares π := fun _ => trivial

theorem modify {f : S → S} (hf : ∀ s, π (f s) = π s) :
    (modify f : Prog S E O A T Unit).Spares π :=
  ⟨hf, trivial⟩

theorem fork (t : T) : (fork t : Prog S E O A T Unit).Spares π := trivial

theorem ofExcept (r : Except E α) : (ofExcept r : Prog S E O A T α).Spares π := by
  cases r with
  | ok a => exact pure a
  | error e => exact raise e

theorem perform (op : O) : (perform op : Prog S E O A T (A op)).Spares π := by
  intro r
  cases r with
  | ok a => exact pure a
  | error e => exact raise e

theorem bind {f : α → Prog S E O A T β} (hp : p.Spares π) (hf : ∀ a, (f a).Spares π) :
    (p >>= f).Spares π := by
  change (p.bind f).Spares π
  induction p with
  | done a => exact hf a
  | raise e => trivial
  | read k ih => exact fun s => ih s (hp s)
  | write g k ih => exact ⟨hp.1, ih hp.2⟩
  | spawn t k ih => exact ih hp
  | block op k ih => exact fun r => ih r (hp r)

theorem tryCatch {handler : E → Prog S E O A T α} (hp : p.Spares π)
    (hhandler : ∀ e, (handler e).Spares π) : (p.tryCatch handler).Spares π := by
  induction p with
  | done a => trivial
  | raise e => exact hhandler e
  | read k ih => exact fun s => ih s (hp s)
  | write g k ih => exact ⟨hp.1, ih hp.2⟩
  | spawn t k ih => exact ih hp
  | block op k ih => exact fun r => ih r (hp r)

theorem ite {c : Prop} [Decidable c] {q : Prog S E O A T α} (hp : p.Spares π)
    (hq : q.Spares π) : (if c then p else q).Spares π := by
  split
  · exact hp
  · exact hq

theorem when {c : Bool} {p : Prog S E O A T Unit} (hp : p.Spares π) : (p.when c).Spares π := by
  cases c with
  | true => exact hp
  | false => trivial

theorem elim {γ : Type} {o : Option γ} {f : γ → Prog S E O A T α} (hp : p.Spares π)
    (hf : ∀ a, (f a).Spares π) : (o.elim p f).Spares π := by
  cases o with
  | none => exact hp
  | some a => exact hf a

theorem each {γ : Type} {xs : List γ} {f : γ → Prog S E O A T Unit}
    (hf : ∀ x, (f x).Spares π) : (Prog.each xs f).Spares π := by
  induction xs with
  | nil => exact pure ()
  | cons x xs ih => exact bind (hf x) fun _ => ih

/-- Where the environment acts on what the program spares, it alone does. -/
theorem amid {act : Performed S E O A → X → X}
    (hact : ∀ ops op s, π (env ops op s).2 = act ⟨ops, op, s⟩ (π s)) (hp : p.Spares π) :
    π (p.amid env tr).2.state =
      (p.performed env tr).foldl (fun x c => act c x) (π tr.state) := by
  induction p generalizing tr with
  | done a => rfl
  | raise e => rfl
  | read k ih => exact ih tr.state (hp tr.state)
  | write f k ih =>
      have hrest : π (k.amid env { tr with state := f tr.state }).2.state = _ := ih hp.2
      rw [show π ({ tr with state := f tr.state } : Trace S E O A T).state = π tr.state from
        hp.1 tr.state] at hrest
      exact hrest
  | spawn t k ih =>
      have hrest : π (k.amid env { tr with forks := tr.forks ++ [t] }).2.state = _ := ih hp
      exact hrest
  | block op k ih =>
      have hrest : π ((k (env tr.ops op tr.state).1).amid env { tr with
          state := (env tr.ops op tr.state).2
          ops := tr.ops ++ [⟨op, (env tr.ops op tr.state).1⟩] }).2.state = _ := ih _ (hp _)
      rw [show π ({ tr with
          state := (env tr.ops op tr.state).2
          ops := tr.ops ++ [⟨op, (env tr.ops op tr.state).1⟩] } : Trace S E O A T).state = _ from
        hact tr.ops op tr.state] at hrest
      exact hrest

end Spares

end Prog

end Coop
