import GeventSignalR.Coop.Memory
import GeventSignalR.Coop.Throws

/-!
# Two exits

A program ends in one of two ways, and what holds then may have little to do with each other.

* `Prog.Exit` is a postcondition made of two: one for the end where the program returns, one for
  the exception where it raises.
* `Prog.Exits` says that a program, started where a property holds, ends so, with one rule for
  each construct.  The program may remember a number.
* `Leads` is the case with one property at both exits and nothing to remember.
-/

namespace Coop

namespace Prog

variable {S E O T α β : Type} {A : O → Type} {m : S → Nat} {R : Rely S E O A T}
  {I I' : S → Multiset (Label O T) → Prop} {J J' : α → S → Multiset (Label O T) → Prop}
  {K : β → S → Multiset (Label O T) → Prop} {F F' : E → S → Multiset (Label O T) → Prop}

/-- What holds of the value where a program returns, and of the exception where it raises. -/
def Exit (J : α → S → Multiset (Label O T) → Prop) (F : E → S → Multiset (Label O T) → Prop) :
    Post S E O A T α
  | .ok a, s, P, _ => J a s P
  | .error e, s, P, _ => F e s P

/-- The program, started where a property holds, ends so. -/
def Exits (m : S → Nat) (R : Rely S E O A T) (I : S → Multiset (Label O T) → Prop)
    (J : α → S → Multiset (Label O T) → Prop) (F : E → S → Multiset (Label O T) → Prop)
    (p : Prog S E O A T α) : Prop :=
  ∀ s P h, I s P → p.wpFrom m R (Exit J F) s P h

namespace Exits

theorem pure (a : α) (hJ : ∀ s P, I s P → J a s P) :
    Exits m R I J F (pure a : Prog S E O A T α) :=
  fun s P _ hI => hJ s P hI

theorem raise {e : E} (hF : ∀ s P, I s P → F e s P) :
    Exits m R I J F (raise e : Prog S E O A T α) :=
  fun s P _ hI => hF s P hI

theorem modify {J : Unit → S → Multiset (Label O T) → Prop} {f : S → S}
    (hf : ∀ s P, I s P → J () (f s) P) :
    Exits m R I J F (modify f : Prog S E O A T Unit) :=
  fun s P _ hI => hf s P hI

theorem fork {J : Unit → S → Multiset (Label O T) → Prop} {t : T}
    (ht : ∀ s P, I s P → J () s (.ready t ::ₘ P)) :
    Exits m R I J F (fork t : Prog S E O A T Unit) :=
  fun s P _ hI => ht s P hI

theorem ofExcept {r : Except E α} (hok : ∀ a, r = .ok a → ∀ s P, I s P → J a s P)
    (herror : ∀ e, r = .error e → ∀ s P, I s P → F e s P) :
    Exits m R I J F (ofExcept r : Prog S E O A T α) := by
  intro s P h hI
  apply wpFrom_ofExcept
  cases r with
  | ok a => exact hok a rfl s P hI
  | error e => exact herror e rfl s P hI

/-- What held at the operation may be remembered. -/
theorem perform {op : O} {J : A op → S → Multiset (Label O T) → Prop}
    (hblock : ∀ s P, I s P → R.inv s (.blocked R.me op ::ₘ P))
    (hok : ∀ s P, I s P → ∀ s' P' a, m s ≤ m s' → R.inv s' (.blocked R.me op ::ₘ P') →
      R.resume s' P' op (.ok a) → J a s' P')
    (herror : ∀ s P, I s P → ∀ s' P' e, m s ≤ m s' → R.inv s' (.blocked R.me op ::ₘ P') →
      R.resume s' P' op (.error e) → F e s' P') :
    Exits m R I J F (perform op : Prog S E O A T (A op)) := by
  intro s P h hI
  apply wpFrom_perform (hblock s P hI)
  rintro s' P' (e | a) hm hinv hres
  · exact herror s P hI s' P' e hm hinv hres
  · exact hok s P hI s' P' a hm hinv hres

theorem bind {p : Prog S E O A T α} {f : α → Prog S E O A T β} (hp : Exits m R I J F p)
    (hf : ∀ a, Exits m R (J a) K F (f a)) : Exits m R I K F (p >>= f) := by
  intro s P h hI
  apply wpFrom_bind
  refine wpFrom_mono ?_ (hp s P h hI)
  rintro (e | a) s P h hpost
  · exact hpost
  · exact hf a s P h hpost

/-- A program that reads the state may use what it read. -/
theorem get_bind {f : S → Prog S E O A T β}
    (hf : ∀ s, Exits m R (fun s' P => s' = s ∧ I s P) K F (f s)) :
    Exits m R I K F (Prog.get >>= f) :=
  fun s P h hI => hf s s P h ⟨rfl, hI⟩

/-- The handler starts where the exception was raised. -/
theorem tryCatch {p : Prog S E O A T α} {handler : E → Prog S E O A T α} (hp : Exits m R I J F p)
    (hhandler : ∀ e, Exits m R (F e) J F' (handler e)) :
    Exits m R I J F' (p.tryCatch handler) := by
  intro s P h hI
  apply wpFrom_tryCatch
  refine wpFrom_mono ?_ (hp s P h hI)
  rintro (e | a) s P h hpost
  · exact hhandler e s P h hpost
  · exact hpost

/-- An exception is a value. -/
theorem attempt {p : Prog S E O A T α} {J : Except E α → S → Multiset (Label O T) → Prop}
    (hp : Exits m R I (fun a => J (.ok a)) (fun e => J (.error e)) p) :
    Exits m R I J F p.attempt := by
  intro s P h hI
  apply wpFrom_attempt
  refine wpFrom_mono ?_ (hp s P h hI)
  rintro (e | a) s P h hpost <;> exact hpost

theorem finally_ {p : Prog S E O A T α} {q : Prog S E O A T Unit} (hp : Exits m R I J F p)
    (hok : ∀ a, Exits m R (J a) (fun _ => J' a) F' q)
    (herror : ∀ e, Exits m R (F e) (fun _ => F' e) F' q) : Exits m R I J' F' (p.finally_ q) := by
  let mid : Except E α → S → Multiset (Label O T) → Prop := fun r s P =>
    Exit (A := A) J F r s P []
  let late : Except E α → S → Multiset (Label O T) → Prop := fun r s P =>
    Exit (A := A) J' F' r s P []
  have hattempt : Exits m R I mid F' p.attempt := Exits.attempt hp
  refine Exits.bind hattempt fun r => ?_
  have hq : Exits m R (mid r) (fun _ => late r) F' q := by
    cases r with
    | ok a => exact hok a
    | error e => exact herror e
  refine Exits.bind hq fun _ => ?_
  apply Exits.ofExcept
  · rintro a rfl s P hlate
    exact hlate
  · rintro e rfl s P hlate
    exact hlate

theorem when {J : Unit → S → Multiset (Label O T) → Prop} {c : Bool} {p : Prog S E O A T Unit}
    (hp : c = true → Exits m R I J F p) (hJ : c = false → ∀ s P, I s P → J () s P) :
    Exits m R I J F (p.when c) := by
  cases c with
  | true => exact hp rfl
  | false => exact fun s P _ hI => hJ rfl s P hI

theorem ite {c : Prop} [Decidable c] {p q : Prog S E O A T α} (hp : c → Exits m R I J F p)
    (hq : ¬c → Exits m R I J F q) : Exits m R I J F (if c then p else q) := by
  split_ifs with hc
  · exact hp hc
  · exact hq hc

theorem each {γ : Type} {xs : List γ} {f : γ → Prog S E O A T Unit}
    (hf : ∀ x ∈ xs, Exits m R I (fun _ => I) F (f x)) :
    Exits m R I (fun _ => I) F (Prog.each xs f) := by
  induction xs with
  | nil => exact fun s P _ hI => hI
  | cons x xs ih =>
      exact Exits.bind (hf x (by simp)) fun _ => ih fun y hy => hf y (by simp [hy])

theorem mono {p : Prog S E O A T α} (hp : Exits m R I J F p) (hI : ∀ s P, I' s P → I s P)
    (hJ : ∀ a s P, J a s P → J' a s P) (hF : ∀ e s P, F e s P → F' e s P) :
    Exits m R I' J' F' p := by
  intro s P h hI'
  refine wpFrom_mono ?_ (hp s P h (hI s P hI'))
  rintro (e | a) s P h hpost
  · exact hF e s P hpost
  · exact hJ a s P hpost

/-- Less is known in front of the program. -/
theorem of_weaker {p : Prog S E O A T α} (hp : Exits m R I J F p) (hI : ∀ s P, I' s P → I s P) :
    Exits m R I' J F p :=
  hp.mono hI (fun _ _ _ h => h) fun _ _ _ h => h

/-! ## One property at both exits -/

section

variable {I J : S → Multiset (Label O T) → Prop} {p : Prog S E O A T α}

theorem of_leads (hp : Leads R I J p) : Exits m R I (fun _ => J) (fun _ => J) p := by
  intro s P h hI
  refine wpFrom_mono ?_ (wpFrom_of_wp (hp s P h hI))
  rintro (e | a) s P h hpost <;> exact hpost

theorem of_keeps (hp : Keeps R I p) : Exits m R I (fun _ => I) (fun _ => I) p :=
  of_leads hp

/-- A second postcondition, for the exceptions. -/
theorem of_throws (hp : Throws R I F p) : Exits m R I (fun _ => I) F p := by
  intro s P h hI
  refine wpFrom_mono ?_ (wpFrom_of_wp (hp s P h hI))
  rintro (e | a) s P h ⟨hI, hF⟩
  · exact hF e rfl
  · exact hI

/-- Without anything to remember. -/
theorem leads (hp : Exits (fun _ => 0) R I (fun _ => J) (fun _ => J) p) : Leads R I J p := by
  intro s P h hI
  apply wp_of_wpFrom (m := fun _ => 0) fun _ _ => le_rfl
  refine wpFrom_mono ?_ (hp s P h hI)
  rintro (e | a) s P h hpost <;> exact hpost

theorem keeps (hp : Exits (fun _ => 0) R I (fun _ => I) (fun _ => I) p) : Keeps R I p :=
  hp.leads

end

end Exits

end Prog

end Coop
