import GeventSignalR.Coop.Logic

/-!
# Exceptional ends

`Prog.Throws` is `Prog.Keeps` with a second postcondition: what holds of the exception and of
the state where the program raises.
-/

namespace Coop

namespace Prog

variable {S E O T α β : Type} {A : O → Type} {R : Rely S E O A T}
  {I : S → Multiset (Label O T) → Prop} {F F' : E → S → Multiset (Label O T) → Prop}

/-- The program keeps a property, and where it raises, another one holds of the exception. -/
def Throws (R : Rely S E O A T) (I : S → Multiset (Label O T) → Prop)
    (F : E → S → Multiset (Label O T) → Prop) (p : Prog S E O A T α) : Prop :=
  ∀ s P h, I s P → p.wp R (fun r s P _ => I s P ∧ ∀ e, r = .error e → F e s P) s P h

namespace Throws

theorem pure (a : α) : Throws R I F (pure a : Prog S E O A T α) :=
  fun _ _ _ hI => ⟨hI, fun _ hr => by cases hr⟩

theorem raise {e : E} (he : ∀ s P, I s P → F e s P) :
    Throws R I F (raise e : Prog S E O A T α) := by
  rintro s P h hI
  refine ⟨hI, fun e' hr => ?_⟩
  cases hr
  exact he s P hI

theorem get : Throws R I F (get : Prog S E O A T S) :=
  fun _ _ _ hI => ⟨hI, fun _ hr => by cases hr⟩

theorem modify {f : S → S} (hf : ∀ s P, I s P → I (f s) P) :
    Throws R I F (modify f : Prog S E O A T Unit) :=
  fun s P _ hI => ⟨hf s P hI, fun _ hr => by cases hr⟩

theorem fork {t : T} (ht : ∀ s P, I s P → I s (.ready t ::ₘ P)) :
    Throws R I F (fork t : Prog S E O A T Unit) :=
  fun s P _ hI => ⟨ht s P hI, fun _ hr => by cases hr⟩

theorem ofExcept {r : Except E α} (hr : ∀ e, r = .error e → ∀ s P, I s P → F e s P) :
    Throws R I F (ofExcept r : Prog S E O A T α) := by
  intro s P h hI
  rw [wp_ofExcept]
  exact ⟨hI, fun e he => hr e he s P hI⟩

theorem perform {op : O} (hblock : ∀ s P, I s P → R.inv s (.blocked R.me op ::ₘ P))
    (hresume : ∀ s P r, R.inv s (.blocked R.me op ::ₘ P) → R.resume s P op r →
      I s P ∧ ∀ e, r = .error e → F e s P) :
    Throws R I F (perform op : Prog S E O A T (A op)) := by
  intro s P h hI
  rw [wp_perform]
  exact ⟨hblock s P hI, fun s' P' r hinv hres => hresume s' P' r hinv hres⟩

theorem bind {p : Prog S E O A T α} {f : α → Prog S E O A T β} (hp : Throws R I F p)
    (hf : ∀ a, Throws R I F (f a)) : Throws R I F (p >>= f) := by
  intro s P h hI
  rw [wp_bind]
  refine wp_mono ?_ (hp s P h hI)
  rintro (e | a) s P h ⟨hI, hF⟩
  · refine ⟨hI, fun e' hr => ?_⟩
    cases hr
    exact hF e rfl
  · exact hf a s P h hI

theorem get_bind {f : S → Prog S E O A T β}
    (hf : ∀ s P h, I s P →
      (f s).wp R (fun r s P _ => I s P ∧ ∀ e, r = .error e → F e s P) s P h) :
    Throws R I F (Prog.get >>= f) :=
  fun s P h hI => hf s P h hI

/-- A handler starts where the exception was raised. -/
theorem tryCatch {p : Prog S E O A T α} {handler : E → Prog S E O A T α}
    (hp : Throws R I F p)
    (hhandler : ∀ e s P h, I s P → F e s P →
      (handler e).wp R (fun r s P _ => I s P ∧ ∀ e, r = .error e → F' e s P) s P h) :
    Throws R I F' (p.tryCatch handler) := by
  intro s P h hI
  rw [wp_tryCatch]
  refine wp_mono ?_ (hp s P h hI)
  rintro (e | a) s P h ⟨hI, hF⟩
  · exact hhandler e s P h hI (hF e rfl)
  · exact ⟨hI, fun _ hr => by cases hr⟩

theorem when {c : Bool} {p : Prog S E O A T Unit} (hp : c = true → Throws R I F p) :
    Throws R I F (p.when c) := by
  cases c with
  | true => exact hp rfl
  | false => exact Throws.pure ()

theorem mono {p : Prog S E O A T α} (hp : Throws R I F p)
    (hF : ∀ e s P, I s P → F e s P → F' e s P) : Throws R I F' p := by
  intro s P h hI
  refine wp_mono ?_ (hp s P h hI)
  exact fun r s P h hpost => ⟨hpost.1, fun e hr => hF e s P hpost.1 (hpost.2 e hr)⟩

theorem keeps {p : Prog S E O A T α} (hp : Throws R I F p) : Keeps R I p :=
  fun s P h hI => wp_mono (fun _ _ _ _ hpost => hpost.1) (hp s P h hI)

end Throws

end Prog

end Coop
