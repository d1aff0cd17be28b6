import GeventSignalR.Coop.System
import Mathlib.Algebra.Order.Group.Multiset
import Mathlib.Tactic.SplitIfs

/-!
# Reasoning about cooperative programs

An invariant relates the shared state to the positions of all threads.  It holds
whenever no thread is running; a program may break it between two blocking
operations.

* `Rely` is what a proof assumes: an invariant, and what is known when an operation
  returns.
* `wp` is the weakest precondition of a program under it.
* `Keeps` says that a program leaves the invariant as it found it, with composition
  rules.
* `Proof.sound` is the induction over runs: an invariant that every body keeps
  holds in every reachable world.
-/

namespace Coop

/-- The thread whose program it is about, an invariant of the switching points, and what
is assumed of every return of a pending operation. -/
structure Rely (S E O : Type) (A : O → Type) (T : Type) : Type where
  me : T
  inv : S → Multiset (Label O T) → Prop
  resume : S → Multiset (Label O T) → (op : O) → Except E (A op) → Prop

/-- What is to hold at the end of a program: of its result, the shared state, the
positions of the other threads, and the operations it performed. -/
abbrev Post (S E O : Type) (A : O → Type) (T α : Type) : Type :=
  Except E α → S → Multiset (Label O T) → List (Logged S E O A) → Prop

namespace Prog

variable {S E O T α β : Type} {A : O → Type} {R : Rely S E O A T}

/-- The program, started in a state with the other threads at the given positions,
ends as the postcondition says, and meets the invariant where it blocks. -/
def wp (R : Rely S E O A T) : Prog S E O A T α → Post S E O A T α →
    S → Multiset (Label O T) → List (Logged S E O A) → Prop
  | done a, Q, s, P, h => Q (.ok a) s P h
  | raise e, Q, s, P, h => Q (.error e) s P h
  | read k, Q, s, P, h => (k s).wp R Q s P h
  | write f k, Q, s, P, h => k.wp R Q (f s) P h
  | spawn t k, Q, s, P, h => k.wp R Q s (.ready t ::ₘ P) h
  | block op k, Q, s, P, h =>
      R.inv s (.blocked R.me op ::ₘ P) ∧
        ∀ s' P' r, R.inv s' (.blocked R.me op ::ₘ P') → R.resume s' P' op r →
          (k r).wp R Q s' P' (h ++ [⟨s, op, r⟩])

variable {Q : Post S E O A T α} {s : S} {P : Multiset (Label O T)} {h : List (Logged S E O A)}

/-! ## Composition rules -/

@[simp] theorem wp_pure (a : α) : wp R (pure a) Q s P h = Q (.ok a) s P h := rfl

@[simp] theorem wp_done (a : α) : wp R (done a) Q s P h = Q (.ok a) s P h := rfl

@[simp] theorem wp_raise (e : E) : wp R (raise e) Q s P h = Q (.error e) s P h := rfl

@[simp] theorem wp_get {Q : Post S E O A T S} : wp R get Q s P h = Q (.ok s) s P h := rfl

@[simp] theorem wp_modify {Q : Post S E O A T Unit} (f : S → S) :
    wp R (modify f) Q s P h = Q (.ok ()) (f s) P h := rfl

@[simp] theorem wp_fork {Q : Post S E O A T Unit} (t : T) :
    wp R (fork t) Q s P h = Q (.ok ()) s (.ready t ::ₘ P) h := rfl

@[simp] theorem wp_ofExcept (r : Except E α) : wp R (ofExcept r) Q s P h = Q r s P h := by
  cases r <;> rfl

theorem wp_perform {op : O} {Q : Post S E O A T (A op)} :
    wp R (perform op) Q s P h ↔
      R.inv s (.blocked R.me op ::ₘ P) ∧
        ∀ s' P' r, R.inv s' (.blocked R.me op ::ₘ P') → R.resume s' P' op r →
          Q r s' P' (h ++ [⟨s, op, r⟩]) := by
  refine and_congr_right fun _ => forall_congr' fun s' => forall_congr' fun P' =>
    forall_congr' fun r => imp_congr_right fun _ => imp_congr_right fun _ => ?_
  cases r <;> rfl

@[simp] theorem wp_when {c : Bool} {p : Prog S E O A T Unit} {Q : Post S E O A T Unit} :
    wp R (p.when c) Q s P h ↔ if c then wp R p Q s P h else Q (.ok ()) s P h := by
  cases c <;> exact Iff.rfl

theorem wp_mono {p : Prog S E O A T α} {Q Q' : Post S E O A T α}
    (hQ : ∀ r s P h, Q r s P h → Q' r s P h) (hp : p.wp R Q s P h) : p.wp R Q' s P h := by
  induction p generalizing s P h with
  | done a => exact hQ _ _ _ _ hp
  | raise e => exact hQ _ _ _ _ hp
  | read k ih => exact ih s hp
  | write f k ih => exact ih hp
  | spawn t k ih => exact ih hp
  | block op k ih => exact ⟨hp.1, fun s' P' r hinv hres => ih r (hp.2 s' P' r hinv hres)⟩

@[simp] theorem wp_bind (p : Prog S E O A T α) (f : α → Prog S E O A T β)
    {Q : Post S E O A T β} :
    wp R (p >>= f) Q s P h ↔
      wp R p (fun r s P h =>
        match r with
        | .ok a => wp R (f a) Q s P h
        | .error e => Q (.error e) s P h) s P h := by
  change wp R (p.bind f) Q s P h ↔ _
  induction p generalizing s P h with
  | done a => exact Iff.rfl
  | raise e => exact Iff.rfl
  | read k ih => exact ih s
  | write g k ih => exact ih
  | spawn t k ih => exact ih
  | block op k ih =>
      refine and_congr_right fun _ => forall_congr' fun s' => forall_congr' fun P' =>
        forall_congr' fun r => imp_congr_right fun _ => imp_congr_right fun _ => ih r

@[simp] theorem wp_tryCatch (p : Prog S E O A T α) (handler : E → Prog S E O A T α) :
    wp R (p.tryCatch handler) Q s P h ↔
      wp R p (fun r s P h =>
        match r with
        | .ok a => Q (.ok a) s P h
        | .error e => wp R (handler e) Q s P h) s P h := by
  induction p generalizing s P h with
  | done a => exact Iff.rfl
  | raise e => exact Iff.rfl
  | read k ih => exact ih s
  | write g k ih => exact ih
  | spawn t k ih => exact ih
  | block op k ih =>
      refine and_congr_right fun _ => forall_congr' fun s' => forall_congr' fun P' =>
        forall_congr' fun r => imp_congr_right fun _ => imp_congr_right fun _ => ih r

@[simp] theorem wp_attempt (p : Prog S E O A T α) {Q : Post S E O A T (Except E α)} :
    wp R p.attempt Q s P h ↔ wp R p (fun r s P h => Q (.ok r) s P h) s P h := by
  change wp R (tryCatch (p >>= fun a => done (.ok a)) _) Q s P h ↔ _
  rw [wp_tryCatch, wp_bind]
  constructor <;>
  · apply wp_mono
    intro r s P h hr
    cases r <;> exact hr

@[simp] theorem wp_finally (p : Prog S E O A T α) (q : Prog S E O A T Unit) :
    wp R (p.finally_ q) Q s P h ↔
      wp R p (fun r s P h =>
        wp R q (fun r' s P h =>
          match r' with
          | .ok _ => Q r s P h
          | .error e => Q (.error e) s P h) s P h) s P h := by
  change wp R (p.attempt >>= fun r => q >>= fun _ => ofExcept r) Q s P h ↔ _
  simp only [wp_bind, wp_attempt, wp_ofExcept]
  constructor <;>
  · apply wp_mono
    intro r s P h
    apply wp_mono
    intro r' s P h hr
    cases r' <;> exact hr

/-- A program whose stretches begin with a change of the state, where the invariant says
as much before the change as behind it. -/
theorem wp_entering {p : Prog S E O A T α} {R' : Rely S E O A T} {f : S → S}
    (hme : R'.me = R.me) (hinv : ∀ s P, R.inv s P → R'.inv s P)
    (hresume : ∀ s P op r, R'.inv s (.blocked R.me op ::ₘ P) → R'.resume s P op r →
      R.inv (f s) (.blocked R.me op ::ₘ P) ∧ R.resume (f s) P op r)
    (hp : p.wp R Q s P h) : (p.entering f).wp R' Q s P h := by
  induction p generalizing s P h with
  | done a => exact hp
  | raise e => exact hp
  | read k ih => exact ih s hp
  | write g k ih => exact ih hp
  | spawn t k ih => exact ih hp
  | block op k ih =>
      constructor
      · rw [hme]
        exact hinv _ _ hp.1
      · intro s' P' r hinv' hresume'
        rw [hme] at hinv'
        obtain ⟨hentered, hres⟩ := hresume s' P' op r hinv' hresume'
        exact ih r (hp.2 (f s') P' r hentered hres)

/-! ## Programs that keep the invariant -/

/-- The program, started where a property holds, ends where it holds, whether it
returns or raises.  The property is often the invariant itself. -/
def Keeps (R : Rely S E O A T) (I : S → Multiset (Label O T) → Prop)
    (p : Prog S E O A T α) : Prop :=
  ∀ s P h, I s P → p.wp R (fun _ s P _ => I s P) s P h

variable {I : S → Multiset (Label O T) → Prop}

namespace Keeps

theorem pure (a : α) : Keeps R I (pure a : Prog S E O A T α) :=
  fun _ _ _ hinv => hinv

theorem raise (e : E) : Keeps R I (raise e : Prog S E O A T α) :=
  fun _ _ _ hinv => hinv

theorem get : Keeps R I (get : Prog S E O A T S) :=
  fun _ _ _ hinv => hinv

theorem ofExcept (r : Except E α) : Keeps R I (ofExcept r : Prog S E O A T α) := by
  intro s P h hinv
  rwa [wp_ofExcept]

theorem modify {f : S → S} (hf : ∀ s P, I s P → I (f s) P) :
    Keeps R I (modify f : Prog S E O A T Unit) :=
  fun s P _ hinv => hf s P hinv

/-- The property holds after a change that keeps it. -/
theorem apply {f : S → S} (hf : Keeps R I (Prog.modify f : Prog S E O A T Unit)) {s : S}
    {P : Multiset (Label O T)} (hs : I s P) : I (f s) P :=
  hf s P [] hs

theorem fork {t : T} (ht : ∀ s P, I s P → I s (.ready t ::ₘ P)) :
    Keeps R I (fork t : Prog S E O A T Unit) :=
  fun s P _ hinv => ht s P hinv

/-- An operation behind which the property holds again. -/
theorem perform {op : O} (hblock : ∀ s P, I s P → R.inv s (.blocked R.me op ::ₘ P))
    (hresume : ∀ s P r, R.inv s (.blocked R.me op ::ₘ P) → R.resume s P op r → I s P) :
    Keeps R I (perform op : Prog S E O A T (A op)) := by
  intro s P h hinv
  rw [wp_perform]
  exact ⟨hblock s P hinv, fun s' P' r hinv' hres => hresume s' P' r hinv' hres⟩

theorem bind {p : Prog S E O A T α} {f : α → Prog S E O A T β} (hp : Keeps R I p)
    (hf : ∀ a, Keeps R I (f a)) : Keeps R I (p >>= f) := by
  intro s P h hinv
  rw [wp_bind]
  refine wp_mono ?_ (hp s P h hinv)
  intro r s P h hinv
  cases r with
  | ok a => exact hf a s P h hinv
  | error e => exact hinv

/-- A program that reads the state may use what it read. -/
theorem get_bind {f : S → Prog S E O A T β}
    (hf : ∀ s P h, I s P → (f s).wp R (fun _ s P _ => I s P) s P h) :
    Keeps R I (Prog.get >>= f) :=
  fun s P h hinv => hf s P h hinv

theorem tryCatch {p : Prog S E O A T α} {handler : E → Prog S E O A T α} (hp : Keeps R I p)
    (hhandler : ∀ e, Keeps R I (handler e)) : Keeps R I (p.tryCatch handler) := by
  intro s P h hinv
  rw [wp_tryCatch]
  refine wp_mono ?_ (hp s P h hinv)
  intro r s P h hinv
  cases r with
  | ok a => exact hinv
  | error e => exact hhandler e s P h hinv

theorem finally_ {p : Prog S E O A T α} {q : Prog S E O A T Unit} (hp : Keeps R I p)
    (hq : Keeps R I q) : Keeps R I (p.finally_ q) := by
  intro s P h hinv
  rw [wp_finally]
  refine wp_mono ?_ (hp s P h hinv)
  intro r s P h hinv
  refine wp_mono ?_ (hq s P h hinv)
  intro r' s P h hinv
  cases r' <;> exact hinv

theorem attempt {p : Prog S E O A T α} (hp : Keeps R I p) : Keeps R I p.attempt := by
  intro s P h hinv
  rw [wp_attempt]
  exact hp s P h hinv

theorem ite {c : Prop} [Decidable c] {p q : Prog S E O A T α} (hp : c → Keeps R I p)
    (hq : ¬c → Keeps R I q) : Keeps R I (if c then p else q) := by
  split_ifs with hc
  · exact hp hc
  · exact hq hc

theorem when {c : Bool} {p : Prog S E O A T Unit} (hp : c = true → Keeps R I p) :
    Keeps R I (p.when c) := by
  cases c with
  | true => exact hp rfl
  | false => exact Keeps.pure ()

theorem each {γ : Type} {xs : List γ} {f : γ → Prog S E O A T Unit}
    (hf : ∀ x ∈ xs, Keeps R I (f x)) : Keeps R I (Prog.each xs f) := by
  induction xs with
  | nil => exact Keeps.pure ()
  | cons x xs ih =>
      exact Keeps.bind (hf x (by simp)) fun _ => ih fun y hy => hf y (by simp [hy])

end Keeps

/-- The program, started where one property holds, ends where another one holds. -/
def Leads (R : Rely S E O A T) (I J : S → Multiset (Label O T) → Prop)
    (p : Prog S E O A T α) : Prop :=
  ∀ s P h, I s P → p.wp R (fun _ s P _ => J s P) s P h

namespace Leads

variable {J : S → Multiset (Label O T) → Prop}

/-- A stronger property is kept up to the end. -/
theorem of_keeps {p : Prog S E O A T α} (hIJ : ∀ s P, I s P → J s P) (hp : Keeps R I p) :
    Leads R I J p :=
  fun s P h hI => wp_mono (fun _ s P _ hI => hIJ s P hI) (hp s P h hI)

/-- The weaker property is kept from the beginning. -/
theorem to_keeps {p : Prog S E O A T α} (hIJ : ∀ s P, I s P → J s P) (hp : Keeps R J p) :
    Leads R I J p :=
  fun s P h hI => hp s P h (hIJ s P hI)

/-- A stronger property is kept for some time. -/
theorem bind {p : Prog S E O A T α} {f : α → Prog S E O A T β} (hIJ : ∀ s P, I s P → J s P)
    (hp : Keeps R I p) (hf : ∀ a, Leads R I J (f a)) : Leads R I J (p >>= f) := by
  intro s P h hI
  rw [wp_bind]
  refine wp_mono ?_ (hp s P h hI)
  intro r s P h hI
  cases r with
  | ok a => exact hf a s P h hI
  | error e => exact hIJ s P hI

/-- The weaker property is kept from some time on. -/
theorem bind_keeps {p : Prog S E O A T α} {f : α → Prog S E O A T β} (hp : Leads R I J p)
    (hf : ∀ a, Keeps R J (f a)) : Leads R I J (p >>= f) := by
  intro s P h hI
  rw [wp_bind]
  refine wp_mono ?_ (hp s P h hI)
  intro r s P h hJ
  cases r with
  | ok a => exact hf a s P h hJ
  | error e => exact hJ

theorem get_bind {f : S → Prog S E O A T β}
    (hf : ∀ s P h, I s P → (f s).wp R (fun _ s P _ => J s P) s P h) :
    Leads R I J (Prog.get >>= f) :=
  fun s P h hI => hf s P h hI

theorem tryCatch {p : Prog S E O A T α} {handler : E → Prog S E O A T α} (hp : Leads R I J p)
    (hhandler : ∀ e, Keeps R J (handler e)) : Leads R I J (p.tryCatch handler) := by
  intro s P h hI
  rw [wp_tryCatch]
  refine wp_mono ?_ (hp s P h hI)
  intro r s P h hJ
  cases r with
  | ok a => exact hJ
  | error e => exact hhandler e s P h hJ

theorem ite {c : Prop} [Decidable c] {p q : Prog S E O A T α} (hp : c → Leads R I J p)
    (hq : ¬c → Leads R I J q) : Leads R I J (if c then p else q) := by
  split_ifs with hc
  · exact hp hc
  · exact hq hc

theorem when {c : Bool} {p : Prog S E O A T Unit} (hIJ : ∀ s P, I s P → J s P)
    (hp : c = true → Leads R I J p) : Leads R I J (p.when c) := by
  cases c with
  | true => exact hp rfl
  | false => exact fun s P _ hI => hIJ s P hI

end Leads

end Prog

/-! ## Invariants of the state and of each position -/

/-- An invariant of the state, together with what the position of each thread says
about the state. -/
structure Pointwise {S O T : Type} (base : S → Prop) (at_ : S → Label O T → Prop) (s : S)
    (P : Multiset (Label O T)) : Prop where
  base : base s
  at_ : ∀ l ∈ P, at_ s l

namespace Pointwise

variable {S E O T α : Type} {A : O → Type} {base : S → Prop} {at_ : S → Label O T → Prop}
  {C : S → Multiset (Label O T) → (op : O) → Except E (A op) → Prop}
  {me : T} {s : S} {P : Multiset (Label O T)} {l : Label O T}

theorem cons (h : Pointwise base at_ s P) (hl : at_ s l) : Pointwise base at_ s (l ::ₘ P) := by
  refine ⟨h.base, fun l' hl' => ?_⟩
  rcases Multiset.mem_cons.mp hl' with rfl | hl'
  · exact hl
  · exact h.at_ l' hl'

theorem head (h : Pointwise base at_ s (l ::ₘ P)) : at_ s l :=
  h.at_ l (Multiset.mem_cons_self l P)

theorem tail (h : Pointwise base at_ s (l ::ₘ P)) : Pointwise base at_ s P :=
  ⟨h.base, fun l' hl' => h.at_ l' (Multiset.mem_cons_of_mem hl')⟩

/-- A change that respects the base and what every position says. -/
theorem modify {f : S → S} (hbase : ∀ s, base s → base (f s))
    (hat : ∀ s l, at_ s l → at_ (f s) l) :
    Prog.Keeps ⟨me, Pointwise base at_, C⟩ (Pointwise base at_)
      (Prog.modify f : Prog S E O A T Unit) :=
  Prog.Keeps.modify fun s _ h => ⟨hbase s h.base, fun l hl => hat s l (h.at_ l hl)⟩

/-- An operation whose position says nothing. -/
theorem perform {op : O} (hat : ∀ s, base s → at_ s (.blocked me op)) :
    Prog.Keeps ⟨me, Pointwise base at_, C⟩ (Pointwise base at_)
      (Prog.perform op : Prog S E O A T (A op)) :=
  Prog.Keeps.perform (fun s _ h => h.cons (hat s h.base)) fun _ _ _ h _ => h.tail

/-- A thread whose readiness says nothing. -/
theorem fork {t : T} (hat : ∀ s, base s → at_ s (.ready t)) :
    Prog.Keeps ⟨me, Pointwise base at_, C⟩ (Pointwise base at_)
      (Prog.fork t : Prog S E O A T Unit) :=
  Prog.Keeps.fork fun s _ h => h.cons (hat s h.base)

end Pointwise

/-! ## The operations of a program -/

namespace Prog

variable {S E O T α : Type} {A : O → Type}

/-- A position says that the operation it is blocked on is among some operations. -/
def Among (allowed : O → Prop) : Label O T → Prop
  | .ready _ => True
  | .blocked _ op => allowed op

/-- The positions where only some operations are pending. -/
abbrev AllAmong (allowed : O → Prop) : S → Multiset (Label O T) → Prop :=
  Pointwise (fun _ => True) fun _ => Among allowed

/-- The program, run by a thread, performs no other operations. -/
abbrev Only (me : T) (allowed : O → Prop) (p : Prog S E O A T α) : Prop :=
  Keeps ⟨me, AllAmong allowed, fun _ _ _ _ => True⟩ (AllAmong allowed) p

/-- What a program never performs need not be considered. -/
theorem wp_of_only {me : T} {I : S → Multiset (Label O T) → Prop}
    {C : S → Multiset (Label O T) → (op : O) → Except E (A op) → Prop} {allowed : O → Prop}
    {p : Prog S E O A T α} {Q : Post S E O A T α} {s : S} {P : Multiset (Label O T)}
    {h : List (Logged S E O A)} (honly : Only me allowed p)
    (hp : p.wp ⟨me, I, fun s P op r => C s P op r ∧ allowed op⟩ Q s P h) :
    p.wp ⟨me, I, C⟩ Q s P h := by
  have hwp := honly s 0 [] ⟨trivial, by simp⟩
  clear honly
  revert hwp
  generalize (0 : Multiset (Label O T)) = P₀, ([] : List (Logged S E O A)) = h₀
  intro hwp
  induction p generalizing s P h P₀ h₀ with
  | done a => exact hp
  | raise e => exact hp
  | read k ih => exact ih s hp P₀ h₀ hwp
  | write f k ih => exact ih hp P₀ h₀ hwp
  | spawn t k ih => exact ih hp _ h₀ hwp
  | block op k ih =>
      refine ⟨hp.1, fun s' P' r hinv hresume => ?_⟩
      exact ih r (hp.2 s' P' r hinv ⟨hresume, hwp.1.head⟩) P₀ _
        (hwp.2 s' P₀ r ⟨trivial, hwp.1.at_⟩ trivial)

end Prog

/-! ## Runs -/

namespace World

variable {S E O T : Type} {A : O → Type}

theorem labelsOf_append (pool pool' : List (Greenlet S E O A T)) :
    labelsOf (pool ++ pool') = labelsOf pool + labelsOf pool' := by
  induction pool with
  | nil => simp [labelsOf]
  | cons g pool ih => rw [List.cons_append, labelsOf, ih, labelsOf, add_assoc]

theorem labelsOf_newGreenlets (ts : List T) :
    labelsOf (ts.map newGreenlet : List (Greenlet S E O A T)) = Label.readies ts := by
  induction ts with
  | nil => rfl
  | cons t ts ih =>
      rw [List.map_cons, labelsOf, ih, Label.readies_cons]
      simp [newGreenlet, Frame.label]

/-- A greenlet in place of another contributes its positions instead of the other's. -/
theorem labelsOf_set (pool : List (Greenlet S E O A T)) (g : Nat)
    {old : Greenlet S E O A T} (hold : pool[g]? = some old) :
    ∃ P : Multiset (Label O T), labelsOf pool = Frame.labels old.frames + P ∧
      ∀ new : Greenlet S E O A T, labelsOf (pool.set g new) = Frame.labels new.frames + P := by
  induction pool generalizing g with
  | nil => simp at hold
  | cons first pool ih =>
      cases g with
      | zero =>
          simp only [List.getElem?_cons_zero, Option.some.injEq] at hold
          subst hold
          exact ⟨labelsOf pool, rfl, fun new => rfl⟩
      | succ g =>
          rw [List.getElem?_cons_succ] at hold
          obtain ⟨P, hpool, hset⟩ := ih g hold
          refine ⟨Frame.labels first.frames + P, ?_, fun new => ?_⟩
          · rw [labelsOf, hpool, add_left_comm]
          · rw [List.set_cons_succ, labelsOf, hset new, add_left_comm]

end World

namespace Prog

variable {S E O T α : Type} {A : O → Type}

/-- A stretch of the program, from the state it starts in, as the weakest
precondition describes it. -/
def Stretch (R : Rely S E O A T) (Q : Post S E O A T α) (P : Multiset (Label O T))
    (h : List (Logged S E O A)) (result : S × List T × Outcome S E O A T α) : Prop :=
  match result with
  | (s, ts, .finished r) => Q r s (Label.readies ts + P) h
  | (s, ts, .blocked op k) =>
      R.inv s (.blocked R.me op ::ₘ (Label.readies ts + P)) ∧
        ∀ s' P' r, R.inv s' (.blocked R.me op ::ₘ P') → R.resume s' P' op r →
          (k r).wp R Q s' P' (h ++ [⟨s, op, r⟩])

theorem stretch_run {R : Rely S E O A T} {Q : Post S E O A T α} (p : Prog S E O A T α)
    {s : S} {P : Multiset (Label O T)} {h : List (Logged S E O A)} (hp : p.wp R Q s P h) :
    Stretch R Q P h (p.run s) := by
  induction p generalizing s P h with
  | done a => simpa [Stretch, run] using hp
  | raise e => simpa [Stretch, run] using hp
  | read k ih => exact ih s hp
  | write f k ih => exact ih hp
  | spawn t k ih =>
      have hk := ih hp
      revert hk
      simp only [run]
      rcases k.run s with ⟨s', ts, outcome⟩
      have hperm : Label.readies ts + (.ready t ::ₘ P) = Label.readies (t :: ts) + P := by
        rw [Label.readies_cons, Multiset.cons_add, Multiset.add_cons]
      cases outcome with
      | finished r =>
          simp only [Stretch, hperm]
          exact id
      | blocked op k =>
          simp only [Stretch, hperm]
          exact id
  | block op k ih =>
      simp only [Stretch, run, Label.readies_nil, zero_add]
      exact hp

end Prog

/-- What holds when a thread ends: its goal, and the invariant. -/
def Ends {S E O T : Type} {A : O → Type} (inv : S → Multiset (Label O T) → Prop)
    (goal : T → List (Logged S E O A) → S → Except E Bool → Prop) (t : T) : Post S E O A T Bool :=
  fun r s P h =>
    goal t h s r ∧
      match r with
      | .ok true => inv s (.ready t ::ₘ P)
      | _ => inv s P

/-- A body that ends in the invariant, which does not speak about its readiness. -/
theorem Prog.ends_of_wp {S E O T : Type} {A : O → Type} {R : Rely S E O A T}
    {inv : S → Multiset (Label O T) → Prop} {p : Prog S E O A T Bool} {t : T} {s : S}
    {P : Multiset (Label O T)} {h : List (Logged S E O A)}
    (hready : ∀ s P, inv s P → inv s (.ready t ::ₘ P))
    (hp : p.wp R (fun _ s P _ => inv s P) s P h) :
    p.wp R (Ends inv (fun _ _ _ _ => True) t) s P h := by
  refine wp_mono ?_ hp
  intro r s P h hinv
  refine ⟨trivial, ?_⟩
  split
  · exact hready s P hinv
  · exact hinv

/-- A body that ends in the invariant, which speaks about its readiness. -/
theorem Prog.ends_of_ready {S E O T : Type} {A : O → Type} {R : Rely S E O A T}
    {inv : S → Multiset (Label O T) → Prop} {p : Prog S E O A T Bool} {t : T} {s : S}
    {P : Multiset (Label O T)} {h : List (Logged S E O A)}
    (htail : ∀ s P, inv s (.ready t ::ₘ P) → inv s P)
    (hp : p.wp R (fun _ s P _ => inv s (.ready t ::ₘ P)) s P h) :
    p.wp R (Ends inv (fun _ _ _ _ => True) t) s P h := by
  refine wp_mono ?_ hp
  intro r s P h hinv
  refine ⟨trivial, ?_⟩
  split
  · exact hinv
  · exact htail s P hinv

/-- What a proof about a system assumes in a thread: its invariant, the condition on the
step, and that the answer is possible. -/
abbrev System.rely {S E O T R : Type} {A : O → Type} (sys : System S E O A T R)
    (c : Cond S E O A T) (inv : S → Multiset (Label O T) → Prop) (t : T) : Rely S E O A T :=
  ⟨t, inv, fun s P op r => c.resume s P t op r ∧ sys.Possible s op r⟩

/-! ## The induction over runs -/

section Induction

variable {S E O T R : Type} {A : O → Type} {sys : System S E O A T R} {c : Cond S E O A T}
  {inv : S → Multiset (Label O T) → Prop}
  {goal : T → List (Logged S E O A) → S → Except E Bool → Prop}
  {Φ : S → Frame S E O A T → Prop}

/-- The invariant of a world, where something holds of each frame in the shared state. -/
structure World.Upholds (inv : S → Multiset (Label O T) → Prop)
    (goal : T → List (Logged S E O A) → S → Except E Bool → Prop)
    (Φ : S → Frame S E O A T → Prop) (w : World S E O A T) : Prop where
  holds : inv w.shared w.labels
  frames : ∀ g ∈ w.pool, ∀ frame ∈ g.frames, Φ w.shared frame
  ended : ∀ e ∈ w.ended, goal e.thread e.history e.state e.result

/-- A stretch of a thread leaves the other frames in order, and the thread as well, whether it
ends or waits. -/
def Settles (inv : S → Multiset (Label O T) → Prop)
    (goal : T → List (Logged S E O A) → S → Except E Bool → Prop)
    (Φ : S → Frame S E O A T → Prop) (s : S) (t : T) (P : Multiset (Label O T))
    (h : List (Logged S E O A)) (result : S × List T × Outcome S E O A T Bool) : Prop :=
  (∀ frame, Φ s frame → Φ result.1 frame) ∧
    match result with
    | (s', ts, .finished r) => Ends inv goal t r s' (Label.readies ts + P) h
    | (s', ts, .blocked op k) =>
        inv s' (.blocked t op ::ₘ (Label.readies ts + P)) ∧ Φ s' (.waiting t h s' op k)

/-- Such a stretch leaves the world in order. -/
theorem World.Upholds.resume {w : World S E O A T} (hw : w.Upholds inv goal Φ) {g : Nat}
    {root t : T} {frame : Frame S E O A T} {rest : List (Frame S E O A T)}
    (hg : w.pool[g]? = some ⟨root, frame :: rest⟩) (hready : ∀ s t, Φ s (.ready t))
    {history : List (Logged S E O A)} {p : Prog S E O A T Bool}
    (hp : ∀ P, w.labels = frame.label ::ₘ P →
      Settles inv goal Φ w.shared t P history (p.run w.shared)) :
    (w.resume g root t rest history p).Upholds inv goal Φ := by
  obtain ⟨others, hlabels, hset⟩ := World.labelsOf_set w.pool g hg
  -- the positions of all threads but the running one
  have hwlabels : w.labels = frame.label ::ₘ (Frame.labels rest + others) := by
    rw [World.labels, hlabels, Frame.labels_cons, Multiset.cons_add]
  have hsettles := hp _ hwlabels
  revert hsettles
  unfold World.resume
  rcases p.run w.shared with ⟨s, ts, outcome⟩
  rintro ⟨hkept, houtcome⟩
  have hpool : ∀ g ∈ w.pool, ∀ frame ∈ g.frames, Φ s frame := fun g hg frame hframe =>
    hkept frame (hw.frames g hg frame hframe)
  have hrest : ∀ frame ∈ rest, Φ s frame := fun frame hframe =>
    hpool _ (List.mem_of_getElem? hg) frame (by simp [hframe])
  have hframes : ∀ frames : List (Frame S E O A T), (∀ frame ∈ frames, Φ s frame) →
      ∀ g' ∈ w.pool.set g ⟨root, frames⟩ ++ ts.map World.newGreenlet, ∀ frame ∈ g'.frames,
        Φ s frame := by
    intro frames hnew g' hg' frame hframe
    rcases List.mem_append.mp hg' with hg' | hg'
    · rcases List.mem_or_eq_of_mem_set hg' with hg' | rfl
      · exact hpool g' hg' frame hframe
      · exact hnew frame hframe
    · obtain ⟨t', -, rfl⟩ := List.mem_map.mp hg'
      simp only [World.newGreenlet, List.mem_singleton] at hframe
      subst hframe
      exact hready s t'
  have hnewLabels : ∀ frames : List (Frame S E O A T),
      World.labelsOf (w.pool.set g ⟨root, frames⟩ ++ ts.map World.newGreenlet) =
        Frame.labels frames + (Label.readies ts + others) := by
    intro frames
    rw [World.labelsOf_append, hset, World.labelsOf_newGreenlets, add_assoc,
      add_comm others]
  rcases outcome with r | ⟨op, k⟩
  · obtain ⟨hgoal, hinv⟩ := houtcome
    have hended : ∀ e ∈ w.ended ++ [⟨t, history, s, r⟩], goal e.thread e.history e.state e.result := by
      intro e he
      rcases List.mem_append.mp he with he | he
      · exact hw.ended e he
      · simp only [List.mem_singleton] at he
        subst he
        exact hgoal
    have hstop : inv s (Label.readies ts + (Frame.labels rest + others)) →
        World.Upholds inv goal Φ ⟨s, w.pool.set g ⟨root, rest⟩ ++ ts.map World.newGreenlet,
          w.ended ++ [⟨t, history, s, r⟩]⟩ := by
      intro hinv
      refine ⟨?_, hframes rest hrest, hended⟩
      simp only [World.labels, hnewLabels]
      rwa [add_left_comm]
    rcases r with e | (_ | _)
    · exact hstop hinv
    · exact hstop hinv
    · refine ⟨?_, hframes (.ready t :: rest) ?_, hended⟩
      · simp only [World.labels, hnewLabels, Frame.labels_cons, Multiset.cons_add, Frame.label]
        rwa [add_left_comm]
      · rintro frame (_ | ⟨_, hframe⟩)
        · exact hready s t
        · exact hrest frame hframe
  · obtain ⟨hinv, hwaiting⟩ := houtcome
    refine ⟨?_, hframes (.waiting t history s op k :: rest) ?_, hw.ended⟩
    · simp only [World.labels, hnewLabels, Frame.labels_cons, Multiset.cons_add, Frame.label]
      rwa [add_left_comm]
    · rintro frame (_ | ⟨_, hframe⟩)
      · exact hwaiting
      · exact hrest frame hframe

/-- A step leaves the world in order, for whatever holds of a frame until its thread goes on. -/
theorem World.Upholds.step {w w' : World S E O A T} (hw : w.Upholds inv goal Φ)
    {choice : Choice T R} (hallows : sys.Allows c w choice) (hstep : sys.step w choice = some w')
    (fork : ∀ s P t, inv s P → sys.Arrives t → c.fork s P t → inv s (.ready t ::ₘ P))
    (ready : ∀ s t, Φ s (.ready t))
    (start : ∀ s P t, inv s (.ready t ::ₘ P) → c.start s P t →
      Settles inv goal Φ s t P [] ((sys.body t).run s))
    (answer : ∀ s P t history s₀ op k r, Φ s (.waiting t history s₀ op k) →
      inv s (.blocked t op ::ₘ P) → c.resume s P t op r ∧ sys.Possible s op r →
        Settles inv goal Φ s t P (history ++ [⟨s₀, op, r⟩]) ((k r).run s)) :
    w'.Upholds inv goal Φ := by
  cases choice with
  | fork t =>
      simp only [System.step] at hstep
      split_ifs at hstep with hforkable
      cases hstep
      refine ⟨?_, ?_, hw.ended⟩
      -- the frame of a new greenlet joins the labels; the other frames are as they were
      · have hinv := fork w.shared w.labels t hw.holds (.inl hforkable) hallows
        have hlabels : World.labelsOf (w.pool ++ [World.newGreenlet t]) =
            .ready t ::ₘ World.labelsOf w.pool := by
          rw [World.labelsOf_append, add_comm]
          simp [World.labelsOf, World.newGreenlet, Frame.label]
        simpa only [World.labels, hlabels] using hinv
      · intro g hg frame hframe
        rcases List.mem_append.mp hg with hg | hg
        · exact hw.frames g hg frame hframe
        · simp only [List.mem_singleton] at hg
          subst hg
          simp only [World.newGreenlet, List.mem_singleton] at hframe
          subst hframe
          exact ready _ _
  | call g t =>
      simp only [System.step] at hstep
      split at hstep
      · rename_i root t' history s₀ op k rest hg
        split_ifs at hstep with hcallable
        cases hstep
        -- a called activity stands on the frames of the greenlet that waits for it
        obtain ⟨others, hlabels, hset⟩ := World.labelsOf_set w.pool g hg
        refine ⟨?_, ?_, hw.ended⟩
        · have hinv := fork w.shared w.labels t hw.holds (.inr ⟨op, hcallable⟩) hallows
          rw [World.labels, hlabels] at hinv
          simpa only [World.labels, hset, Frame.labels_cons, Frame.label, Multiset.cons_add]
            using hinv
        · intro g' hg' frame hframe
          rcases List.mem_or_eq_of_mem_set hg' with hg' | rfl
          · exact hw.frames g' hg' frame hframe
          · rcases hframe with _ | ⟨_, hframe⟩
            · exact ready _ _
            · exact hw.frames _ (List.mem_of_getElem? hg) frame hframe
      · cases hstep
  | start g =>
      simp only [System.step] at hstep
      split at hstep
      · rename_i root t rest hg
        cases hstep
        -- the greenlet leaves its `ready` frame and runs its first stretch
        refine hw.resume hg ready fun P hP => ?_
        have hinv := hw.holds
        rw [hP] at hinv
        exact start w.shared P t hinv (hallows root t rest P hg hP)
      · cases hstep
  | answer g r =>
      simp only [System.step] at hstep
      split at hstep
      · rename_i root t history s₀ op k rest hg
        split at hstep
        · rename_i result hdecode
          cases hstep
          refine hw.resume hg ready fun P hP => ?_
          have hinv := hw.holds
          rw [hP] at hinv
          have hframe := hw.frames _ (List.mem_of_getElem? hg) (.waiting t history s₀ op k)
            (by simp)
          exact answer w.shared P t history s₀ op k result hframe hinv
            ⟨hallows root t history s₀ op k rest result P hg hdecode hP, root, r, hdecode⟩
        · cases hstep
      · cases hstep

/-- The induction over runs. -/
theorem System.Reach.upholds {w : World S E O A T} (h : sys.Reach c w) (init : inv sys.init 0)
    (fork : ∀ s P t, inv s P → sys.Arrives t → c.fork s P t → inv s (.ready t ::ₘ P))
    (ready : ∀ s t, Φ s (.ready t))
    (start : ∀ s P t, inv s (.ready t ::ₘ P) → c.start s P t →
      Settles inv goal Φ s t P [] ((sys.body t).run s))
    (answer : ∀ s P t history s₀ op k r, Φ s (.waiting t history s₀ op k) →
      inv s (.blocked t op ::ₘ P) → c.resume s P t op r ∧ sys.Possible s op r →
        Settles inv goal Φ s t P (history ++ [⟨s₀, op, r⟩]) ((k r).run s)) :
    w.Upholds inv goal Φ := by
  induction h with
  | start => exact ⟨init, by simp [System.start], by simp [System.start]⟩
  | step _ hallows hstep ih => exact ih.step hallows hstep fork ready start answer

end Induction

/-- What is proved of a system: under a condition on its steps, every body keeps the
invariant, and the goal holds of every thread that ends. -/
structure Proof {S E O T R : Type} {A : O → Type} (sys : System S E O A T R)
    (c : Cond S E O A T) (inv : S → Multiset (Label O T) → Prop)
    (goal : T → List (Logged S E O A) → S → Except E Bool → Prop) : Prop where
  init : inv sys.init 0
  fork : ∀ s P t, inv s P → sys.Arrives t → c.fork s P t → inv s (.ready t ::ₘ P)
  body : ∀ s P t, inv s (.ready t ::ₘ P) → c.start s P t →
    (sys.body t).wp (sys.rely c inv t) (Ends inv goal t) s P []

namespace Proof

variable {S E O T R : Type} {A : O → Type} {sys : System S E O A T R} {c : Cond S E O A T}
  {inv : S → Multiset (Label O T) → Prop}
  {goal : T → List (Logged S E O A) → S → Except E Bool → Prop}

/-- A blocked thread will end as it should, whatever its operation returns. -/
def FrameOk (sys : System S E O A T R) (c : Cond S E O A T)
    (inv : S → Multiset (Label O T) → Prop)
    (goal : T → List (Logged S E O A) → S → Except E Bool → Prop) : Frame S E O A T → Prop
  | .ready _ => True
  | .waiting t history s₀ op k =>
      ∀ s P r, inv s (.blocked t op ::ₘ P) → c.resume s P t op r ∧ sys.Possible s op r →
        (k r).wp (sys.rely c inv t) (Ends inv goal t) s P (history ++ [⟨s₀, op, r⟩])

/-- The invariant of a world. -/
structure WorldOk (sys : System S E O A T R) (c : Cond S E O A T)
    (inv : S → Multiset (Label O T) → Prop)
    (goal : T → List (Logged S E O A) → S → Except E Bool → Prop) (w : World S E O A T) : Prop where
  holds : inv w.shared w.labels
  frames : ∀ g ∈ w.pool, ∀ frame ∈ g.frames, FrameOk sys c inv goal frame
  ended : ∀ e ∈ w.ended, goal e.thread e.history e.state e.result

/-- A stretch of a thread that ends as it should. -/
theorem settles {p : Prog S E O A T Bool} {s : S} {t : T} {P : Multiset (Label O T)}
    {h : List (Logged S E O A)} (hp : p.wp (sys.rely c inv t) (Ends inv goal t) s P h) :
    Settles inv goal (fun _ => FrameOk sys c inv goal) s t P h (p.run s) := by
  have hstretch := Prog.stretch_run p hp
  revert hstretch
  rcases p.run s with ⟨s', ts, r | ⟨op, k⟩⟩
  · exact fun hends => ⟨fun _ hframe => hframe, hends⟩
  · exact fun hwaits => ⟨fun _ hframe => hframe, hwaits⟩

/-- The invariant holds in every world that is reached under the condition, and the goal of
every thread that has ended there. -/
theorem sound (proof : Proof sys c inv goal) {w : World S E O A T} (h : sys.Reach c w) :
    WorldOk sys c inv goal w := by
  have hupholds : w.Upholds inv goal fun _ => FrameOk sys c inv goal :=
    h.upholds proof.init proof.fork (fun _ _ => trivial)
      (fun s P t hinv hstart => settles (proof.body s P t hinv hstart))
      fun s P t history s₀ op k r hframe hinv hresume => settles (hframe s P r hinv hresume)
  exact ⟨hupholds.holds, hupholds.frames, hupholds.ended⟩

end Proof

namespace System

variable {S E O T R : Type} {A : O → Type} {sys : System S E O A T R} {c : Cond S E O A T}

/-- A choice meets a condition, as evaluation finds it. -/
def Grants (sys : System S E O A T R) (c : Cond S E O A T) (w : World S E O A T) :
    Choice T R → Prop
  | .fork t => c.fork w.shared w.labels t
  | .call _ t => c.fork w.shared w.labels t
  | .start g =>
      match w.pool[g]? with
      | some ⟨root, .ready t :: rest⟩ =>
          c.start w.shared (World.labelsOf (w.pool.set g ⟨root, rest⟩)) t
      | _ => True
  | .answer g r =>
      match w.pool[g]? with
      | some ⟨root, .waiting t _ _ op _ :: rest⟩ =>
          match sys.decode w.shared root op r with
          | some result =>
              c.resume w.shared (World.labelsOf (w.pool.set g ⟨root, rest⟩)) t op result
          | none => True
      | _ => True

/-- The positions of the other threads. -/
theorem labels_others {w : World S E O A T} {g : Nat} {root : T} {frame : Frame S E O A T}
    {rest : List (Frame S E O A T)} (hg : w.pool[g]? = some ⟨root, frame :: rest⟩)
    {P : Multiset (Label O T)} (hP : w.labels = frame.label ::ₘ P) :
    P = World.labelsOf (w.pool.set g ⟨root, rest⟩) := by
  obtain ⟨others, hlabels, hset⟩ := World.labelsOf_set w.pool g hg
  rw [hset, ← Multiset.cons_inj_right frame.label, ← hP, World.labels, hlabels,
    Frame.labels_cons, Multiset.cons_add]

theorem allows_of_grants {w : World S E O A T} {choice : Choice T R}
    (h : sys.Grants c w choice) : sys.Allows c w choice := by
  cases choice with
  | fork t => exact h
  | call g t => exact h
  | start g =>
      intro root t rest P hg hP
      simp only [Grants, hg] at h
      rwa [labels_others hg hP]
  | answer g r =>
      intro root t history s₀ op k rest result P hg hdecode hP
      simp only [Grants, hg, hdecode] at h
      rwa [labels_others hg hP]

/-- A condition that can be evaluated. -/
class Decides (c : Cond S E O A T) where
  fork : ∀ s P t, Decidable (c.fork s P t)
  start : ∀ s P t, Decidable (c.start s P t)
  resume : ∀ s P t op r, Decidable (c.resume s P t op r)

instance {d : Cond S E O A T} [hc : Decides c] [hd : Decides d] : Decides (c.and d) where
  fork := fun s P t => @instDecidableAnd _ _ (hc.fork s P t) (hd.fork s P t)
  start := fun s P t => @instDecidableAnd _ _ (hc.start s P t) (hd.start s P t)
  resume := fun s P t op r => @instDecidableAnd _ _ (hc.resume s P t op r) (hd.resume s P t op r)

instance (w : World S E O A T) (choice : Choice T R) [Decides c] :
    Decidable (sys.Grants c w choice) :=
  match choice with
  | .fork t => Decides.fork w.shared w.labels t
  | .call _ t => Decides.fork w.shared w.labels t
  | .start g => by
      unfold Grants
      dsimp only
      split
      · exact Decides.start _ _ _
      · exact isTrue trivial
  | .answer g r => by
      unfold Grants
      dsimp only
      split
      · split
        · exact Decides.resume _ _ _ _ _
        · exact isTrue trivial
      · exact isTrue trivial

/-- The world after some choices, all of which meet a condition. -/
def within (sys : System S E O A T R) (c : Cond S E O A T) [Decides c] (w : World S E O A T) :
    List (Choice T R) → Option (World S E O A T)
  | [] => some w
  | choice :: choices =>
      if sys.Grants c w choice then (sys.step w choice).bind fun w => within sys c w choices
      else none

/-- Every execution whose choices meet the condition is such a run. -/
theorem reach_within (sys : System S E O A T R) (c : Cond S E O A T) [Decides c]
    {w w' : World S E O A T} (choices : List (Choice T R)) (h : sys.Reach c w)
    (hwithin : sys.within c w choices = some w') : sys.Reach c w' := by
  induction choices generalizing w with
  | nil =>
      cases hwithin
      exact h
  | cons choice choices ih =>
      rw [within] at hwithin
      split_ifs at hwithin with hgrants
      obtain ⟨next, hnext, hrest⟩ := Option.bind_eq_some_iff.mp hwithin
      exact ih (.step h (allows_of_grants hgrants) hnext) hrest

/-- Every run under a condition is one under a weaker condition. -/
theorem Reach.mono {d : Cond S E O A T} (hcd : c.Implies d) {w : World S E O A T}
    (h : sys.Reach c w) : sys.Reach d w := by
  induction h with
  | start => exact .start
  | @step w w' choice _ hallows hstep ih =>
      refine .step ih ?_ hstep
      cases choice with
      | fork t => exact hcd.fork _ _ _ hallows
      | call g t => exact hcd.fork _ _ _ hallows
      | start g =>
          intro root t rest P hg hP
          exact hcd.start _ _ _ (hallows root t rest P hg hP)
      | answer g r =>
          intro root t history s₀ op k rest result P hg hdecode hP
          exact hcd.resume _ _ _ _ _ (hallows root t history s₀ op k rest result P hg hdecode hP)

/-- The answers that fit the greenlet of the thread: it is the thread that the greenlet was
made for, or it was called on top of it. -/
def rooted (sys : System S E O A T R) : Cond S E O A T where
  fork := fun _ _ _ => True
  start := fun _ _ _ => True
  resume := fun s _ t op r =>
    ∃ root answer, (t = root ∨ ∃ op', sys.callable op' t = true) ∧
      sys.decode s root op answer = some r

/-- A frame belongs into the greenlet of a thread. -/
def Fits (sys : System S E O A T R) (root : T) (frame : Frame S E O A T) : Prop :=
  frame.label.thread = root ∨ ∃ op, sys.callable op frame.label.thread = true

/-- Every frame belongs into its greenlet. -/
def AllFit (sys : System S E O A T R) (w : World S E O A T) : Prop :=
  ∀ g ∈ w.pool, ∀ frame ∈ g.frames, sys.Fits g.root frame

theorem allFit_set {pool : List (Greenlet S E O A T)} {g : Nat} {new : Greenlet S E O A T}
    {ts : List T} (h : ∀ g ∈ pool, ∀ frame ∈ g.frames, sys.Fits g.root frame)
    (hnew : ∀ frame ∈ new.frames, sys.Fits new.root frame) :
    ∀ g' ∈ pool.set g new ++ ts.map World.newGreenlet, ∀ frame ∈ g'.frames,
      sys.Fits g'.root frame := by
  intro g' hg' frame hframe
  rcases List.mem_append.mp hg' with hg' | hg'
  · rcases List.mem_or_eq_of_mem_set hg' with hg' | rfl
    · exact h g' hg' frame hframe
    · exact hnew frame hframe
  · obtain ⟨t, -, rfl⟩ := List.mem_map.mp hg'
    simp only [World.newGreenlet, List.mem_singleton] at hframe
    subst hframe
    exact .inl rfl

/-- A stretch of a thread leaves its greenlet to the frames it had. -/
theorem allFit_resume {w : World S E O A T} (h : sys.AllFit w) {g : Nat} {root t : T}
    {frame : Frame S E O A T} {rest : List (Frame S E O A T)}
    (hg : w.pool[g]? = some ⟨root, frame :: rest⟩) (ht : frame.label.thread = t)
    {history : List (Logged S E O A)} {p : Prog S E O A T Bool} :
    sys.AllFit (w.resume g root t rest history p) := by
  have hall : ∀ frame' ∈ frame :: rest, sys.Fits root frame' :=
    fun frame' hframe' => h _ (List.mem_of_getElem? hg) frame' hframe'
  have hframe : sys.Fits root frame := hall frame (by simp)
  have hrest : ∀ frame' ∈ rest, sys.Fits root frame' :=
    fun frame' hframe' => hall frame' (by simp [hframe'])
  have hcons : ∀ new : Frame S E O A T, new.label.thread = t →
      ∀ frame' ∈ new :: rest, sys.Fits root frame' := by
    rintro new hnew frame' (_ | ⟨_, hframe'⟩)
    · unfold Fits
      rw [hnew, ← ht]
      exact hframe
    · exact hrest frame' hframe'
  unfold World.resume
  rcases p.run w.shared with ⟨s, ts, r | ⟨op, k⟩⟩
  · rcases r with e | _ | _
    · exact allFit_set h hrest
    · exact allFit_set h hrest
    · exact allFit_set h (hcons _ rfl)
  · exact allFit_set h (hcons _ rfl)

theorem allFit_of_reach {w : World S E O A T} (h : sys.Reach c w) : sys.AllFit w := by
  induction h with
  | start => simp [AllFit, System.start]
  | @step w w' choice _ _ hstep ih =>
      cases choice with
      | fork t =>
          simp only [System.step] at hstep
          split_ifs at hstep
          cases hstep
          intro g hg frame hframe
          rcases List.mem_append.mp hg with hg | hg
          · exact ih g hg frame hframe
          · cases List.mem_singleton.mp hg
            cases List.mem_singleton.mp hframe
            exact .inl rfl
      | call g t =>
          simp only [System.step] at hstep
          split at hstep
          · rename_i root t' history s₀ op k rest hg
            split_ifs at hstep with hcallable
            cases hstep
            intro g' hg' frame hframe
            rcases List.mem_or_eq_of_mem_set hg' with hg' | rfl
            · exact ih g' hg' frame hframe
            · rcases hframe with _ | ⟨_, hframe⟩
              -- a called activity fits because the operation under it may call it
              · exact .inr ⟨op, hcallable⟩
              · exact ih _ (List.mem_of_getElem? hg) frame hframe
          · cases hstep
      | start g =>
          simp only [System.step] at hstep
          split at hstep
          · rename_i root t rest hg
            cases hstep
            exact allFit_resume ih hg rfl
          · cases hstep
      | answer g r =>
          simp only [System.step] at hstep
          split at hstep
          · rename_i root t history s₀ op k rest hg
            split at hstep
            · cases hstep
              exact allFit_resume ih hg rfl
            · cases hstep
          · cases hstep

/-- Every answer fits the greenlet it is given in. -/
theorem Reach.rooted {w : World S E O A T} (h : sys.Reach c w) :
    sys.Reach (c.and sys.rooted) w := by
  induction h with
  | start => exact .start
  | @step w w' choice hreach hallows hstep ih =>
      refine .step ih ?_ hstep
      cases choice with
      | fork t => exact ⟨hallows, trivial⟩
      | call g t => exact ⟨hallows, trivial⟩
      | start g =>
          intro root t rest P hg hP
          exact ⟨hallows root t rest P hg hP, trivial⟩
      | answer g r =>
          intro root t history s₀ op k rest result P hg hdecode hP
          have hfits := allFit_of_reach hreach _ (List.mem_of_getElem? hg)
            (.waiting t history s₀ op k) (by simp)
          exact ⟨hallows root t history s₀ op k rest result P hg hdecode hP, root, r, hfits, hdecode⟩

/-- A property of all worlds that are reached may be assumed at every step. -/
theorem Reach.within {J : S → Multiset (Label O T) → Prop}
    (hJ : ∀ w, sys.Reach c w → J w.shared w.labels) {w : World S E O A T}
    (h : sys.Reach c w) : sys.Reach (c.and (.within J)) w := by
  induction h with
  | start => exact .start
  | @step w w' choice hreach hallows hstep ih =>
      refine .step ih ?_ hstep
      have hw := hJ w hreach
      cases choice with
      | fork t => exact ⟨hallows, hw⟩
      | call g t => exact ⟨hallows, hw⟩
      | start g =>
          intro root t rest P hg hP
          rw [hP] at hw
          exact ⟨hallows root t rest P hg hP, hw⟩
      | answer g r =>
          intro root t history s₀ op k rest result P hg hdecode hP
          rw [hP] at hw
          exact ⟨hallows root t history s₀ op k rest result P hg hdecode hP, hw⟩

end System

end Coop
