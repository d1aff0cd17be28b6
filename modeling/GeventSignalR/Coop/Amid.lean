import GeventSignalR.Coop.Prog
import GeventSignalR.Coop.System

/-!
# A program among others

A program in a given environment: whenever it blocks, the environment changes the shared
state and answers its operation.

* `Prog.amid` is the execution of a program in an environment, with a `Trace` of the
  operations it performed and of the threads it made ready.
* `Prog.Returns` and `Prog.Raises` are its two ends; a loop reaches them round by round.
* `Prog.Agrees` says that two programs do the same, up to a relation of their states, with
  one rule for each construct.
* `Prog.returns` are the answers it gets, and `Prog.Tells` says that its end shows whether all
  of them were good.
-/

namespace Coop

/-- What other threads make of the state while an operation is pending, and the answer to
it, in view of the operations so far. -/
abbrev Env (S E O : Type) (A : O → Type) : Type :=
  List (Answered E O A) → (op : O) → S → Except E (A op) × S

/-- How far a program has come. -/
structure Trace (S E O : Type) (A : O → Type) (T : Type) : Type where
  state : S
  ops : List (Answered E O A)
  forks : List T

/-- The same operations and threads so far, in related states. -/
structure Trace.Same {S E O T : Type} {A : O → Type} (rel : S → S → Prop)
    (tr tr' : Trace S E O A T) : Prop where
  state : rel tr.state tr'.state
  ops : tr.ops = tr'.ops
  forks : tr.forks = tr'.forks

namespace Prog

variable {S E O T α β : Type} {A : O → Type}

/-- The result of the program in an environment, and its trace. -/
def amid (env : Env S E O A) :
    Prog S E O A T α → Trace S E O A T → Except E α × Trace S E O A T
  | done a, tr => (.ok a, tr)
  | raise e, tr => (.error e, tr)
  | read k, tr => (k tr.state).amid env tr
  | write f k, tr => k.amid env { tr with state := f tr.state }
  | spawn t k, tr => k.amid env { tr with forks := tr.forks ++ [t] }
  | block op k, tr =>
      let (r, s) := env tr.ops op tr.state
      (k r).amid env { tr with state := s, ops := tr.ops ++ [⟨op, r⟩] }

variable {env : Env S E O A} {tr tr' : Trace S E O A T}

@[simp] theorem amid_pure (a : α) :
    (pure a : Prog S E O A T α).amid env tr = (.ok a, tr) := rfl

@[simp] theorem amid_raise (e : E) :
    (raise e : Prog S E O A T α).amid env tr = (.error e, tr) := rfl

@[simp] theorem amid_get : (get : Prog S E O A T S).amid env tr = (.ok tr.state, tr) := rfl

@[simp] theorem amid_modify (f : S → S) :
    (modify f : Prog S E O A T Unit).amid env tr = (.ok (), { tr with state := f tr.state }) := rfl

@[simp] theorem amid_fork (t : T) :
    (fork t : Prog S E O A T Unit).amid env tr =
      (.ok (), { tr with forks := tr.forks ++ [t] }) := rfl

@[simp] theorem amid_perform (op : O) :
    (perform op : Prog S E O A T (A op)).amid env tr =
      ((env tr.ops op tr.state).1,
        { tr with
          state := (env tr.ops op tr.state).2
          ops := tr.ops ++ [⟨op, (env tr.ops op tr.state).1⟩] }) := by
  simp only [perform, amid]
  rcases env tr.ops op tr.state with ⟨e | a, s⟩ <;> rfl

@[simp] theorem amid_ofExcept (r : Except E α) :
    (ofExcept r : Prog S E O A T α).amid env tr = (r, tr) := by
  cases r <;> rfl

@[simp] theorem amid_when {c : Bool} {p : Prog S E O A T Unit} :
    (p.when c).amid env tr = if c then p.amid env tr else (.ok (), tr) := by
  cases c <;> rfl

@[simp] theorem amid_bind (p : Prog S E O A T α) (f : α → Prog S E O A T β) :
    (p >>= f).amid env tr =
      match p.amid env tr with
      | (.ok a, tr) => (f a).amid env tr
      | (.error e, tr) => (.error e, tr) := by
  change (p.bind f).amid env tr = _
  induction p generalizing tr with
  | done a => rfl
  | raise e => rfl
  | read k ih => exact ih _
  | write g k ih => exact ih
  | spawn t k ih => exact ih
  | block op k ih => exact ih _

@[simp] theorem amid_tryCatch (p : Prog S E O A T α) (handler : E → Prog S E O A T α) :
    (p.tryCatch handler).amid env tr =
      match p.amid env tr with
      | (.ok a, tr) => (.ok a, tr)
      | (.error e, tr) => (handler e).amid env tr := by
  induction p generalizing tr with
  | done a => rfl
  | raise e => rfl
  | read k ih => exact ih _
  | write g k ih => exact ih
  | spawn t k ih => exact ih
  | block op k ih => exact ih _

/-! ## Loops -/

/-- The program returns. -/
def Returns (env : Env S E O A) (p : Prog S E O A T Unit) (tr tr' : Trace S E O A T) : Prop :=
  p.amid env tr = (.ok (), tr')

/-- The program raises. -/
def Raises (env : Env S E O A) (e : E) (p : Prog S E O A T α) (tr tr' : Trace S E O A T) : Prop :=
  p.amid env tr = (.error e, tr')

/-- A program returns or raises. -/
theorem returns_or_raises (env : Env S E O A) (p : Prog S E O A T Unit) (tr : Trace S E O A T) :
    ∃ tr', p.Returns env tr tr' ∨ ∃ e, p.Raises env e tr tr' := by
  rcases hrun : p.amid env tr with ⟨e | ⟨⟩, tr'⟩
  · exact ⟨tr', .inr ⟨e, hrun⟩⟩
  · exact ⟨tr', .inl hrun⟩

theorem returns_bind_iff {p : Prog S E O A T Unit} {f : Unit → Prog S E O A T Unit} :
    (p >>= f).Returns env tr tr' ↔ ∃ mid, p.Returns env tr mid ∧ (f ()).Returns env mid tr' := by
  unfold Returns
  rw [amid_bind]
  rcases p.amid env tr with ⟨e | ⟨⟩, mid⟩ <;> simp

theorem raises_bind_iff {e : E} {p : Prog S E O A T Unit} {f : Unit → Prog S E O A T Unit} :
    (p >>= f).Raises env e tr tr' ↔
      p.Raises env e tr tr' ∨ ∃ mid, p.Returns env tr mid ∧ (f ()).Raises env e mid tr' := by
  unfold Returns Raises
  rw [amid_bind]
  rcases p.amid env tr with ⟨e | ⟨⟩, mid⟩ <;> simp

/-- What one member of a list does after the other. -/
inductive InTurn {γ τ : Type} (R : γ → τ → τ → Prop) : List γ → τ → τ → Prop
  | nil {t : τ} : InTurn R [] t t
  | cons {x : γ} {xs : List γ} {t mid t' : τ} :
      R x t mid → InTurn R xs mid t' → InTurn R (x :: xs) t t'

/-- What every member keeps is kept. -/
theorem InTurn.keeps {γ τ : Type} {R : γ → τ → τ → Prop} {P : τ → Prop} {xs : List γ} {t t' : τ}
    (h : InTurn R xs t t') (hR : ∀ x ∈ xs, ∀ t t', R x t t' → P t → P t') (hP : P t) : P t' := by
  induction h with
  | nil => exact hP
  | cons hx _ ih =>
      exact ih (fun y hy => hR y (by simp [hy])) (hR _ (by simp) _ _ hx hP)

/-- What one member establishes and the others keep holds at the end. -/
theorem InTurn.establishes {γ τ : Type} {R : γ → τ → τ → Prop} {P : τ → Prop} {xs : List γ}
    {t t' : τ} {x : γ} (h : InTurn R xs t t') (hR : ∀ y ∈ xs, ∀ t t', R y t t' → P t → P t')
    (hmem : x ∈ xs) (hx : ∀ t t', R x t t' → P t') : P t' := by
  induction h with
  | nil => cases hmem
  | @cons y ys t mid t' hy hrest ih =>
      have hkept : ∀ z ∈ ys, ∀ t t', R z t t' → P t → P t' := fun z hz => hR z (by simp [hz])
      rcases List.mem_cons.mp hmem with rfl | hmem
      · exact hrest.keeps hkept (hx _ _ hy)
      · exact ih hkept hmem

/-- A loop returns when each of its rounds does. -/
theorem returns_each_iff {γ : Type} {xs : List γ} {f : γ → Prog S E O A T Unit} :
    (each xs f).Returns env tr tr' ↔ InTurn (Returns env) (xs.map f) tr tr' := by
  induction xs generalizing tr with
  | nil =>
      constructor
      · intro h
        cases h
        exact .nil
      · intro h
        cases h
        rfl
  | cons x xs ih =>
      show (f x >>= fun _ => each xs f).Returns env tr tr' ↔ _
      rw [returns_bind_iff]
      constructor
      · rintro ⟨mid, hx, hrest⟩
        exact .cons hx (ih.mp hrest)
      · intro h
        cases h with
        | cons hx hrest => exact ⟨_, hx, ih.mpr hrest⟩

/-- It raises in the first round that does. -/
theorem raises_each_iff {γ : Type} {e : E} {xs : List γ} {f : γ → Prog S E O A T Unit} :
    (each xs f).Raises env e tr tr' ↔ ∃ front p back last, xs.map f = front ++ p :: back ∧
      InTurn (Returns env) front tr last ∧ p.Raises env e last tr' := by
  induction xs generalizing tr with
  | nil =>
      constructor
      · intro h
        cases h
      · rintro ⟨front, p, back, last, hxs, -⟩
        simp at hxs
  | cons y xs ih =>
      show (f y >>= fun _ => each xs f).Raises env e tr tr' ↔ _
      rw [raises_bind_iff]
      constructor
      · rintro (hy | ⟨mid, hy, hrest⟩)
        · exact ⟨[], f y, xs.map f, tr, rfl, .nil, hy⟩
        · obtain ⟨front, p, back, last, hxs, hfront, hp⟩ := ih.mp hrest
          exact ⟨f y :: front, p, back, last, by simp [hxs], .cons hy hfront, hp⟩
      · rintro ⟨front, p, back, last, hxs, hfront, hp⟩
        cases hfront with
        | nil =>
            obtain ⟨rfl, -⟩ := List.cons.inj hxs
            exact .inl hp
        | cons hy hrest =>
            obtain ⟨rfl, htail⟩ := List.cons.inj hxs
            exact .inr ⟨_, hy, ih.mpr ⟨_, p, back, last, htail, hrest, hp⟩⟩

/-! ## Programs that do the same -/

/-- From related states both programs return the same value, after the same operations and
with the same threads, in states that are related behind it. -/
def Agrees (env : Env S E O A) (pre : S → S → Prop) (p q : Prog S E O A T α)
    (post : α → S → S → Prop) : Prop :=
  ∀ tr tr' : Trace S E O A T, tr.Same pre tr' → ∃ a,
    (p.amid env tr).1 = .ok a ∧ (q.amid env tr').1 = .ok a ∧
      (p.amid env tr).2.Same (post a) (q.amid env tr').2

namespace Agrees

variable {pre : S → S → Prop} {p q : Prog S E O A T α} {f g : α → Prog S E O A T β}

theorem pure {a : α} {post : α → S → S → Prop} (h : ∀ s s', pre s s' → post a s s') :
    Agrees env pre (pure a : Prog S E O A T α) (pure a) post :=
  fun _ _ hsame => ⟨a, rfl, rfl, h _ _ hsame.state, hsame.ops, hsame.forks⟩

theorem bind {mid : α → S → S → Prop} {post : β → S → S → Prop} (hp : Agrees env pre p q mid)
    (hf : ∀ a, Agrees env (mid a) (f a) (g a) post) :
    Agrees env pre (p >>= f) (q >>= g) post := by
  intro tr tr' h
  obtain ⟨a, hpa, hqa, hsame⟩ := hp tr tr' h
  obtain ⟨b, hfb, hgb, hend⟩ := hf a _ _ hsame
  have hleft : (p >>= f).amid env tr = (f a).amid env (p.amid env tr).2 := by
    rw [amid_bind]
    rcases hrun : p.amid env tr with ⟨r, next⟩
    rw [hrun] at hpa
    cases hpa
    rfl
  have hright : (q >>= g).amid env tr' = (g a).amid env (q.amid env tr').2 := by
    rw [amid_bind]
    rcases hrun : q.amid env tr' with ⟨r, next⟩
    rw [hrun] at hqa
    cases hqa
    rfl
  rw [hleft, hright]
  exact ⟨b, hfb, hgb, hend⟩

/-- Both programs read the state. -/
theorem get_bind_eq {f g : S → Prog S E O A T β} {post : β → S → S → Prop}
    (hf : ∀ s₀ s₀', pre s₀ s₀' →
      Agrees env (fun s s' => s = s₀ ∧ s' = s₀') (f s₀) (g s₀') post) :
    Agrees env pre (get >>= f) (get >>= g) post :=
  fun tr tr' h => hf tr.state tr'.state h.state tr tr' ⟨⟨rfl, rfl⟩, h.ops, h.forks⟩

/-- Programs that read the state and need nothing else of it than the relation. -/
theorem get_bind {f g : S → Prog S E O A T β} {post : β → S → S → Prop}
    (hf : ∀ s s', pre s s' → Agrees env pre (f s) (g s') post) :
    Agrees env pre (get >>= f) (get >>= g) post :=
  fun tr tr' h => hf tr.state tr'.state h.state tr tr' h

theorem modify {f g : S → S} {post : Unit → S → S → Prop}
    (hfg : ∀ s s', pre s s' → post () (f s) (g s')) :
    Agrees env pre (modify f : Prog S E O A T Unit) (modify g) post :=
  fun _ _ h => ⟨(), rfl, rfl, hfg _ _ h.state, h.ops, h.forks⟩

theorem fork {t : T} {post : Unit → S → S → Prop} (h : ∀ s s', pre s s' → post () s s') :
    Agrees env pre (fork t : Prog S E O A T Unit) (fork t) post :=
  fun _ _ hsame =>
    ⟨(), rfl, rfl, h _ _ hsame.state, hsame.ops, congrArg (· ++ [t]) hsame.forks⟩

theorem ofExcept {a : α} {r : Except E α} {post : α → S → S → Prop} (hr : r = .ok a)
    (h : ∀ s s', pre s s' → post a s s') :
    Agrees env pre (ofExcept r : Prog S E O A T α) (ofExcept r) post := by
  rw [hr]
  exact Agrees.pure h

/-- An operation that the environment answers alike. -/
theorem perform {op : O} {post : A op → S → S → Prop}
    (hop : ∀ ops s s', pre s s' → ∃ a, (env ops op s).1 = .ok a ∧ (env ops op s').1 = .ok a ∧
      post a (env ops op s).2 (env ops op s').2) :
    Agrees env pre (perform op : Prog S E O A T (A op)) (perform op) post := by
  intro tr tr' h
  obtain ⟨a, hleft, hright, hpost⟩ := hop tr.ops tr.state tr'.state h.state
  rw [amid_perform, amid_perform, ← h.ops]
  refine ⟨a, hleft, hright, hpost, ?_, h.forks⟩
  rw [hleft, hright]

/-- The rule of consequence. -/
theorem mono {pre' : S → S → Prop} {post post' : α → S → S → Prop}
    (hp : Agrees env pre' p q post') (hpre : ∀ s s', pre s s' → pre' s s')
    (hpost : ∀ a s s', post' a s s' → post a s s') : Agrees env pre p q post := by
  intro tr tr' h
  obtain ⟨a, hpa, hqa, hsame⟩ := hp tr tr' ⟨hpre _ _ h.state, h.ops, h.forks⟩
  exact ⟨a, hpa, hqa, hpost _ _ _ hsame.state, hsame.ops, hsame.forks⟩

theorem when {c : Bool} {p q : Prog S E O A T Unit} {post : Unit → S → S → Prop}
    (hp : c = true → Agrees env pre p q post) (h : c = false → ∀ s s', pre s s' → post () s s') :
    Agrees env pre (p.when c) (q.when c) post := by
  cases c with
  | true => exact hp rfl
  | false => exact Agrees.pure (h rfl)

/-- The same loop on both sides. -/
theorem each {γ : Type} {xs : List γ} {f g : γ → Prog S E O A T Unit}
    (hf : ∀ x ∈ xs, Agrees env pre (f x) (g x) fun _ => pre) :
    Agrees env pre (Prog.each xs f) (Prog.each xs g) fun _ => pre := by
  induction xs with
  | nil => exact Agrees.pure fun _ _ h => h
  | cons x xs ih =>
      exact bind (hf x (by simp)) fun _ => ih fun y hy => hf y (by simp [hy])

end Agrees

end Prog

/-! ## What the end of a program tells of its operations -/

/-- An operation that returns or raises, in a state. -/
structure Returned (S E O : Type) (A : O → Type) : Type where
  state : S
  op : O
  result : Except E (A op)

/-- Properties of both kinds of ends. -/
def Concludes {S E O T α : Type} {A : O → Type} (ok : α → Trace S E O A T → Prop)
    (err : E → Trace S E O A T → Prop) : Except E α × Trace S E O A T → Prop
  | (.ok a, tr) => ok a tr
  | (.error e, tr) => err e tr

namespace Prog

variable {S E O T α β : Type} {A : O → Type}

/-- The operations of the program in an environment, when they are answered. -/
def returns (env : Env S E O A) :
    Prog S E O A T α → Trace S E O A T → List (Returned S E O A)
  | done _, _ => []
  | raise _, _ => []
  | read k, tr => (k tr.state).returns env tr
  | write f k, tr => k.returns env { tr with state := f tr.state }
  | spawn t k, tr => k.returns env { tr with forks := tr.forks ++ [t] }
  | block op k, tr =>
      let (r, s) := env tr.ops op tr.state
      ⟨s, op, r⟩ :: (k r).returns env { tr with state := s, ops := tr.ops ++ [⟨op, r⟩] }

variable {env : Env S E O A} {tr tr' : Trace S E O A T}

theorem returns_pure (a : α) : (pure a : Prog S E O A T α).returns env tr = [] := rfl

theorem returns_raise (e : E) : (raise e : Prog S E O A T α).returns env tr = [] := rfl

theorem returns_perform (op : O) :
    (perform op : Prog S E O A T (A op)).returns env tr =
      [⟨(env tr.ops op tr.state).2, op, (env tr.ops op tr.state).1⟩] := by
  simp only [perform, returns]
  rcases env tr.ops op tr.state with ⟨e | a, s⟩ <;> rfl

theorem returns_bind_ok {p : Prog S E O A T α} {f : α → Prog S E O A T β} {a : α}
    (h : p.amid env tr = (.ok a, tr')) :
    (p >>= f).returns env tr = p.returns env tr ++ (f a).returns env tr' := by
  change (p.bind f).returns env tr = _
  induction p generalizing tr with
  | done b =>
      cases h
      rfl
  | raise e => cases h
  | read k ih => exact ih _ h
  | write g k ih => exact ih h
  | spawn t k ih => exact ih h
  | block op k ih => exact congrArg (_ :: ·) (ih _ h)

theorem returns_bind_error {p : Prog S E O A T α} {f : α → Prog S E O A T β} {e : E}
    (h : p.amid env tr = (.error e, tr')) :
    (p >>= f).returns env tr = p.returns env tr := by
  change (p.bind f).returns env tr = _
  induction p generalizing tr with
  | done b => cases h
  | raise e => rfl
  | read k ih => exact ih _ h
  | write g k ih => exact ih h
  | spawn t k ih => exact ih h
  | block op k ih => exact congrArg (_ :: ·) (ih _ h)

theorem returns_tryCatch_ok {p : Prog S E O A T α} {handler : E → Prog S E O A T α} {a : α}
    (h : p.amid env tr = (.ok a, tr')) :
    (p.tryCatch handler).returns env tr = p.returns env tr := by
  induction p generalizing tr with
  | done b => rfl
  | raise e => cases h
  | read k ih => exact ih _ h
  | write g k ih => exact ih h
  | spawn t k ih => exact ih h
  | block op k ih => exact congrArg (_ :: ·) (ih _ h)

theorem returns_tryCatch_error {p : Prog S E O A T α} {handler : E → Prog S E O A T α} {e : E}
    (h : p.amid env tr = (.error e, tr')) :
    (p.tryCatch handler).returns env tr = p.returns env tr ++ (handler e).returns env tr' := by
  induction p generalizing tr with
  | done b => cases h
  | raise e =>
      cases h
      rfl
  | read k ih => exact ih _ h
  | write g k ih => exact ih h
  | spawn t k ih => exact ih h
  | block op k ih => exact congrArg (_ :: ·) (ih _ h)

/-- The end of the program tells whether a fact held before it and all of its operations were
good.  It leaves a trace with a property. -/
structure Tells (env : Env S E O A) (good : Returned S E O A → Prop)
    (K : Trace S E O A T → Prop) (before : Prop) (p : Prog S E O A T α) (tr : Trace S E O A T)
    (ok : α → Trace S E O A T → Prop) (err : E → Trace S E O A T → Prop) : Prop where
  keeps : K (p.amid env tr).2
  iff : (before ∧ ∀ x ∈ p.returns env tr, good x) ↔ Concludes ok err (p.amid env tr)

namespace Tells

variable {good : Returned S E O A → Prop} {K K' : Trace S E O A T → Prop} {before : Prop}
  {p : Prog S E O A T α} {f : α → Prog S E O A T β} {handler : E → Prog S E O A T α}
  {ok ok' : α → Trace S E O A T → Prop} {okf : β → Trace S E O A T → Prop}
  {err err' : E → Trace S E O A T → Prop}

theorem pure {a : α} (hK : K tr) (h : before ↔ ok a tr) :
    Tells env good K before (pure a : Prog S E O A T α) tr ok err :=
  ⟨hK, by simpa [returns_pure, Concludes] using h⟩

theorem raise {e : E} (hK : K tr) (h : before ↔ err e tr) :
    Tells env good K before (raise e : Prog S E O A T α) tr ok err :=
  ⟨hK, by simpa [returns_raise, Concludes] using h⟩

theorem perform {op : O} {ok : A op → Trace S E O A T → Prop}
    (hK : K { tr with
      state := (env tr.ops op tr.state).2
      ops := tr.ops ++ [⟨op, (env tr.ops op tr.state).1⟩] })
    (h : (before ∧ good ⟨(env tr.ops op tr.state).2, op, (env tr.ops op tr.state).1⟩) ↔
      Concludes ok err ((env tr.ops op tr.state).1, { tr with
        state := (env tr.ops op tr.state).2
        ops := tr.ops ++ [⟨op, (env tr.ops op tr.state).1⟩] })) :
    Tells env good K before (perform op : Prog S E O A T (A op)) tr ok err := by
  constructor
  · rw [amid_perform]
    exact hK
  · rw [returns_perform, amid_perform, List.forall_mem_singleton]
    exact h

theorem when {c : Bool} {p : Prog S E O A T Unit} {ok : Unit → Trace S E O A T → Prop}
    (hp : c = true → Tells env good K before p tr ok err)
    (h : c = false → K tr ∧ (before ↔ ok () tr)) :
    Tells env good K before (p.when c) tr ok err := by
  cases c with
  | true => exact hp rfl
  | false => exact Tells.pure (h rfl).1 (h rfl).2

theorem get_bind {f : S → Prog S E O A T β} {ok : β → Trace S E O A T → Prop}
    (h : Tells env good K before (f tr.state) tr ok err) :
    Tells env good K before (get >>= f) tr ok err :=
  ⟨h.keeps, h.iff⟩

theorem modify_bind {g : S → S} {f : Unit → Prog S E O A T β} {ok : β → Trace S E O A T → Prop}
    (h : Tells env good K before (f ()) { tr with state := g tr.state } ok err) :
    Tells env good K before (modify g >>= f) tr ok err :=
  ⟨h.keeps, h.iff⟩

theorem fork {t : T} {ok : Unit → Trace S E O A T → Prop}
    (hK : K { tr with forks := tr.forks ++ [t] })
    (h : before ↔ ok () { tr with forks := tr.forks ++ [t] }) :
    Tells env good K before (fork t) tr ok err :=
  ⟨hK, by simpa [Prog.fork, returns, amid, Concludes] using h⟩

theorem modify {g : S → S} {ok : Unit → Trace S E O A T → Prop}
    (hK : K { tr with state := g tr.state }) (h : before ↔ ok () { tr with state := g tr.state }) :
    Tells env good K before (modify g) tr ok err :=
  ⟨hK, by simpa [Prog.modify, returns, amid, Concludes] using h⟩

theorem bind (hp : Tells env good K' before p tr ok err')
    (hf : ∀ a tr', K' tr' → Tells env good K (ok a tr') (f a) tr' okf err)
    (herr : ∀ e tr', K' tr' → K tr' ∧ (err' e tr' ↔ err e tr')) :
    Tells env good K before (p >>= f) tr okf err := by
  obtain ⟨hkeeps, hiff⟩ := hp
  rcases hrun : p.amid env tr with ⟨e | a, tr'⟩
  · rw [hrun] at hkeeps hiff
    have hend : (p >>= f).amid env tr = (.error e, tr') := by rw [amid_bind, hrun]
    constructor
    · rw [hend]
      exact (herr e tr' hkeeps).1
    · rw [hend, returns_bind_error hrun]
      exact hiff.trans (herr e tr' hkeeps).2
  · rw [hrun] at hkeeps hiff
    have hend : (p >>= f).amid env tr = (f a).amid env tr' := by rw [amid_bind, hrun]
    have hrest := hf a tr' hkeeps
    constructor
    · rw [hend]
      exact hrest.keeps
    · rw [hend, returns_bind_ok hrun, List.forall_mem_append, ← and_assoc, hiff]
      exact hrest.iff

theorem tryCatch (hp : Tells env good K' before p tr ok' err')
    (hhandler : ∀ e tr', K' tr' → Tells env good K (err' e tr') (handler e) tr' ok err)
    (hok : ∀ a tr', K' tr' → K tr' ∧ (ok' a tr' ↔ ok a tr')) :
    Tells env good K before (p.tryCatch handler) tr ok err := by
  obtain ⟨hkeeps, hiff⟩ := hp
  rcases hrun : p.amid env tr with ⟨e | a, tr'⟩
  · rw [hrun] at hkeeps hiff
    have hend : (p.tryCatch handler).amid env tr = (handler e).amid env tr' := by
      rw [amid_tryCatch, hrun]
    have hrest := hhandler e tr' hkeeps
    constructor
    · rw [hend]
      exact hrest.keeps
    · rw [hend, returns_tryCatch_error hrun, List.forall_mem_append, ← and_assoc, hiff]
      exact hrest.iff
  · rw [hrun] at hkeeps hiff
    have hend : (p.tryCatch handler).amid env tr = (.ok a, tr') := by rw [amid_tryCatch, hrun]
    constructor
    · rw [hend]
      exact (hok a tr' hkeeps).1
    · rw [hend, returns_tryCatch_ok hrun]
      exact hiff.trans (hok a tr' hkeeps).2

end Tells

end Prog

end Coop
