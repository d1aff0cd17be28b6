import GeventSignalR.Coop.Logic

/-!
# A program on its own

A program while no other thread does anything: the state changes through the program
alone, and every operation is answered at once.

* `Prog.alone` is such an execution.
* `alone_keeps` takes what a program keeps in any company to its solitary executions.
* `Prog.solo` is one with answers from outside, and `System.reach_solo` makes a run of it.
-/

namespace Coop

namespace Prog

variable {S E O T α β : Type} {A : O → Type}

/-- The result of the program, the state it leaves, and the operations so far, when each
operation is answered in view of the earlier ones. -/
def alone (answers : List O → (op : O) → Except E (A op)) :
    Prog S E O A T α → S → List O → Except E α × S × List O
  | done a, s, ops => (.ok a, s, ops)
  | raise e, s, ops => (.error e, s, ops)
  | read k, s, ops => (k s).alone answers s ops
  | write f k, s, ops => k.alone answers (f s) ops
  | spawn _ k, s, ops => k.alone answers s ops
  | block op k, s, ops => (k (answers ops op)).alone answers s (ops ++ [op])

variable {answers : List O → (op : O) → Except E (A op)} {s : S} {ops : List O}

@[simp] theorem alone_pure (a : α) :
    (pure a : Prog S E O A T α).alone answers s ops = (.ok a, s, ops) := rfl

@[simp] theorem alone_raise (e : E) :
    (raise e : Prog S E O A T α).alone answers s ops = (.error e, s, ops) := rfl

@[simp] theorem alone_get :
    (get : Prog S E O A T S).alone answers s ops = (.ok s, s, ops) := rfl

@[simp] theorem alone_modify (f : S → S) :
    (modify f : Prog S E O A T Unit).alone answers s ops = (.ok (), f s, ops) := rfl

@[simp] theorem alone_perform (op : O) :
    (perform op : Prog S E O A T (A op)).alone answers s ops =
      (answers ops op, s, ops ++ [op]) := by
  simp only [perform, alone]
  cases answers ops op <;> rfl

@[simp] theorem alone_ofExcept (r : Except E α) :
    (ofExcept r : Prog S E O A T α).alone answers s ops = (r, s, ops) := by
  cases r <;> rfl

@[simp] theorem alone_when {c : Bool} {p : Prog S E O A T Unit} :
    (p.when c).alone answers s ops = if c then p.alone answers s ops else (.ok (), s, ops) := by
  cases c <;> rfl

@[simp] theorem alone_bind (p : Prog S E O A T α) (f : α → Prog S E O A T β) :
    (p >>= f).alone answers s ops =
      match p.alone answers s ops with
      | (.ok a, s, ops) => (f a).alone answers s ops
      | (.error e, s, ops) => (.error e, s, ops) := by
  change (p.bind f).alone answers s ops = _
  induction p generalizing s ops with
  | done a => rfl
  | raise e => rfl
  | read k ih => exact ih s
  | write g k ih => exact ih
  | spawn t k ih => exact ih
  | block op k ih => exact ih _

/-- Operations that were performed stay performed. -/
theorem prefix_alone (p : Prog S E O A T α) : ops <+: (p.alone answers s ops).2.2 := by
  induction p generalizing s ops with
  | done a => exact List.prefix_refl ops
  | raise e => exact List.prefix_refl ops
  | read k ih => exact ih s
  | write f k ih => exact ih
  | spawn t k ih => exact ih
  | block op k ih => exact (List.prefix_append ops [op]).trans (ih _)

/-- What a program keeps in any company, it keeps on its own, and it performs no other
operations on its own. -/
theorem alone_keeps (answers : List O → (op : O) → Except E (A op)) (ops : List O) {me : T}
    {I : S → Prop} {allowed : O → Prop} {p : Prog S E O A T α}
    (hp : Keeps ⟨me, Pointwise I fun _ => Among allowed, fun _ _ _ _ => True⟩
      (Pointwise I fun _ => Among allowed) p) (hs : I s) :
    I (p.alone answers s ops).2.1 ∧
      ∀ op ∈ (p.alone answers s ops).2.2, op ∈ ops ∨ allowed op := by
  have hwp := hp s 0 [] ⟨hs, by simp⟩
  clear hp hs
  revert hwp
  generalize (0 : Multiset (Label O T)) = P, ([] : List (Logged S E O A)) = h
  intro hwp
  induction p generalizing s ops P h with
  | done a => exact ⟨hwp.base, fun _ hop => .inl hop⟩
  | raise e => exact ⟨hwp.base, fun _ hop => .inl hop⟩
  | read k ih => exact ih s ops P h hwp
  | write f k ih => exact ih ops P h hwp
  | spawn t k ih => exact ih ops _ h hwp
  | block op k ih =>
      obtain ⟨hinv, hresume⟩ := hwp
      obtain ⟨hI, hops⟩ := ih (answers ops op) _ P _ (hresume s P (answers ops op) hinv trivial)
      refine ⟨hI, fun op' hop' => ?_⟩
      rcases hops op' hop' with hmem | hallowed
      · rcases List.mem_append.mp hmem with hmem | hmem
        · exact .inl hmem
        · cases List.mem_singleton.mp hmem
          exact .inr hinv.head
      · exact .inr hallowed

/-! ## Runs of one thread -/

variable {R : Type}

/-- The state that the program leaves, when the outside world gives some answers and no
other thread runs in between. -/
def solo (decode : S → (op : O) → R → Option (Except E (A op))) :
    Prog S E O A T α → S → List R → Option S
  | done _, s, answers => if answers.isEmpty then some s else none
  | raise _, s, answers => if answers.isEmpty then some s else none
  | read k, s, answers => (k s).solo decode s answers
  | write f k, s, answers => k.solo decode (f s) answers
  | spawn _ k, s, answers => k.solo decode s answers
  | block _ _, s, [] => some s
  | block op k, s, answer :: answers =>
      (decode s op answer).bind fun r => (k r).solo decode s answers

end Prog

/-- The same from the end of a stretch on. -/
def Outcome.solo {S E O T α R : Type} {A : O → Type}
    (decode : S → (op : O) → R → Option (Except E (A op))) :
    Outcome S E O A T α → S → List R → Option S
  | .finished _, s, answers => if answers.isEmpty then some s else none
  | .blocked _ _, s, [] => some s
  | .blocked op k, s, answer :: answers =>
      (decode s op answer).bind fun r => (k r).solo decode s answers

/-- Up to its first operation the program runs by itself. -/
theorem Prog.solo_run {S E O T α R : Type} {A : O → Type}
    {decode : S → (op : O) → R → Option (Except E (A op))} (p : Prog S E O A T α) (s : S)
    (answers : List R) :
    p.solo decode s answers = (p.run s).2.2.solo decode (p.run s).1 answers := by
  induction p generalizing s with
  | done a => rfl
  | raise e => rfl
  | read k ih => exact ih s s
  | write f k ih => exact ih (f s)
  | spawn t k ih => exact ih s
  | block op k ih => cases answers <;> rfl

namespace System

variable {S E O T R : Type} {A : O → Type} {sys : System S E O A T R} {c : Cond S E O A T}

/-- A stretch of a thread that has its greenlet for itself, and what follows it. -/
theorem reach_solo_resume {t : T} {answers : List R} {w : World S E O A T} {g : Nat}
    {history : List (Logged S E O A)} {p : Prog S E O A T Bool} {s' : S}
    (hc : ∀ s P op r, c.resume s P t op r) (hg : g < w.pool.length)
    (h : sys.Reach c (w.resume g t t [] history p))
    (hsolo : p.solo (sys.decode · t) w.shared answers = some s') :
    ∃ w', sys.Reach c w' ∧ w'.shared = s' := by
  induction answers generalizing w history p with
  | nil =>
      rw [Prog.solo_run] at hsolo
      refine ⟨_, h, ?_⟩
      unfold World.resume
      generalize p.run w.shared = stretch at hsolo ⊢
      rcases stretch with ⟨next, ts, (e | _ | _) | ⟨op, k⟩⟩ <;> exact Option.some.inj hsolo
  | cons answer answers ih =>
      rw [Prog.solo_run] at hsolo
      unfold World.resume at h
      generalize p.run w.shared = stretch at hsolo h
      rcases stretch with ⟨next, ts, r | ⟨op, k⟩⟩
      · cases hsolo
      · obtain ⟨r, hdecode, hrest⟩ := Option.bind_eq_some_iff.mp hsolo
        -- the greenlet keeps its place, and the ones it has forked come behind
        have hget : (w.pool.set g ⟨t, [.waiting t history next op k]⟩ ++
            ts.map World.newGreenlet)[g]? = some ⟨t, [.waiting t history next op k]⟩ := by
          rw [List.getElem?_append_left (by simpa using hg)]
          simp [hg]
        have hlength : g < (w.pool.set g ⟨t, [.waiting t history next op k]⟩ ++
            ts.map World.newGreenlet).length := by
          rw [List.length_append, List.length_set]
          omega
        have hstep : sys.Reach c (World.resume ⟨next, w.pool.set g ⟨t, [.waiting t history next op k]⟩ ++
            ts.map World.newGreenlet, w.ended⟩ g t t [] (history ++ [⟨next, op, r⟩]) (k r)) := by
          have hallows : sys.Allows c ⟨next, w.pool.set g ⟨t, [.waiting t history next op k]⟩ ++
              ts.map World.newGreenlet, w.ended⟩ (.answer g answer) := by
            intro root t' history' s' op' k' rest result P hg' _ _
            rw [hget] at hg'
            cases hg'
            exact hc _ _ _ _
          exact Reach.step h hallows (by simp only [step, hget, hdecode])
        exact ih hlength hstep hrest

/-- A thread that arrives, starts, and is answered. -/
theorem reach_solo {t : T} {answers : List R} {w : World S E O A T} {s' : S}
    (hc : (∀ s P, c.fork s P t) ∧ (∀ s P, c.start s P t) ∧ ∀ s P op r, c.resume s P t op r)
    (hfork : sys.forkable t = true) (h : sys.Reach c w)
    (hsolo : (sys.body t).solo (sys.decode · t) w.shared answers = some s') :
    ∃ w', sys.Reach c w' ∧ w'.shared = s' := by
  have hget : (w.pool ++ [World.newGreenlet t])[w.pool.length]? =
      some (⟨t, [.ready t]⟩ : Greenlet S E O A T) := by
    simp [World.newGreenlet]
  have hfork' : sys.step w (.fork t) = some { w with pool := w.pool ++ [World.newGreenlet t] } := by
    simp only [step, hfork, if_true]
  have hallows' : sys.Allows c w (.fork t) := hc.1 _ _
  have harrived : sys.Reach c { w with pool := w.pool ++ [World.newGreenlet t] } :=
    Reach.step h hallows' hfork'
  have hallows : sys.Allows c { w with pool := w.pool ++ [World.newGreenlet t] }
      (.start w.pool.length) := by
    intro root t' rest P hg' _
    rw [hget] at hg'
    cases hg'
    exact hc.2.1 _ _
  have hstarted : sys.Reach c (World.resume { w with pool := w.pool ++ [World.newGreenlet t] }
      w.pool.length t t [] [] (sys.body t)) :=
    Reach.step harrived hallows (by simp only [step, hget])
  exact reach_solo_resume hc.2.2 (by simp) hstarted hsolo

end System

end Coop
