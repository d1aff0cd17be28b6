import GeventSignalR.Coop.Logic

/-!
# What a blocked thread remembers

A number that no thread makes smaller is, when an operation returns, at least what it was when the
thread blocked.

* `Prog.wpFrom` is the weakest precondition of a program that may use this.
* `Growing` says that no thread makes the number smaller.  A proof about a system speaks about any
  positions of the other threads, also about positions that no thread takes: one that weighs as
  much as the number keeps it in mind.
* `ProofFrom.sound` is the induction over runs.
-/

namespace Coop

namespace Prog

variable {S E O T α β : Type} {A : O → Type} {m : S → Nat} {R : Rely S E O A T}

/-- As `wp`, where the number has not become smaller when an operation returns. -/
def wpFrom (m : S → Nat) (R : Rely S E O A T) : Prog S E O A T α → Post S E O A T α →
    S → Multiset (Label O T) → List (Logged S E O A) → Prop
  | done a, Q, s, P, h => Q (.ok a) s P h
  | raise e, Q, s, P, h => Q (.error e) s P h
  | read k, Q, s, P, h => (k s).wpFrom m R Q s P h
  | write f k, Q, s, P, h => k.wpFrom m R Q (f s) P h
  | spawn t k, Q, s, P, h => k.wpFrom m R Q s (.ready t ::ₘ P) h
  | block op k, Q, s, P, h =>
      R.inv s (.blocked R.me op ::ₘ P) ∧
        ∀ s' P' r, m s ≤ m s' → R.inv s' (.blocked R.me op ::ₘ P') → R.resume s' P' op r →
          (k r).wpFrom m R Q s' P' (h ++ [⟨s, op, r⟩])

variable {Q : Post S E O A T α} {s : S} {P : Multiset (Label O T)} {h : List (Logged S E O A)}

/-- Nothing has to be remembered. -/
theorem wpFrom_of_wp {p : Prog S E O A T α} (hp : p.wp R Q s P h) : p.wpFrom m R Q s P h := by
  induction p generalizing s P h with
  | done a => exact hp
  | raise e => exact hp
  | read k ih => exact ih s hp
  | write f k ih => exact ih hp
  | spawn t k ih => exact ih hp
  | block op k ih => exact ⟨hp.1, fun s' P' r _ hinv hres => ih r (hp.2 s' P' r hinv hres)⟩

/-- Nothing can be remembered. -/
theorem wp_of_wpFrom {p : Prog S E O A T α} (hm : ∀ s s', m s ≤ m s')
    (hp : p.wpFrom m R Q s P h) : p.wp R Q s P h := by
  induction p generalizing s P h with
  | done a => exact hp
  | raise e => exact hp
  | read k ih => exact ih s hp
  | write f k ih => exact ih hp
  | spawn t k ih => exact ih hp
  | block op k ih =>
      exact ⟨hp.1, fun s' P' r hinv hres => ih r (hp.2 s' P' r (hm s s') hinv hres)⟩

theorem wpFrom_mono {p : Prog S E O A T α} {Q' : Post S E O A T α}
    (hQ : ∀ r s P h, Q r s P h → Q' r s P h) (hp : p.wpFrom m R Q s P h) :
    p.wpFrom m R Q' s P h := by
  induction p generalizing s P h with
  | done a => exact hQ _ _ _ _ hp
  | raise e => exact hQ _ _ _ _ hp
  | read k ih => exact ih s hp
  | write f k ih => exact ih hp
  | spawn t k ih => exact ih hp
  | block op k ih =>
      exact ⟨hp.1, fun s' P' r hm hinv hres => ih r (hp.2 s' P' r hm hinv hres)⟩

theorem wpFrom_bind {p : Prog S E O A T α} {f : α → Prog S E O A T β} {Q : Post S E O A T β}
    (hp : p.wpFrom m R (fun r s P h =>
      match r with
      | .ok a => (f a).wpFrom m R Q s P h
      | .error e => Q (.error e) s P h) s P h) : (p >>= f).wpFrom m R Q s P h := by
  change (p.bind f).wpFrom m R Q s P h
  induction p generalizing s P h with
  | done a => exact hp
  | raise e => exact hp
  | read k ih => exact ih s hp
  | write g k ih => exact ih hp
  | spawn t k ih => exact ih hp
  | block op k ih =>
      exact ⟨hp.1, fun s' P' r hm hinv hres => ih r (hp.2 s' P' r hm hinv hres)⟩

theorem wpFrom_tryCatch {p : Prog S E O A T α} {handler : E → Prog S E O A T α}
    (hp : p.wpFrom m R (fun r s P h =>
      match r with
      | .ok a => Q (.ok a) s P h
      | .error e => (handler e).wpFrom m R Q s P h) s P h) :
    (p.tryCatch handler).wpFrom m R Q s P h := by
  induction p generalizing s P h with
  | done a => exact hp
  | raise e => exact hp
  | read k ih => exact ih s hp
  | write g k ih => exact ih hp
  | spawn t k ih => exact ih hp
  | block op k ih =>
      exact ⟨hp.1, fun s' P' r hm hinv hres => ih r (hp.2 s' P' r hm hinv hres)⟩

theorem wpFrom_attempt {p : Prog S E O A T α} {Q : Post S E O A T (Except E α)}
    (hp : p.wpFrom m R (fun r s P h => Q (.ok r) s P h) s P h) : p.attempt.wpFrom m R Q s P h := by
  refine wpFrom_tryCatch (wpFrom_bind (wpFrom_mono ?_ hp))
  rintro (e | a) s P h hQ <;> exact hQ

theorem wpFrom_ofExcept {r : Except E α} (hr : Q r s P h) : (ofExcept r).wpFrom m R Q s P h := by
  cases r <;> exact hr

theorem wpFrom_perform {op : O} {Q : Post S E O A T (A op)}
    (hblock : R.inv s (.blocked R.me op ::ₘ P))
    (hreturn : ∀ s' P' r, m s ≤ m s' → R.inv s' (.blocked R.me op ::ₘ P') →
      R.resume s' P' op r → Q r s' P' (h ++ [⟨s, op, r⟩])) : (perform op).wpFrom m R Q s P h := by
  refine ⟨hblock, fun s' P' r hm hinv hres => ?_⟩
  have hQ := hreturn s' P' r hm hinv hres
  cases r <;> exact hQ

theorem wpFrom_entering {p : Prog S E O A T α} {R' : Rely S E O A T} {f : S → S}
    (hm : ∀ s, m (f s) = m s) (hme : R'.me = R.me) (hinv : ∀ s P, R.inv s P → R'.inv s P)
    (hresume : ∀ s P op r, R'.inv s (.blocked R.me op ::ₘ P) → R'.resume s P op r →
      R.inv (f s) (.blocked R.me op ::ₘ P) ∧ R.resume (f s) P op r)
    (hp : p.wpFrom m R Q s P h) : (p.entering f).wpFrom m R' Q s P h := by
  induction p generalizing s P h with
  | done a => exact hp
  | raise e => exact hp
  | read k ih => exact ih s hp
  | write g k ih => exact ih hp
  | spawn t k ih => exact ih hp
  | block op k ih =>
      constructor
      · rw [hme]
        exact hinv _ _ hp.1
      · intro s' P' r hgrown hinv' hresume'
        rw [hme] at hinv'
        obtain ⟨hentered, hres⟩ := hresume s' P' op r hinv' hresume'
        have hgrown' : m s ≤ m (f s') := by rwa [hm]
        exact ih r (hp.2 (f s') P' r hgrown' hentered hres)

/-- A stretch of the program, as `wpFrom` describes it. -/
def StretchFrom (m : S → Nat) (R : Rely S E O A T) (Q : Post S E O A T α)
    (P : Multiset (Label O T)) (h : List (Logged S E O A))
    (result : S × List T × Outcome S E O A T α) : Prop :=
  match result with
  | (s, ts, .finished r) => Q r s (Label.readies ts + P) h
  | (s, ts, .blocked op k) =>
      R.inv s (.blocked R.me op ::ₘ (Label.readies ts + P)) ∧
        ∀ s' P' r, m s ≤ m s' → R.inv s' (.blocked R.me op ::ₘ P') → R.resume s' P' op r →
          (k r).wpFrom m R Q s' P' (h ++ [⟨s, op, r⟩])

theorem stretchFrom_run (p : Prog S E O A T α) (hp : p.wpFrom m R Q s P h) :
    StretchFrom m R Q P h (p.run s) := by
  induction p generalizing s P h with
  | done a =>
      simp only [StretchFrom, run, Label.readies_nil, zero_add]
      exact hp
  | raise e =>
      simp only [StretchFrom, run, Label.readies_nil, zero_add]
      exact hp
  | read k ih => exact ih s hp
  | write f k ih => exact ih hp
  | spawn t k ih =>
      have hk := ih hp
      revert hk
      simp only [run]
      rcases k.run s with ⟨s', ts, outcome⟩
      have hperm : Label.readies ts + (.ready t ::ₘ P) = Label.readies (t :: ts) + P := by
        rw [Label.readies_cons, Multiset.cons_add, Multiset.add_cons]
      cases outcome with
      | finished r =>
          simp only [StretchFrom, hperm]
          exact id
      | blocked op k =>
          simp only [StretchFrom, hperm]
          exact id
  | block op k ih =>
      simp only [StretchFrom, run, Label.readies_nil, zero_add]
      exact hp

end Prog

/-! ## A number that only grows -/

section Growing

variable {S E O T R : Type} {A : O → Type} {sys : System S E O A T R} {m : S → Nat}
  {weight : Label O T → Nat} {s s' : S} {P P' : Multiset (Label O T)}

/-- No position weighs more than the number. -/
def Weighed (m : S → Nat) (weight : Label O T → Nat) (s : S) (P : Multiset (Label O T)) : Prop :=
  ∀ l ∈ P, weight l ≤ m s

namespace Weighed

theorem cons {l : Label O T} (hP : Weighed m weight s P) (hl : weight l ≤ m s) :
    Weighed m weight s (l ::ₘ P) := by
  intro l' hl'
  rcases Multiset.mem_cons.mp hl' with rfl | hl'
  · exact hl
  · exact hP l' hl'

theorem head {l : Label O T} (hP : Weighed m weight s (l ::ₘ P)) : weight l ≤ m s :=
  hP l (Multiset.mem_cons_self l P)

theorem tail {l : Label O T} (hP : Weighed m weight s (l ::ₘ P)) : Weighed m weight s P :=
  fun l' hl' => hP l' (Multiset.mem_cons_of_mem hl')

theorem mono (hP : Weighed m weight s P) (hm : m s ≤ m s') : Weighed m weight s' P :=
  fun l hl => (hP l hl).trans hm

end Weighed

/-- Whatever the other positions weigh, no thread makes the number smaller than that. -/
structure Growing (sys : System S E O A T R) (m : S → Nat) (weight : Label O T → Nat) : Prop
    extends Proof sys .any (Weighed m weight) fun _ _ _ _ => True where
  ready : ∀ t, weight (.ready t) = 0
  every : ∀ n, ∃ l, weight l = n

/-- A stretch that respects all other positions does not make the number smaller. -/
theorem Growing.le_run (hgrowing : Growing sys m weight) {p : Prog S E O A T Bool} {t : T}
    {h : List (Logged S E O A)}
    (hp : ∀ P, Weighed m weight s P → p.wp (sys.rely .any (Weighed m weight) t)
      (Ends (Weighed m weight) (fun _ _ _ _ => True) t) s P h) : m s ≤ m (p.run s).1 := by
  obtain ⟨l, hl⟩ := hgrowing.every (m s)
  have hweighed : Weighed m weight s {l} := by
    intro l' hl'
    rw [Multiset.mem_singleton.mp hl', hl]
  have hstretch := Prog.stretch_run p (hp {l} hweighed)
  revert hstretch
  rcases p.run s with ⟨s', ts, outcome⟩
  -- the position is among those at the end
  have hthere : l ∈ Label.readies ts + {l} := by simp
  have hend : ∀ P', l ∈ P' → Weighed m weight s' P' → m s ≤ m s' := by
    intro P' hmem hP'
    rw [← hl]
    exact hP' l hmem
  rcases outcome with (e | _ | _) | ⟨op, k⟩
  · exact fun hends => hend _ hthere hends.2
  · exact fun hends => hend _ hthere hends.2
  · exact fun hends => hend _ (Multiset.mem_cons_of_mem hthere) hends.2
  · exact fun hwaits => hend _ (Multiset.mem_cons_of_mem hthere) hwaits.1

end Growing

/-! ## Runs -/

/-- What is proved of a system whose threads remember the number: as in `Proof`. -/
structure ProofFrom {S E O T R : Type} {A : O → Type} (sys : System S E O A T R) (m : S → Nat)
    (c : Cond S E O A T) (inv : S → Multiset (Label O T) → Prop)
    (goal : T → List (Logged S E O A) → S → Except E Bool → Prop) : Prop where
  init : inv sys.init 0
  fork : ∀ s P t, inv s P → sys.Arrives t → c.fork s P t → inv s (.ready t ::ₘ P)
  body : ∀ s P t, inv s (.ready t ::ₘ P) → c.start s P t →
    (sys.body t).wpFrom m (sys.rely c inv t) (Ends inv goal t) s P []

namespace ProofFrom

variable {S E O T R : Type} {A : O → Type} {sys : System S E O A T R} {m : S → Nat}
  {c : Cond S E O A T} {inv : S → Multiset (Label O T) → Prop}
  {goal : T → List (Logged S E O A) → S → Except E Bool → Prop} {weight : Label O T → Nat}

/-- A blocked thread will end as it should, once the number is as it is now or larger. -/
def FrameFrom (sys : System S E O A T R) (m : S → Nat) (c : Cond S E O A T)
    (inv : S → Multiset (Label O T) → Prop)
    (goal : T → List (Logged S E O A) → S → Except E Bool → Prop) (s : S) :
    Frame S E O A T → Prop
  | .ready _ => True
  | .waiting t history s₀ op k =>
      ∀ s' P r, m s ≤ m s' → inv s' (.blocked t op ::ₘ P) →
        c.resume s' P t op r ∧ sys.Possible s' op r →
          (k r).wpFrom m (sys.rely c inv t) (Ends inv goal t) s' P (history ++ [⟨s₀, op, r⟩])

/-- Besides, it weighs no more than the number, which it will not make smaller. -/
structure FrameGrows (sys : System S E O A T R) (m : S → Nat) (weight : Label O T → Nat)
    (c : Cond S E O A T) (inv : S → Multiset (Label O T) → Prop)
    (goal : T → List (Logged S E O A) → S → Except E Bool → Prop) (s : S)
    (frame : Frame S E O A T) : Prop where
  ends : FrameFrom sys m c inv goal s frame
  weighs : weight frame.label ≤ m s
  grows : Proof.FrameOk sys .any (Weighed m weight) (fun _ _ _ _ => True) frame

theorem FrameFrom.mono {s s' : S} {frame : Frame S E O A T}
    (hframe : FrameFrom sys m c inv goal s frame) (hm : m s ≤ m s') :
    FrameFrom sys m c inv goal s' frame := by
  cases frame with
  | ready t => trivial
  | waiting t history s₀ op k => exact fun s'' P r hm' => hframe s'' P r (hm.trans hm')

theorem settles (hgrowing : Growing sys m weight) {p : Prog S E O A T Bool} {s : S} {t : T}
    {P : Multiset (Label O T)} {h : List (Logged S E O A)}
    (hgrows : ∀ P, Weighed m weight s P → p.wp (sys.rely .any (Weighed m weight) t)
      (Ends (Weighed m weight) (fun _ _ _ _ => True) t) s P h)
    (hp : p.wpFrom m (sys.rely c inv t) (Ends inv goal t) s P h) :
    Settles inv goal (FrameGrows sys m weight c inv goal) s t P h (p.run s) := by
  have hle : m s ≤ m (p.run s).1 := hgrowing.le_run hgrows
  refine ⟨fun frame hframe => ?_, ?_⟩
  · exact ⟨hframe.ends.mono hle, hframe.weighs.trans hle, hframe.grows⟩
  · have hnone : Weighed m weight s 0 := by simp [Weighed]
    have hgrowsRun := Prog.stretch_run p (hgrows 0 hnone)
    have hrun := Prog.stretchFrom_run p hp
    revert hgrowsRun hrun
    rcases p.run s with ⟨s', ts, r | ⟨op, k⟩⟩
    · exact fun _ hends => hends
    · intro hgrowsWaits hwaits
      exact ⟨hwaits.1, hwaits.2, hgrowsWaits.1.head, hgrowsWaits.2⟩

/-- The invariant holds in every world that is reached under the condition, and the goal of
every thread that has ended there. -/
theorem sound (proof : ProofFrom sys m c inv goal) (hgrowing : Growing sys m weight)
    {w : World S E O A T} (h : sys.Reach c w) :
    w.Upholds inv goal (FrameGrows sys m weight c inv goal) := by
  have hready : ∀ (s : S) (t : T), weight (.ready t : Label O T) ≤ m s := fun s t => by
    rw [hgrowing.ready]
    exact Nat.zero_le _
  refine h.upholds proof.init proof.fork (fun s t => ⟨trivial, hready s t, trivial⟩) ?_ ?_
  · intro s P t hinv hstart
    apply settles hgrowing
    · exact fun P hP => hgrowing.body s P t (hP.cons (hready s t)) trivial
    · exact proof.body s P t hinv hstart
  · intro s P t history s₀ op k r hframe hinv hresume
    apply settles hgrowing
    · exact fun P hP => hframe.grows s P r (hP.cons hframe.weighs) ⟨trivial, hresume.2⟩
    · exact hframe.ends s P r le_rfl hinv hresume

end ProofFrom

end Coop
