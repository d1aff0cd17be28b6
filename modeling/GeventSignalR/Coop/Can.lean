import GeventSignalR.Coop.Logic

/-!
# What programs can do

The counterpart of `wp` where the outside world helps: some answers lead the program to an end as
the postcondition says, while no other thread runs.

* `Prog.Can` is such a statement, with one rule for each construct.
* `System.can_resume` and `can_start` make choices of it, for a thread in its greenlet.
* `System.Leads` are worlds that some choices lead to, with the threads that arrive on the way.
-/

namespace Coop

/-- What helps a program: the answers that can be given, what is done when it goes on, and the
states in which its operations may be left pending. -/
structure Help (S E O : Type) (A : O → Type) (R : Type) : Type where
  decode : S → (op : O) → R → Option (Except E (A op))
  enter : S → S
  leave : S → Prop

namespace Prog

variable {S E O T R α β : Type} {A : O → Type}

/-- The program, started in a state when some threads were made ready, can end as the postcondition
says, or be left at one of its operations. -/
def Can (H : Help S E O A R) : Prog S E O A T α → (Except E α → S → List T → Prop) →
    S → List T → Prop
  | done a, Q, s, ts => Q (.ok a) s ts
  | raise e, Q, s, ts => Q (.error e) s ts
  | read k, Q, s, ts => (k s).Can H Q s ts
  | write f k, Q, s, ts => k.Can H Q (f s) ts
  | spawn t k, Q, s, ts => k.Can H Q s (ts ++ [t])
  | block op k, Q, s, ts =>
      H.leave s ∨ ∃ answer r, H.decode s op answer = some r ∧ (k r).Can H Q (H.enter s) ts

variable {H : Help S E O A R} {Q : Except E α → S → List T → Prop} {s : S} {ts : List T}

/-! ## Composition rules -/

@[simp] theorem can_pure (a : α) : (pure a : Prog S E O A T α).Can H Q s ts ↔ Q (.ok a) s ts :=
  Iff.rfl

@[simp] theorem can_raise (e : E) : (raise e).Can H Q s ts ↔ Q (.error e) s ts := Iff.rfl

@[simp] theorem can_get {Q : Except E S → S → List T → Prop} :
    (get : Prog S E O A T S).Can H Q s ts ↔ Q (.ok s) s ts := Iff.rfl

@[simp] theorem can_modify {Q : Except E Unit → S → List T → Prop} (f : S → S) :
    (modify f : Prog S E O A T Unit).Can H Q s ts ↔ Q (.ok ()) (f s) ts := Iff.rfl

@[simp] theorem can_fork {Q : Except E Unit → S → List T → Prop} (t : T) :
    (fork t : Prog S E O A T Unit).Can H Q s ts ↔ Q (.ok ()) s (ts ++ [t]) := Iff.rfl

@[simp] theorem can_ofExcept (r : Except E α) :
    (ofExcept r : Prog S E O A T α).Can H Q s ts ↔ Q r s ts := by
  cases r <;> exact Iff.rfl

theorem can_perform {op : O} {Q : Except E (A op) → S → List T → Prop} :
    (perform op : Prog S E O A T (A op)).Can H Q s ts ↔
      H.leave s ∨ ∃ answer r, H.decode s op answer = some r ∧ Q r (H.enter s) ts := by
  refine or_congr_right (exists_congr fun answer => exists_congr fun r =>
    and_congr_right fun _ => ?_)
  cases r <;> exact Iff.rfl

@[simp] theorem can_when {c : Bool} {p : Prog S E O A T Unit}
    {Q : Except E Unit → S → List T → Prop} :
    (p.when c).Can H Q s ts ↔ if c then p.Can H Q s ts else Q (.ok ()) s ts := by
  cases c <;> exact Iff.rfl

theorem Can.mono {p : Prog S E O A T α} {Q' : Except E α → S → List T → Prop}
    (hp : p.Can H Q s ts) (hQ : ∀ r s ts, Q r s ts → Q' r s ts) : p.Can H Q' s ts := by
  induction p generalizing s ts with
  | done a => exact hQ _ _ _ hp
  | raise e => exact hQ _ _ _ hp
  | read k ih => exact ih s hp
  | write f k ih => exact ih hp
  | spawn t k ih => exact ih hp
  | block op k ih =>
      rcases hp with hleave | ⟨answer, r, hdecode, hrest⟩
      · exact .inl hleave
      · exact .inr ⟨answer, r, hdecode, ih r hrest⟩

@[simp] theorem can_bind (p : Prog S E O A T α) (f : α → Prog S E O A T β)
    {Q : Except E β → S → List T → Prop} :
    (p >>= f).Can H Q s ts ↔
      p.Can H (fun r s ts =>
        match r with
        | .ok a => (f a).Can H Q s ts
        | .error e => Q (.error e) s ts) s ts := by
  change (p.bind f).Can H Q s ts ↔ _
  induction p generalizing s ts with
  | done a => exact Iff.rfl
  | raise e => exact Iff.rfl
  | read k ih => exact ih s
  | write g k ih => exact ih
  | spawn t k ih => exact ih
  | block op k ih =>
      exact or_congr_right (exists_congr fun answer => exists_congr fun r =>
        and_congr_right fun _ => ih r)

@[simp] theorem can_tryCatch (p : Prog S E O A T α) (handler : E → Prog S E O A T α) :
    (p.tryCatch handler).Can H Q s ts ↔
      p.Can H (fun r s ts =>
        match r with
        | .ok a => Q (.ok a) s ts
        | .error e => (handler e).Can H Q s ts) s ts := by
  induction p generalizing s ts with
  | done a => exact Iff.rfl
  | raise e => exact Iff.rfl
  | read k ih => exact ih s
  | write g k ih => exact ih
  | spawn t k ih => exact ih
  | block op k ih =>
      exact or_congr_right (exists_congr fun answer => exists_congr fun r =>
        and_congr_right fun _ => ih r)

@[simp] theorem can_attempt (p : Prog S E O A T α)
    {Q : Except E (Except E α) → S → List T → Prop} :
    p.attempt.Can H Q s ts ↔ p.Can H (fun r s ts => Q (.ok r) s ts) s ts := by
  change (tryCatch (p >>= fun a => done (.ok a)) _).Can H Q s ts ↔ _
  rw [can_tryCatch, can_bind]
  constructor <;>
  · intro h
    refine h.mono fun r s ts hr => ?_
    cases r <;> exact hr

@[simp] theorem can_finally (p : Prog S E O A T α) (q : Prog S E O A T Unit) :
    (p.finally_ q).Can H Q s ts ↔
      p.Can H (fun r s ts =>
        q.Can H (fun r' s ts =>
          match r' with
          | .ok _ => Q r s ts
          | .error e => Q (.error e) s ts) s ts) s ts := by
  change (p.attempt >>= fun r => q >>= fun _ => ofExcept r).Can H Q s ts ↔ _
  simp only [can_bind, can_attempt, can_ofExcept]
  constructor <;>
  · intro h
    refine h.mono fun r s ts hq => hq.mono fun r' s ts hr => ?_
    cases r' <;> exact hr

/-- What is done when the program goes on can be a part of the program. -/
theorem Can.entering {p : Prog S E O A T α} (hp : p.Can H Q s ts) :
    (p.entering H.enter).Can ⟨H.decode, id, H.leave⟩ Q s ts := by
  induction p generalizing s ts with
  | done a => exact hp
  | raise e => exact hp
  | read k ih => exact ih s hp
  | write f k ih => exact ih hp
  | spawn t k ih => exact ih hp
  | block op k ih =>
      rcases hp with hleave | ⟨answer, r, hdecode, hrest⟩
      · exact .inl hleave
      · exact .inr ⟨answer, r, hdecode, ih r hrest⟩

end Prog

/-! ## Choices -/

namespace World

variable {S E O T : Type} {A : O → Type}

/-- The frames of a thread behind its end: it may start again. -/
def restarted (t : T) : Except E Bool → List (Frame S E O A T)
  | .ok true => [.ready t]
  | _ => []

end World

/-- The threads that arrive. -/
def Choice.arrivals {T R : Type} : Choice T R → List T
  | fork t | call _ t => [t]
  | _ => []

namespace System

variable {S E O T R : Type} {A : O → Type} (sys : System S E O A T R)

/-- Some choices lead from one world to another one, and these threads arrive on the way. -/
def Leads (w : World S E O A T) (ts : List T) (w' : World S E O A T) : Prop :=
  ∃ choices, sys.after w choices = some w' ∧ choices.flatMap Choice.arrivals = ts

variable {sys} {w w' w'' : World S E O A T}

theorem Leads.refl : sys.Leads w [] w :=
  ⟨[], rfl, rfl⟩

theorem Leads.head (choice : Choice T R) (hstep : sys.step w choice = some w') {ts : List T}
    (h : sys.Leads w' ts w'') : sys.Leads w (choice.arrivals ++ ts) w'' := by
  obtain ⟨choices, hafter, rfl⟩ := h
  exact ⟨choice :: choices, by rw [after, hstep, Option.bind_some, hafter], rfl⟩

theorem Leads.trans {ts ts' : List T} (h : sys.Leads w ts w') (h' : sys.Leads w' ts' w'') :
    sys.Leads w (ts ++ ts') w'' := by
  obtain ⟨choices, hafter, rfl⟩ := h
  induction choices generalizing w with
  | nil =>
      cases hafter
      exact h'
  | cons choice choices ih =>
      rw [after, Option.bind_eq_some_iff] at hafter
      obtain ⟨next, hnext, hrest⟩ := hafter
      rw [List.flatMap_cons, List.append_assoc]
      exact .head choice hnext (ih hrest)

/-- A world in which a thread has been left at an operation, or has ended and made other threads
ready. -/
def Arrived (leave : S → Prop) (Q : Except E Bool → S → List T → Prop) (ts : List T)
    (w : World S E O A T) (g : Nat) (root t : T) (rest : List (Frame S E O A T))
    (w' : World S E O A T) : Prop :=
  leave w'.shared ∨ ∃ r ts', Q r w'.shared (ts ++ ts') ∧
    w'.pool = w.pool.set g ⟨root, World.restarted t r ++ rest⟩ ++ ts'.map World.newGreenlet

variable {g : Nat} {root t : T} {rest : List (Frame S E O A T)} {leave : S → Prop}
  {Q : Except E Bool → S → List T → Prop}

theorem resume_spawn {t' : T} {k : Prog S E O A T Bool} {history : List (Logged S E O A)}
    (hg : g < w.pool.length) :
    w.resume g root t rest history (.spawn t' k) =
      { w with pool := w.pool ++ [World.newGreenlet t'] }.resume g root t rest history k := by
  unfold World.resume
  simp only [Prog.run]
  generalize k.run w.shared = stretch
  rcases stretch with ⟨next, ts, (e | _ | _) | ⟨op, k⟩⟩ <;> simp [List.set_append_left, hg]

/-- What a program can do, it can do in its greenlet. -/
theorem can_resume {p : Prog S E O A T Bool} (history : List (Logged S E O A)) {ts : List T}
    (hg : g < w.pool.length)
    (hcan : p.Can ⟨fun s => sys.decode s root, id, leave⟩ Q w.shared ts) :
    ∃ w', sys.Leads (w.resume g root t rest history p) [] w' ∧
      Arrived leave Q ts w g root t rest w' := by
  induction p generalizing w history ts with
  | done b =>
      refine ⟨_, .refl, .inr ⟨.ok b, [], ?_, ?_⟩⟩
      · rw [List.append_nil]
        cases b <;> exact hcan
      · cases b <;> simp [World.resume, Prog.run, World.restarted]
  | raise e =>
      refine ⟨_, .refl, .inr ⟨.error e, [], ?_, ?_⟩⟩
      · rwa [List.append_nil]
      · simp [World.resume, Prog.run, World.restarted]
  | read k ih => exact ih w.shared history hg hcan
  | write f k ih => exact ih (w := { w with shared := f w.shared }) history hg hcan
  | spawn t' k ih =>
      have hg' : g <
          (w.pool ++ [World.newGreenlet (S := S) (E := E) (O := O) (A := A) t']).length := by
        rw [List.length_append]
        omega
      obtain ⟨w', hleads, harrived⟩ :=
        ih (w := { w with pool := w.pool ++ [World.newGreenlet t'] }) history hg' hcan
      refine ⟨w', by rwa [resume_spawn hg], harrived.imp_right ?_⟩
      rintro ⟨r, ts', hQ, hpool⟩
      refine ⟨r, t' :: ts', by simpa using hQ, ?_⟩
      rw [hpool, List.set_append_left _ _ hg, List.append_assoc]
      rfl
  | block op k ih =>
      -- the greenlet waits for the answer, if it is not left there
      rcases hcan with hleave | ⟨answer, r, hdecode, hrest⟩
      · exact ⟨_, .refl, .inl hleave⟩
      · have hget : (w.resume g root t rest history (.block op k)).pool[g]? =
            some ⟨root, .waiting t history w.shared op k :: rest⟩ := by
          simp [World.resume, Prog.run, hg]
        have hg' : g < (w.resume g root t rest history (.block op k)).pool.length := by
          simpa [World.resume, Prog.run] using hg
        obtain ⟨w', hleads, harrived⟩ :=
          ih r (w := w.resume g root t rest history (.block op k))
            (history ++ [⟨w.shared, op, r⟩]) hg' hrest
        refine ⟨w', .head (.answer g answer) ?_ hleads, harrived.imp_right ?_⟩
        · have hdecode' : sys.decode (w.resume g root t rest history (.block op k)).shared root op
              answer = some r := hdecode
          simp only [step, hget, hdecode']
        · rintro ⟨r', ts', hQ, hpool⟩
          refine ⟨r', ts', hQ, ?_⟩
          rw [hpool]
          simp [World.resume, Prog.run]

/-- What a thread can do that is ready. -/
theorem can_start (hg : w.pool[g]? = some ⟨root, .ready t :: rest⟩)
    (hcan : (sys.body t).Can ⟨fun s => sys.decode s root, id, leave⟩ Q w.shared []) :
    ∃ w', sys.Leads w [] w' ∧ Arrived leave Q [] w g root t rest w' := by
  have hlt : g < w.pool.length := (List.getElem?_eq_some_iff.mp hg).1
  obtain ⟨w', hleads, harrived⟩ := can_resume [] hlt hcan
  refine ⟨w', .head (.start g) ?_ hleads, harrived⟩
  simp only [step, hg]

/-- What a thread can do that the outside world starts. -/
theorem can_fork (hfork : sys.forkable t = true)
    (hcan : (sys.body t).Can ⟨fun s => sys.decode s t, id, leave⟩ Q w.shared []) :
    ∃ w', sys.Leads w [t] w' ∧ (leave w'.shared ∨ ∃ r ts, Q r w'.shared ts ∧
      ∀ t' ∈ ts, ∃ g : Nat, w'.pool[g]? = some (World.newGreenlet t')) := by
  have hget : (w.pool ++ [World.newGreenlet t])[w.pool.length]? =
      some (⟨t, [.ready t]⟩ : Greenlet S E O A T) := by
    simp [World.newGreenlet]
  obtain ⟨w', hleads, harrived⟩ :=
    can_start (w := { w with pool := w.pool ++ [World.newGreenlet t] }) hget hcan
  refine ⟨w', .head (.fork t) (by simp only [step, hfork, if_true]) hleads,
    harrived.imp_right ?_⟩
  rintro ⟨r, ts, hQ, hpool⟩
  refine ⟨r, ts, hQ, fun t' ht' => ?_⟩
  obtain ⟨g, hlt, hg⟩ := List.getElem_of_mem (List.mem_map_of_mem (f := World.newGreenlet) ht')
  refine ⟨(w.pool ++ [World.newGreenlet t]).length + g, ?_⟩
  rw [hpool, List.getElem?_append_right (by simp), List.length_set, Nat.add_sub_cancel_left,
    List.getElem?_eq_getElem hlt, hg]

end System

end Coop
