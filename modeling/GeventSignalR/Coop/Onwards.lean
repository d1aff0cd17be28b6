import GeventSignalR.Coop.Logic

/-!
# What holds from a world on

A property that holds in some world of a run, and that the threads keep from there on, whatever
they have done before.

* `Onwards` are the runs that start in a world.
* `marked` and `Marked` make a condition and a property due once a mark stands among the
  positions.  No thread ever stands at the mark, so that nothing is due in a run.
* `holds_onwards` puts the mark down in some world: what is proved of a marked system holds from
  there on.
-/

namespace Coop

section Onwards

variable {S E O T R : Type} {A : O → Type}

/-- The worlds of the runs that start in a world, and whose steps all meet a condition. -/
inductive System.Onwards (sys : System S E O A T R) (c : Cond S E O A T) (w : World S E O A T) :
    World S E O A T → Prop where
  | refl : Onwards sys c w w
  | step {w' w'' : World S E O A T} {choice : Choice T R} (h : Onwards sys c w w')
      (hallows : sys.Allows c w' choice) (hstep : sys.step w' choice = some w'') :
      Onwards sys c w w''

/-- A condition that is due under the mark. -/
def Cond.marked (mark : Label O T) (c : Cond S E O A T) : Cond S E O A T where
  fork := fun s P t => mark ∈ P → c.fork s P t
  start := fun s P t => mark ∈ P → c.start s P t
  resume := fun s P t op r => mark ∈ P → c.resume s P t op r

/-- A property that is due under the mark. -/
def Marked (mark : Label O T) (K : S → Multiset (Label O T) → Prop) (s : S)
    (P : Multiset (Label O T)) : Prop :=
  mark ∈ P → K s P

/-- The mark is not due. -/
def Unmarked (mark : Label O T) (_ : S) (P : Multiset (Label O T)) : Prop :=
  mark ∉ P

/-- A condition on steps beside which the mark stands. -/
def Cond.beside (mark : Label O T) (c : Cond S E O A T) : Cond S E O A T where
  fork := fun s P t => c.fork s (mark ::ₘ P) t
  start := fun s P t => c.start s (mark ::ₘ P) t
  resume := fun s P t op r => c.resume s (mark ::ₘ P) t op r

variable {sys : System S E O A T R} {c : Cond S E O A T} {mark : Label O T}
  {K : S → Multiset (Label O T) → Prop}
  {goal : T → List (Logged S E O A) → S → Except E Bool → Prop}
  {Φ : S → Frame S E O A T → Prop} {w w' : World S E O A T}

/-! ## Putting the mark down -/

theorem marked_of_unmarked {s : S} {P : Multiset (Label O T)} (h : Unmarked mark s P) :
    Marked mark K s P :=
  fun hmem => absurd hmem h

/-- Nothing is due in a run, where no thread stands at the mark. -/
theorem System.Reach.marked (hmark : ∀ w, sys.Reach .any w → mark ∉ w.labels)
    (h : sys.Reach .any w) : sys.Reach (c.marked mark) w := by
  induction h with
  | start => exact .start
  | @step w w' choice hreach _ hstep ih =>
      have hnone := hmark w hreach
      refine .step ih ?_ hstep
      cases choice with
      | fork t => exact fun hmem => absurd hmem hnone
      | call g t => exact fun hmem => absurd hmem hnone
      | start g =>
          intro root t rest P hg hP hmem
          rw [hP] at hnone
          exact absurd (Multiset.mem_cons_of_mem hmem) hnone
      | answer g r =>
          intro root t history s₀ op k rest result P hg hdecode hP hmem
          rw [hP] at hnone
          exact absurd (Multiset.mem_cons_of_mem hmem) hnone

/-- A stretch beside a mark is a stretch in a world without it. -/
theorem Settles.of_beside {inv : S → Multiset (Label O T) → Prop} {s : S} {t : T}
    {P : Multiset (Label O T)} {h : List (Logged S E O A)}
    {result : S × List T × Outcome S E O A T Bool}
    (hsettles : Settles inv goal Φ s t (mark ::ₘ P) h result) :
    Settles (fun s P => inv s (mark ::ₘ P)) goal Φ s t P h result := by
  obtain ⟨s', ts, r | ⟨op, k⟩⟩ := result
  · obtain ⟨hkept, hgoal, hinv⟩ := hsettles
    refine ⟨hkept, hgoal, ?_⟩
    rcases r with e | _ | _ <;> simpa only [Multiset.add_cons, Multiset.cons_swap mark] using hinv
  · obtain ⟨hkept, hinv, hwaiting⟩ := hsettles
    refine ⟨hkept, ?_, hwaiting⟩
    simpa only [Multiset.add_cons, Multiset.cons_swap mark] using hinv

/-- What is proved of a marked system holds from each world on in which it holds. -/
theorem Proof.holds_onwards (proof : Proof sys (c.marked mark) (Marked mark K) goal)
    (hmark : ∀ w, sys.Reach .any w → mark ∉ w.labels) (hc : c.Implies (c.beside mark))
    (hK : ∀ s P, K s (mark ::ₘ P) ↔ K s P) (h : sys.Reach .any w) (hw : K w.shared w.labels)
    (hon : sys.Onwards c w w') : K w'.shared w'.labels := by
  have hsound := proof.sound (h.marked hmark)
  -- from here on the mark stands among the positions
  have hupholds : w'.Upholds (fun s P => Marked mark K s (mark ::ₘ P)) goal
      fun _ => Proof.FrameOk sys (c.marked mark) (Marked mark K) goal := by
    induction hon with
    | refl => exact ⟨fun _ => (hK _ _).mpr hw, hsound.frames, hsound.ended⟩
    | step _ hallows hstep ih =>
        refine ih.step hallows hstep ?_ (fun _ _ => trivial) ?_ ?_
        · intro s P t hinv harrives hfork
          rw [Multiset.cons_swap]
          exact proof.fork s _ t hinv harrives fun _ => hc.fork s P t hfork
        · intro s P t hinv hstart
          rw [Multiset.cons_swap] at hinv
          exact (Proof.settles (proof.body s _ t hinv fun _ => hc.start s P t hstart)).of_beside
        · intro s P t history s₀ op k r hframe hinv hresume
          rw [Multiset.cons_swap] at hinv
          exact (Proof.settles (hframe s _ r hinv
            ⟨fun _ => hc.resume s P t op r hresume.1, hresume.2⟩)).of_beside
  exact (hK _ _).mp (hupholds.holds (Multiset.mem_cons_self _ _))

/-! ## Programs under the mark -/

namespace Prog

variable {α : Type} {Rel : Rely S E O A T}

/-- Where the mark is not due, nothing has to be kept. -/
theorem unmarked_modify {f : S → S} : Keeps Rel (Unmarked mark) (modify f : Prog S E O A T Unit) :=
  Keeps.modify fun _ _ h => h

theorem unmarked_fork {t : T} (hmark : mark ≠ .ready t) :
    Keeps Rel (Unmarked mark) (fork t : Prog S E O A T Unit) :=
  Keeps.fork fun _ _ h hmem => (Multiset.mem_cons.mp hmem).elim hmark h

theorem marked_modify {f : S → S} (hf : ∀ s P, K s P → K (f s) P) :
    Keeps Rel (Marked mark K) (modify f : Prog S E O A T Unit) :=
  Keeps.modify fun s P h hmem => hf s P (h hmem)

end Prog

end Onwards

end Coop
