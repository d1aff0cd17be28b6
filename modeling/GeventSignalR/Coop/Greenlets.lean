import GeventSignalR.Coop.Logic
import Mathlib.Data.Fintype.EquivFin
import Mathlib.Logic.Relation
import Mathlib.Order.WellFounded

/-!
# Greenlets

The greenlets of a world, by their numbers in the pool.

* `mem_labels_iff`: the positions of a world are those of the frames of its greenlets.
* `System.frozen`: greenlets for which no choice can be made stay as they are, whatever the others
  do.
* `exists_unblocked`: where nobody waits for himself in the end, somebody waits for nobody.
-/

namespace Coop

variable {S E O T R : Type} {A : O → Type}

namespace World

/-- The positions of the greenlets are the positions of their frames. -/
theorem mem_labelsOf_iff {pool : List (Greenlet S E O A T)} {l : Label O T} :
    l ∈ labelsOf pool ↔ ∃ g : Nat, ∃ greenlet, pool[g]? = some greenlet ∧
      ∃ frame ∈ greenlet.frames, frame.label = l := by
  induction pool with
  | nil => simp [labelsOf]
  | cons first pool ih =>
      rw [labelsOf, Multiset.mem_add, ih]
      constructor
      · rintro (hfirst | ⟨g, greenlet, hg, hframe⟩)
        · obtain ⟨frame, hframe, hl⟩ := List.mem_map.mp (Multiset.mem_coe.mp hfirst)
          exact ⟨0, first, rfl, frame, hframe, hl⟩
        · exact ⟨g + 1, greenlet, hg, hframe⟩
      · rintro ⟨g, greenlet, hg, frame, hframe, hl⟩
        cases g with
        | zero =>
            cases hg
            exact .inl (Multiset.mem_coe.mpr (List.mem_map.mpr ⟨frame, hframe, hl⟩))
        | succ g => exact .inr ⟨g, greenlet, hg, frame, hframe, hl⟩

theorem mem_labels {w : World S E O A T} {g : Nat} {greenlet : Greenlet S E O A T}
    (hg : w.pool[g]? = some greenlet) {frame : Frame S E O A T} (hframe : frame ∈ greenlet.frames) :
    frame.label ∈ w.labels :=
  mem_labelsOf_iff.mpr ⟨g, greenlet, hg, frame, hframe, rfl⟩

end World

/-- The greenlet for which a choice is made, if it is one of the pool. -/
def Choice.greenlet : Choice T R → Option Nat
  | fork _ => none
  | call g _ => some g
  | start g => some g
  | answer g _ => some g

namespace System

variable {sys : System S E O A T R} {w w' : World S E O A T}

/-- A stretch in one greenlet leaves the others alone. -/
theorem resume_getElem? {g g' : Nat} {root t : T} {rest : List (Frame S E O A T)}
    {history : List (Logged S E O A)} {p : Prog S E O A T Bool} (hne : g ≠ g')
    {greenlet : Greenlet S E O A T} (hg' : w.pool[g']? = some greenlet) :
    (w.resume g root t rest history p).pool[g']? = some greenlet := by
  have hset : ∀ (new : Greenlet S E O A T) (ts : List T),
      (w.pool.set g new ++ ts.map World.newGreenlet)[g']? = some greenlet := by
    intro new ts
    have hlt : g' < (w.pool.set g new).length := by
      rw [List.length_set]
      exact (List.getElem?_eq_some_iff.mp hg').1
    rw [List.getElem?_append_left hlt, List.getElem?_set_ne hne, hg']
  unfold World.resume
  rcases p.run w.shared with ⟨s, ts, r | ⟨op, k⟩⟩
  · rcases r with e | _ | _ <;> exact hset _ ts
  · exact hset _ ts

/-- So does every step. -/
theorem step_getElem? {choice : Choice T R} (hstep : sys.step w choice = some w') {g : Nat}
    (hne : choice.greenlet ≠ some g) {greenlet : Greenlet S E O A T}
    (hg : w.pool[g]? = some greenlet) : w'.pool[g]? = some greenlet := by
  cases choice with
  | fork t =>
      simp only [step] at hstep
      split_ifs at hstep
      cases hstep
      exact (List.getElem?_append_left (List.getElem?_eq_some_iff.mp hg).1).trans hg
  | call g' t =>
      have hne : g' ≠ g := fun h => hne (congrArg some h)
      simp only [step] at hstep
      split at hstep
      · split_ifs at hstep
        cases hstep
        exact (List.getElem?_set_ne hne).trans hg
      · cases hstep
  | start g' =>
      have hne : g' ≠ g := fun h => hne (congrArg some h)
      simp only [step] at hstep
      split at hstep
      · cases hstep
        exact resume_getElem? hne hg
      · cases hstep
  | answer g' r =>
      have hne : g' ≠ g := fun h => hne (congrArg some h)
      simp only [step] at hstep
      split at hstep
      · split at hstep
        · cases hstep
          exact resume_getElem? hne hg
        · cases hstep
      · cases hstep

/-- No choice can be made for the greenlet. -/
def Stuck (sys : System S E O A T R) (w : World S E O A T) (g : Nat) : Prop :=
  ∀ choice : Choice T R, choice.greenlet = some g → sys.step w choice = none

/-- Greenlets that are stuck as long as they stand where they are stay there. -/
theorem frozen {G : Nat → Prop} {at_ : Nat → Greenlet S E O A T}
    (hstuck : ∀ w, sys.Reach .any w → (∀ g, G g → w.pool[g]? = some (at_ g)) →
      ∀ g, G g → sys.Stuck w g)
    (hreach : sys.Reach .any w) (hstand : ∀ g, G g → w.pool[g]? = some (at_ g))
    {choices : List (Choice T R)} (hafter : sys.after w choices = some w') :
    ∀ g, G g → w'.pool[g]? = some (at_ g) := by
  induction choices generalizing w with
  | nil =>
      cases hafter
      exact hstand
  | cons choice choices ih =>
      rw [after, Option.bind_eq_some_iff] at hafter
      obtain ⟨next, hnext, hrest⟩ := hafter
      have hreach' : sys.Reach .any next :=
        sys.reach_after [choice] hreach (by rw [after, hnext]; rfl)
      refine ih hreach' (fun g hg => step_getElem? hnext (fun hchoice => ?_) (hstand g hg)) hrest
      rw [hstuck w hreach hstand g hg choice hchoice] at hnext
      cases hnext

end System

/-- Among finitely many, one waits for nobody, unless somebody waits in a circle. -/
theorem exists_unblocked {α : Type} [Finite α] [Nonempty α] {waits : α → α → Prop}
    (hacyclic : ∀ a, ¬Relation.TransGen waits a a) : ∃ a, ∀ b, ¬waits a b := by
  let behind : α → α → Prop := fun a b => Relation.TransGen waits b a
  have hirrefl : Std.Irrefl behind := ⟨hacyclic⟩
  have htrans : IsTrans α behind := ⟨fun a b c hab hbc => hbc.trans hab⟩
  have hwf : WellFounded behind := Finite.wellFounded_of_trans_of_irrefl behind
  obtain ⟨a, -, hmin⟩ := hwf.has_min Set.univ Set.univ_nonempty
  exact ⟨a, fun b hab => hmin b trivial (.single hab)⟩

end Coop
