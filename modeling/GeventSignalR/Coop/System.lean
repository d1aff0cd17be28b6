import GeventSignalR.Coop.Prog

/-!
# Worlds of cooperating threads

Threads that share a state and run one at a time, each until it blocks.

* `System` gives the threads their programs and says which answers the outside
  world can give to a pending operation.
* `World` is a state of such a system, `step` one uninterrupted stretch of one of
  its threads, or the arrival of a new thread.
* `Reach` are the worlds of the runs whose steps all meet a condition.

A thread waits in a greenlet.  While the operation of a thread is pending, the
outside world may call further threads on top of it in the same greenlet: an
operation can be a call of foreign code that calls back.
-/

namespace Coop

/-- Where a thread stands: ready to start, or blocked on an operation. -/
inductive Label (O T : Type) : Type where
  | ready (t : T)
  | blocked (t : T) (op : O)

/-- The thread at a position. -/
def Label.thread {O T : Type} : Label O T → T
  | ready t => t
  | blocked t _ => t

/-- The positions of threads that were made ready. -/
def Label.readies {O T : Type} (ts : List T) : Multiset (Label O T) :=
  (ts.map Label.ready : List (Label O T))

@[simp] theorem Label.readies_nil {O T : Type} :
    Label.readies ([] : List T) = (0 : Multiset (Label O T)) := rfl

@[simp] theorem Label.readies_cons {O T : Type} (t : T) (ts : List T) :
    Label.readies (t :: ts) = (.ready t ::ₘ Label.readies ts : Multiset (Label O T)) := rfl

/-- An operation with what it returned. -/
structure Answered (E O : Type) (A : O → Type) : Type where
  op : O
  result : Except E (A op)

/-- An operation of a thread: the shared state in which the thread performed it, and what it
returned. -/
structure Logged (S E O : Type) (A : O → Type) : Type where
  state : S
  op : O
  result : Except E (A op)

/-- A thread and its position. -/
inductive Frame (S E O : Type) (A : O → Type) (T : Type) : Type where
  /-- A thread that has not started, or starts again. -/
  | ready (t : T)
  /-- A thread blocked on an operation that it performed in a state, with its operations so
  far. -/
  | waiting (t : T) (history : List (Logged S E O A)) (state : S) (op : O)
      (k : Except E (A op) → Prog S E O A T Bool)

namespace Frame

variable {S E O T : Type} {A : O → Type}

/-- The position of a frame. -/
def label : Frame S E O A T → Label O T
  | ready t => .ready t
  | waiting t _ _ op _ => .blocked t op

/-- The positions of some frames. -/
def labels (frames : List (Frame S E O A T)) : Multiset (Label O T) :=
  (frames.map label : List (Label O T))

@[simp] theorem labels_nil : labels ([] : List (Frame S E O A T)) = 0 := rfl

@[simp] theorem labels_cons (f : Frame S E O A T) (frames : List (Frame S E O A T)) :
    labels (f :: frames) = f.label ::ₘ labels frames := rfl

end Frame

/-- A stack of threads: the thread the greenlet was made for, and the frames, the
running one first. -/
structure Greenlet (S E O : Type) (A : O → Type) (T : Type) : Type where
  root : T
  frames : List (Frame S E O A T)

/-- A thread that has ended, with its operations, the shared state it left and its result. -/
structure Ended (S E O : Type) (A : O → Type) (T : Type) : Type where
  thread : T
  history : List (Logged S E O A)
  state : S
  result : Except E Bool

/-- A state of the system. -/
structure World (S E O : Type) (A : O → Type) (T : Type) : Type where
  shared : S
  pool : List (Greenlet S E O A T)
  ended : List (Ended S E O A T)

/-- The programs of the threads and the possible answers to their operations.  A
program that returns `true` starts again. -/
structure System (S E O : Type) (A : O → Type) (T R : Type) : Type where
  init : S
  body : T → Prog S E O A T Bool
  /-- The threads the outside world may start. -/
  forkable : T → Bool
  /-- The threads it may call while an operation is pending. -/
  callable : O → T → Bool
  /-- What an answer means for an operation that is pending in the greenlet of a
  thread; `none` when it cannot be given. -/
  decode : S → T → (op : O) → R → Option (Except E (A op))

/-- What the outside world and the scheduler choose. -/
inductive Choice (T R : Type) : Type where
  | fork (t : T)
  | call (g : Nat) (t : T)
  | start (g : Nat)
  | answer (g : Nat) (r : R)

namespace World

variable {S E O T : Type} {A : O → Type}

/-- The positions of the frames of some greenlets. -/
def labelsOf : List (Greenlet S E O A T) → Multiset (Label O T)
  | [] => 0
  | g :: pool => Frame.labels g.frames + labelsOf pool

/-- The positions of all frames. -/
def labels (w : World S E O A T) : Multiset (Label O T) :=
  labelsOf w.pool

/-- The greenlet of a thread that was made ready. -/
def newGreenlet (t : T) : Greenlet S E O A T :=
  ⟨t, [.ready t]⟩

/-- Run a program in a greenlet, in place of its running frame. -/
def resume (w : World S E O A T) (g : Nat) (root t : T) (rest : List (Frame S E O A T))
    (history : List (Logged S E O A)) (p : Prog S E O A T Bool) : World S E O A T :=
  let (shared, spawned, outcome) := p.run w.shared
  match outcome with
  | .blocked op k =>
      { shared
        pool := w.pool.set g ⟨root, .waiting t history shared op k :: rest⟩ ++ spawned.map newGreenlet
        ended := w.ended }
  | .finished (.ok true) =>
      { shared
        pool := w.pool.set g ⟨root, .ready t :: rest⟩ ++ spawned.map newGreenlet
        ended := w.ended ++ [⟨t, history, shared, .ok true⟩] }
  | .finished r =>
      { shared
        pool := w.pool.set g ⟨root, rest⟩ ++ spawned.map newGreenlet
        ended := w.ended ++ [⟨t, history, shared, r⟩] }

end World

namespace System

variable {S E O T R : Type} {A : O → Type} (sys : System S E O A T R)

/-- The outside world may start the thread, or call it. -/
def Arrives (t : T) : Prop :=
  sys.forkable t = true ∨ ∃ op, sys.callable op t = true

/-- The world before anything has happened. -/
def start : World S E O A T :=
  ⟨sys.init, [], []⟩

/-- The world after a choice, or `none` when the choice cannot be made. -/
def step (w : World S E O A T) : Choice T R → Option (World S E O A T)
  | .fork t =>
      if sys.forkable t then some { w with pool := w.pool ++ [World.newGreenlet t] } else none
  | .call g t =>
      match w.pool[g]? with
      | some ⟨root, .waiting t' history state op k :: rest⟩ =>
          if sys.callable op t then
            some { w with
              pool := w.pool.set g ⟨root, .ready t :: .waiting t' history state op k :: rest⟩ }
          else none
      | _ => none
  | .start g =>
      match w.pool[g]? with
      | some ⟨root, .ready t :: rest⟩ => some (w.resume g root t rest [] (sys.body t))
      | _ => none
  | .answer g r =>
      match w.pool[g]? with
      | some ⟨root, .waiting t history state op k :: rest⟩ =>
          match sys.decode w.shared root op r with
          | some result =>
              some (w.resume g root t rest (history ++ [⟨state, op, result⟩]) (k result))
          | none => none
      | _ => none

/-- The world after some choices. -/
def after (w : World S E O A T) : List (Choice T R) → Option (World S E O A T)
  | [] => some w
  | c :: cs => (sys.step w c).bind fun w => after w cs

end System

/-- A condition on steps: on the state and the positions of the other threads
before the step, and on what the step does. -/
structure Cond (S E O : Type) (A : O → Type) (T : Type) : Type where
  /-- A thread arrives from outside. -/
  fork : S → Multiset (Label O T) → T → Prop
  /-- A ready thread starts. -/
  start : S → Multiset (Label O T) → T → Prop
  /-- A pending operation of a thread returns. -/
  resume : S → Multiset (Label O T) → T → (op : O) → Except E (A op) → Prop

namespace Cond

variable {S E O T : Type} {A : O → Type}

/-- Every step. -/
def any : Cond S E O A T where
  fork := fun _ _ _ => True
  start := fun _ _ _ => True
  resume := fun _ _ _ _ _ => True

/-- Steps that meet both conditions. -/
def and (c d : Cond S E O A T) : Cond S E O A T where
  fork := fun s P t => c.fork s P t ∧ d.fork s P t
  start := fun s P t => c.start s P t ∧ d.start s P t
  resume := fun s P t op r => c.resume s P t op r ∧ d.resume s P t op r

/-- Every step that meets the first condition meets the second. -/
structure Implies (c d : Cond S E O A T) : Prop where
  fork : ∀ s P t, c.fork s P t → d.fork s P t
  start : ∀ s P t, c.start s P t → d.start s P t
  resume : ∀ s P t op r, c.resume s P t op r → d.resume s P t op r

theorem implies_any (c : Cond S E O A T) : c.Implies any :=
  ⟨fun _ _ _ _ => trivial, fun _ _ _ _ => trivial, fun _ _ _ _ _ _ => trivial⟩

theorem and_implies_left (c d : Cond S E O A T) : (c.and d).Implies c :=
  ⟨fun _ _ _ h => h.1, fun _ _ _ h => h.1, fun _ _ _ _ _ h => h.1⟩

theorem and_implies_right (c d : Cond S E O A T) : (c.and d).Implies d :=
  ⟨fun _ _ _ h => h.2, fun _ _ _ h => h.2, fun _ _ _ _ _ h => h.2⟩

/-- Steps out of the states that satisfy a property. -/
def within (J : S → Multiset (Label O T) → Prop) : Cond S E O A T where
  fork := fun s P _ => J s P
  start := fun s P t => J s (.ready t ::ₘ P)
  resume := fun s P t op _ => J s (.blocked t op ::ₘ P)

end Cond

namespace System

variable {S E O T R : Type} {A : O → Type} (sys : System S E O A T R)

/-- A choice meets a condition. -/
def Allows (c : Cond S E O A T) (w : World S E O A T) : Choice T R → Prop
  | .fork t => c.fork w.shared w.labels t
  | .call _ t => c.fork w.shared w.labels t
  | .start g => ∀ root t rest P, w.pool[g]? = some ⟨root, .ready t :: rest⟩ →
      w.labels = .ready t ::ₘ P → c.start w.shared P t
  | .answer g r => ∀ root t history state op k rest result P,
      w.pool[g]? = some ⟨root, .waiting t history state op k :: rest⟩ →
      sys.decode w.shared root op r = some result →
      w.labels = .blocked t op ::ₘ P → c.resume w.shared P t op result

/-- The worlds of the runs whose steps all meet a condition. -/
inductive Reach (c : Cond S E O A T) : World S E O A T → Prop where
  | start : Reach c sys.start
  | step {w w' : World S E O A T} {choice : Choice T R} (h : Reach c w)
      (hallows : sys.Allows c w choice) (hstep : sys.step w choice = some w') : Reach c w'

/-- The result is one the outside world can give. -/
def Possible (s : S) (op : O) (result : Except E (A op)) : Prop :=
  ∃ root r, sys.decode s root op r = some result

/-- Every execution is a run without conditions. -/
theorem reach_after {w w' : World S E O A T} (choices : List (Choice T R))
    (h : sys.Reach .any w) (hafter : sys.after w choices = some w') : sys.Reach .any w' := by
  induction choices generalizing w with
  | nil =>
      cases hafter
      exact h
  | cons choice choices ih =>
      rw [after, Option.bind_eq_some_iff] at hafter
      obtain ⟨next, hnext, hrest⟩ := hafter
      refine ih (.step h ?_ hnext) hrest
      cases choice <;> simp [Allows, Cond.any]

end System

end Coop
