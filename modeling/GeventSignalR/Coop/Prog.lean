import Mathlib.Data.Multiset.AddSub

/-!
# Cooperative programs

Code that runs without interruption until it blocks, as under a cooperative
scheduler.  The state it shares with other code can change only while it blocks.

* `Prog` is a program: it reads and writes the shared state, spawns threads,
  raises and catches exceptions, and performs blocking operations.
* `Prog.run` is one uninterrupted stretch of it, up to the next blocking operation.
* `Prog.entering` notes the beginning of each of its stretches in the state.

The parameters are the shared state `S`, the exceptions `E`, the operations `O`
with the type `A op` of what each returns, and the threads `T`.
-/

namespace Coop

/-- A program that returns an `α`. -/
inductive Prog (S E O : Type) (A : O → Type) (T : Type) (α : Type) : Type where
  /-- Return. -/
  | done (a : α) : Prog S E O A T α
  /-- Raise an exception. -/
  | raise (e : E) : Prog S E O A T α
  /-- Read the shared state. -/
  | read (k : S → Prog S E O A T α) : Prog S E O A T α
  /-- Write the shared state. -/
  | write (f : S → S) (k : Prog S E O A T α) : Prog S E O A T α
  /-- Make a thread ready to start. -/
  | spawn (t : T) (k : Prog S E O A T α) : Prog S E O A T α
  /-- Block until the operation returns or raises. -/
  | block (op : O) (k : Except E (A op) → Prog S E O A T α) : Prog S E O A T α

namespace Prog

variable {S E O T α β : Type} {A : O → Type}

/-- Sequential composition. -/
def bind : Prog S E O A T α → (α → Prog S E O A T β) → Prog S E O A T β
  | done a, f => f a
  | raise e, _ => raise e
  | read k, f => read fun s => (k s).bind f
  | write g k, f => write g (k.bind f)
  | spawn t k, f => spawn t (k.bind f)
  | block op k, f => block op fun r => (k r).bind f

/-- `try p except e: handler e`. -/
def tryCatch : Prog S E O A T α → (E → Prog S E O A T α) → Prog S E O A T α
  | done a, _ => done a
  | raise e, handler => handler e
  | read k, handler => read fun s => (k s).tryCatch handler
  | write g k, handler => write g (k.tryCatch handler)
  | spawn t k, handler => spawn t (k.tryCatch handler)
  | block op k, handler => block op fun r => (k r).tryCatch handler

instance : Monad (Prog S E O A T) where
  pure := done
  bind := bind

/-- The shared state. -/
def get : Prog S E O A T S :=
  read done

/-- Change the shared state. -/
def modify (f : S → S) : Prog S E O A T Unit :=
  write f (done ())

/-- Start a thread. -/
def fork (t : T) : Prog S E O A T Unit :=
  spawn t (done ())

/-- A blocking operation that returns its answer. -/
def perform (op : O) : Prog S E O A T (A op) :=
  block op fun r =>
    match r with
    | .ok a => done a
    | .error e => raise e

/-- A computation without effects on the shared state. -/
def ofExcept : Except E α → Prog S E O A T α
  | .ok a => done a
  | .error e => raise e

/-- `if c: p`. -/
def when (c : Bool) (p : Prog S E O A T Unit) : Prog S E O A T Unit :=
  if c then p else done ()

/-- `for x in xs: f(x)`. -/
def each {γ : Type} : List γ → (γ → Prog S E O A T Unit) → Prog S E O A T Unit
  | [], _ => done ()
  | x :: xs, f => (f x).bind fun _ => each xs f

/-- `p` with its exceptions as values. -/
def attempt (p : Prog S E O A T α) : Prog S E O A T (Except E α) :=
  (p.bind fun a => done (.ok a)).tryCatch fun e => done (.error e)

/-- `p`, and then `q` whether or not `p` raised. -/
def finally_ (p : Prog S E O A T α) (q : Prog S E O A T Unit) : Prog S E O A T α :=
  p.attempt.bind fun r => q.bind fun _ => ofExcept r

/-- The program, where every stretch of it begins with a change of the state. -/
def entering (f : S → S) : Prog S E O A T α → Prog S E O A T α
  | done a => done a
  | raise e => raise e
  | read k => read fun s => (k s).entering f
  | write g k => write g (k.entering f)
  | spawn t k => spawn t (k.entering f)
  | block op k => block op fun r => write f ((k r).entering f)

end Prog

/-- Where an uninterrupted stretch ends. -/
inductive Outcome (S E O : Type) (A : O → Type) (T : Type) (α : Type) : Type where
  | finished (r : Except E α)
  | blocked (op : O) (k : Except E (A op) → Prog S E O A T α)

namespace Prog

variable {S E O T α β : Type} {A : O → Type}

/-- The program up to its end or its next blocking operation: the state it leaves,
the threads it made ready, and where it stopped. -/
def run : Prog S E O A T α → S → S × List T × Outcome S E O A T α
  | done a, s => (s, [], .finished (.ok a))
  | raise e, s => (s, [], .finished (.error e))
  | read k, s => (k s).run s
  | write f k, s => k.run (f s)
  | spawn t k, s =>
      let (s, ts, outcome) := k.run s
      (s, t :: ts, outcome)
  | block op k, s => (s, [], .blocked op k)

end Prog

end Coop
