/-!
# Exceptions

The exception classes the package raises, catches or lets through, with the
subclass tests its `except` clauses make.
-/

namespace GeventSignalR

/-- An exception in flight. -/
inductive Exc where
  /-- `ValueError`. -/
  | valueError (text : String)
  /-- `HubConnectionError`, a `ValueError` of the package. -/
  | hubConnectionError (text : String)
  | typeError
  | keyError (key : String)
  | indexError
  | attributeError
  /-- `OSError`, which the exceptions of `requests` are as well. -/
  | osError
  /-- `HubError`, an `OSError` of the package that carries the response. -/
  | hubError (status : Nat)
  /-- `UnauthorizedHubError`, a `HubError`. -/
  | unauthorizedHubError (status : Nat)
  /-- `websocket._exceptions.WebSocketConnectionClosedException`. -/
  | connectionClosed
  /-- A plain `Exception`. -/
  | exception (text : String)
  /-- `gevent.GreenletExit`, which is a `BaseException` but no `Exception`. -/
  | greenletExit
  deriving DecidableEq, Repr

namespace Exc

/-- What `except Exception` catches. -/
def isException : Exc → Bool
  | greenletExit => false
  | _ => true

/-- What `except OSError` catches. -/
def isOSError : Exc → Bool
  | osError | hubError _ | unauthorizedHubError _ => true
  | _ => false

/-- What the `except` clause of `WebsocketTransport.send` takes for a lost
connection: `(WebSocketConnectionClosedException, OSError)`. -/
def isConnectionLost : Exc → Bool
  | connectionClosed => true
  | e => e.isOSError

/-- `str(e)`, for exceptions raised without further arguments. -/
def str : Exc → String
  | valueError text | hubConnectionError text | exception text => text
  | keyError key => key
  | connectionClosed => "Connection is already closed."
  | _ => ""

end Exc

/-- Where a sequence of two steps fails. -/
theorem bind_eq_error {α β : Type} {x : Except Exc α} {f : α → Except Exc β} {e : Exc}
    (h : x >>= f = .error e) : x = .error e ∨ ∃ a, f a = .error e := by
  cases x with
  | error e' =>
      cases h
      exact .inl rfl
  | ok a => exact .inr ⟨a, h⟩

/-- Where a step and a function applied to its result fail. -/
theorem map_eq_error {α β : Type} {x : Except Exc α} {f : α → β} {e : Exc}
    (h : x.map f = .error e) : x = .error e := by
  cases x with
  | error e' =>
      cases h
      rfl
  | ok a => cases h

/-- Where a step and a function applied to its result end. -/
theorem map_eq_ok {α β : Type} {x : Except Exc α} {f : α → β} {b : β}
    (h : x.map f = .ok b) : ∃ a, x = .ok a ∧ b = f a := by
  cases x with
  | error e => cases h
  | ok a =>
      cases h
      exact ⟨a, rfl, rfl⟩

/-- What a computation raises is an `Exception`. -/
def ExceptionsOnly {α : Type} (x : Except Exc α) : Prop :=
  ∀ e, x = .error e → e.isException = true

namespace ExceptionsOnly

theorem ok {α : Type} (a : α) : ExceptionsOnly (.ok a : Except Exc α) := by
  intro e h
  cases h

theorem error {α : Type} {e : Exc} (he : e.isException = true) :
    ExceptionsOnly (.error e : Except Exc α) := by
  intro e' h
  cases h
  exact he

theorem bind {α β : Type} {x : Except Exc α} {f : α → Except Exc β} (hx : ExceptionsOnly x)
    (hf : ∀ a, ExceptionsOnly (f a)) : ExceptionsOnly (x >>= f) := by
  intro e h
  rcases bind_eq_error h with hx' | ⟨a, hf'⟩
  · exact hx e hx'
  · exact hf a e hf'

theorem map {α β : Type} {x : Except Exc α} {f : α → β} (hx : ExceptionsOnly x) :
    ExceptionsOnly (x.map f) :=
  fun e h => hx e (map_eq_error h)

end ExceptionsOnly

end GeventSignalR
