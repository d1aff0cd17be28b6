import GeventSignalR.Python.Exception

/-!
# States and reconnection policies

What `geventsignalrclient.transport` defines without reference to a websocket: the
connection states and the two reconnection handlers.
-/

namespace GeventSignalR

/-- `ConnectionState`. -/
inductive ConnectionState where
  | connecting
  | connected
  | reconnecting
  | disconnected
  deriving DecidableEq, Repr

/-- The class of a reconnection handler with what its constructor was given. -/
inductive ReconnectionPolicy where
  /-- `RawReconnectionHandler` -/
  | raw (sleepTime : Int) (maxAttempts : Option Int)
  /-- `IntervalReconnectionHandler` -/
  | interval (intervals : List Int)
  deriving DecidableEq, Repr

/-- A reconnection handler. -/
structure ReconnectionHandler where
  policy : ReconnectionPolicy
  reconnecting : Bool
  attemptNumber : Nat
  deriving DecidableEq, Repr

namespace ReconnectionHandler

/-- A handler as its constructor leaves it. -/
def new (policy : ReconnectionPolicy) : ReconnectionHandler :=
  ⟨policy, false, 0⟩

/-- `reset`. -/
def reset (handler : ReconnectionHandler) : ReconnectionHandler :=
  { handler with attemptNumber := 0, reconnecting := false }

/-- `next`: the handler afterwards, and the time to sleep. -/
def next (handler : ReconnectionHandler) : ReconnectionHandler × Except Exc Int :=
  match handler.policy with
  | .raw sleepTime (some maxAttempts) =>
      if handler.attemptNumber ≤ maxAttempts then
        ({ handler with reconnecting := true, attemptNumber := handler.attemptNumber + 1 },
          .ok sleepTime)
      else
        ({ handler with reconnecting := true },
          .error (.valueError s!"max attemps reached {maxAttempts}"))
  | .raw sleepTime none => ({ handler with reconnecting := true }, .ok sleepTime)
  | .interval intervals =>
      ({ handler with reconnecting := true, attemptNumber := handler.attemptNumber + 1 },
        match intervals[handler.attemptNumber]? with
        | some sleepTime => .ok sleepTime
        | none => .error (.valueError s!"max intervals reached {intervals}"))

theorem next_exception (handler : ReconnectionHandler) : ExceptionsOnly handler.next.2 := by
  unfold next
  split
  · split
    · exact .ok _
    · exact .error rfl
  · exact .ok _
  · dsimp only
    split
    · exact .ok _
    · exact .error rfl

end ReconnectionHandler

end GeventSignalR
