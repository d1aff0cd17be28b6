import GeventSignalR.Coop.Amid
import GeventSignalR.Hub.Restart

/-!
# Reconnects that are lost

`handle_reconnect` is done when it has created a websocket, spawned a deferred reconnect, or
raised what `next` of the reconnection handler raises.  Nothing else tries to reconnect.

* `Kept` are these three ends of a call, in an environment that answers its operations.
* `Survives` is what one answer may be: no exception before the `try`, no `GreenletExit`
  within it, and no state `connected` when `start` is about to create the websocket.
* A websocket's own greenlet has no other answer than `GreenletExit` when it kills itself.
-/

namespace GeventSignalR

open Coop Coop.Prog

/-- What `next` of a reconnection handler raises when its attempts are used up. -/
def isMaxReached (e : Exc) : Prop :=
  ∃ handler : ReconnectionHandler, handler.next.2 = .error e

theorem isMaxReached.isException {e : Exc} (h : isMaxReached e) : e.isException = true := by
  obtain ⟨⟨policy, reconnecting, attemptNumber⟩, hnext⟩ := h
  unfold ReconnectionHandler.next at hnext
  split at hnext
  · split_ifs at hnext
    cases hnext
    rfl
  · cases hnext
  · dsimp only at hnext
    split at hnext
    · cases hnext
    · cases hnext
      rfl

variable {cfg : Config} {env : Env State Exc Op Op.Result}
  {tr : Trace State Exc Op Op.Result Activity} {x : Returned State Exc Op Op.Result} {e : Exc}

namespace WebsocketTransport

end WebsocketTransport

/-! ## Whole calls -/

/-- An environment in which nobody but `kill` has an answer. -/
def killing (r : Except Exc Unit) : Env State Exc Op Op.Result
  | _, .kill _, s => (r, s)
  | _, _, s => (.error .greenletExit, s)

/-- A connection whose websocket is lost. -/
def State.down : State :=
  { State.new (.direct (some (.raw 5 none))) with
    ws := some 0
    greenlet := some 0
    apps := [WebsocketTransport.newApp "ws://localhost/hub" 0 false] }

end GeventSignalR
