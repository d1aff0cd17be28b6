import GeventSignalR.Coop.Budget
import GeventSignalR.Hub.ClientStream

/-!
# What a call costs

No call of the package waits again and again: what it blocks on is bounded, whatever the server, the
network and the user functions do.

* `Prices` are the prices of the operations, one for each kind.
* `Prices.budget` is what a call spends at most, with all that `handle_reconnect` does for it.  The
  greenlets of the websockets and of the checker have it for each round of their loops.
* `budget_reach`: in every run, no call has spent more than that.
-/

namespace GeventSignalR

open Coop Coop.Prog

/-- What the kinds of operations cost. -/
structure Prices where
  write : Nat
  close : Nat
  post : Nat
  kill : Nat
  sleep : Nat
  auth : Nat
  callback : Nat
  acquire : Nat
  event : Nat

namespace Prices

variable (p : Prices)

/-- What an operation costs. -/
def price : Op → Nat
  | .wsSend .. => p.write
  | .wsClose .. => p.close
  | .post .. => p.post
  | .kill _ => p.kill
  | .sleep _ => p.sleep
  | .auth _ => p.auth
  | .callback _ => p.callback
  | .acquire _ => p.acquire
  | .event _ => p.event

/-- What `Connection.start` spends. -/
def start : Nat :=
  p.auth + p.post

/-- What `handle_reconnect` spends: it reports the outage, stops, kills and starts. -/
def reconnect : Nat :=
  p.callback + (p.close + (p.kill + p.start))

/-- What the `send` of the transport spends: the second part is for a lost connection, where without
a reconnection handler there is only a callback. -/
def send : Nat :=
  p.write + p.reconnect

/-- What a round of `run_forever` spends, if callbacks are free.  A frame can make it stop twice: for
the response to the handshake, and for a message behind it. -/
def round : Nat :=
  p.event + max p.send (p.close + p.close)

/-- What an activity spends.  A frame can make any number of callbacks. -/
def budget : Activity → Option Nat
  | .start => some p.start
  | .stop => some p.close
  | .send _ (.subject _) .. => some (p.auth + (p.acquire + p.send))
  | .send .. => some (p.auth + p.send)
  | .stream .. => some p.send
  | .next .. | .complete _ => some (p.acquire + p.send)
  | .checkerRun | .deferredReconnect _ => some (p.sleep + p.send)
  | .runForever _ => if p.callback = 0 then some p.round else none
  | _ => some 0

end Prices

variable {p : Prices} {cfg : Config}

/-! ## The transport -/

namespace WebsocketTransport

theorem spends_setState (value : ConnectionState) : (setState value).Spends p.price 0 :=
  .modify_bind (.when (.modify _))

theorem spends_stop (site : StopSite) : (stop site).Spends p.price p.close := by
  have hclose : (closeWs site).Spends p.price p.close :=
    .get_bind fun _ => .elim (.pure ()) fun app =>
      .modify_bind (.bind (n := 0) (.perform (Op.wsClose app site)) fun _ => .modify _)
  exact .get_bind fun _ => .when (.modify_bind (.bind (n := 0) hclose fun _ =>
    .free_bind (spends_setState _) fun _ => .modify _))

theorem spends_negotiate : (negotiate cfg).Spends p.price p.post :=
  .get_bind fun _ => .bind (n := 0) (.perform (Op.post _ _)) fun _ => .get_bind fun _ =>
    .free_bind (.ofExcept _) fun _ => .modify _

theorem spends_createApp : createApp.Spends p.price 0 :=
  .get_bind fun _ => .modify_bind (.modify_bind (.free_bind (.fork _) fun _ => .modify _))

theorem spends_start : (start cfg).Spends p.price p.post :=
  .bind (n := 0) (.when spends_negotiate) fun _ => .get_bind fun _ =>
    .when (.free_bind (spends_setState _) fun _ => spends_createApp)

theorem spends_reportEnd (site : CloseSite) : (reportEnd site).Spends p.price 0 :=
  .get_bind fun _ => .ite (.modify _) (spends_setState _)

theorem spends_onSocketError (site : CloseSite) :
    (onSocketError site).Spends p.price p.callback :=
  .get_bind fun _ => .bind (n := 0) (.when (.perform (Op.callback _))) fun _ => spends_reportEnd _

theorem spends_onClosed (app : Nat) : (onClosed app).Spends p.price p.callback :=
  .free_bind (spends_reportEnd _) fun _ => .get_bind fun _ => .when (.perform (Op.callback _))

end WebsocketTransport

theorem Connection.spends_refreshTokenMaybe (site : AuthSite) :
    (refreshTokenMaybe cfg site).Spends p.price p.auth :=
  .when (.bind (n := 0) (.perform (Op.auth site)) fun _ => .elim (.pure ()) fun _ => .modify _)

theorem Connection.spends_start : (start cfg).Spends p.price p.start :=
  .bind (spends_refreshTokenMaybe _) fun _ => WebsocketTransport.spends_start

namespace WebsocketTransport

theorem spends_setReconnecting (value : Bool) : (setReconnecting value).Spends p.price 0 :=
  .free_bind (.get_bind fun _ => .elim (.raise _) fun _ => .pure _) fun _ => .modify _

theorem spends_deferReconnect (e : Exc) : (deferReconnect e).Spends p.price 0 := by
  have hnext : nextSleepTime.Spends p.price 0 :=
    .free_bind (.get_bind fun _ => .elim (.raise _) fun _ => .pure _) fun _ =>
      .modify_bind (.modify_bind (.ofExcept _))
  exact .ite (.free_bind hnext fun _ => .fork _) (.raise _)

theorem spends_reconnect : (reconnect cfg).Spends p.price (p.close + (p.kill + p.start)) := by
  have hstop : stopLost.Spends p.price p.close :=
    .tryCatch (n := 0) (spends_stop _) fun _ => .ite (spends_setState _) (.raise _)
  have hkill : killGreenlet.Spends p.price p.kill :=
    .get_bind fun _ => .elim (.raise _) fun app =>
      .free_bind (.get_bind fun _ => .modify_bind (.modify _)) fun _ => .perform (Op.kill app)
  exact .bind hstop fun _ => .bind hkill fun _ => .modify_bind (.modify_bind Connection.spends_start)

theorem spends_handleReconnect : (handleReconnect cfg).Spends p.price p.reconnect := by
  have hreport : reportReconnect.Spends p.price p.callback :=
    .modify_bind (.perform (Op.callback .onReconnect))
  have hreconnect : ((reconnect cfg).tryCatch deferReconnect).Spends p.price
      (p.close + (p.kill + p.start)) := .tryCatch (n := 0) spends_reconnect spends_deferReconnect
  exact .free_bind (.get_bind fun _ => .elim (.raise _) fun _ => .pure _) fun _ =>
    .get_bind fun _ => .bind (.when hreport) fun _ =>
      .free_bind (spends_setReconnecting _) fun _ => hreconnect

theorem spends_send (message : Outgoing) : (send cfg message).Spends p.price p.send := by
  have hwrite : ∀ app, (write app message).Spends p.price p.write := fun app =>
    .modify_bind (.tryCatch (n := 0) (.perform (Op.wsSend app message)) fun _ =>
      .modify_bind (.raise _))
  have htransmit : (transmit cfg message).Spends p.price p.write :=
    .free_bind (.get_bind fun _ => .elim (.raise _) fun _ => .pure _) fun _ =>
      .free_bind (.ofExcept _) fun _ => .bind (n := 0) (hwrite _) fun _ => .modify_bind (.modify _)
  have hreport : ∀ e, (reportLost e).Spends p.price p.callback := fun _ =>
    .get_bind fun _ => .bind (n := 0) (.when (.perform (Op.callback _))) fun _ => .raise _
  have hlost : ∀ e, (connectionLost cfg e).Spends p.price p.reconnect := fun e =>
    .modify_bind (.free_bind (spends_setState _) fun _ => .get_bind fun _ =>
      .ite ((hreport e).mono (Nat.le_add_right _ _)) spends_handleReconnect)
  exact .tryCatch htransmit fun e => .ite (hlost e) (.raise _)

theorem spends_deferredReconnect (sleepTime : Int) :
    (deferredReconnect cfg sleepTime).Spends p.price (p.sleep + p.send) := by
  have hping : (pingLater cfg sleepTime).Spends p.price (p.sleep + p.send) :=
    .bind (.perform (Op.sleep sleepTime)) fun _ => .get_bind fun _ => .when (spends_send _)
  exact .tryCatch (n := 0) hping fun _ =>
    .ite (.free_bind (spends_setReconnecting _) fun _ => .modify _) (.raise _)

end WebsocketTransport

theorem ConnectionStateChecker.spends_run :
    (ConnectionStateChecker.run cfg).Spends p.price (p.sleep + p.send) := by
  have hcheck : (check cfg).Spends p.price (p.sleep + p.send) :=
    .bind (.perform (Op.sleep 1)) fun _ => .get_bind fun _ =>
      .when (WebsocketTransport.spends_send _)
  exact .get_bind fun _ => .ite (.bind (n := 0) hcheck fun _ => .pure _) (.pure _)

/-! ## The methods -/

namespace Subject

theorem spends_object (subject : Nat) : (object subject).Spends p.price 0 :=
  .get_bind fun _ => .elim (.raise _) fun _ => .pure _

theorem spends_withLock {subject : Nat} {q : Hub Unit} {n : Nat} (hq : q.Spends p.price n) :
    (withLock subject q).Spends p.price (p.acquire + n) :=
  .free_bind (spends_object subject) fun _ => .bind (.when (.perform (Op.acquire subject))) fun _ =>
    .free_bind (.modify_bind (.modify _)) fun _ => .finally_ (n := 0) hq (.modify _)

/-- A method of a subject. -/
theorem spends_serve (subject : Nat) (message : Subject → Message) :
    (withLock subject (serve cfg subject message)).Spends p.price (p.acquire + p.send) :=
  spends_withLock (.free_bind (.free_bind (spends_object subject) fun _ => .when (.raise _))
    fun _ => .free_bind (spends_object subject) fun _ =>
      .modify_bind (WebsocketTransport.spends_send _))

end Subject

namespace Connection

theorem spends_register (handler : Handler) : (register handler).Spends p.price 0 :=
  .modify_bind (.modify _)

theorem spends_send (method : Value) (arguments : Arguments) (onInvocation : Option Nat)
    (invocationId : Option String) (uuid : String) {n : Nat}
    (hn : p.budget (.send method arguments onInvocation invocationId uuid) = some n) :
    (send cfg method arguments onInvocation invocationId uuid).Spends p.price n := by
  unfold send
  refine .modify_bind (.get_bind fun _ => .free_bind (.when (.raise _)) fun _ =>
    .free_bind (.when (.raise _)) fun _ => ?_)
  cases arguments with
  | list items =>
      cases hn
      exact .bind (spends_refreshTokenMaybe _) fun _ => .get_bind fun _ =>
        .free_bind (.elim (.pure ()) fun _ => spends_register _) fun _ =>
          WebsocketTransport.spends_send _
  | subject subject =>
      cases hn
      exact .bind (spends_refreshTokenMaybe _) fun _ => .modify_bind (Subject.spends_serve _ _)
  | other =>
      cases hn
      exact .bind (spends_refreshTokenMaybe _) fun _ => .pure ()

theorem spends_stream (event : String) (eventParams : Value) (uuid : String) :
    (stream cfg event eventParams uuid).Spends p.price p.send :=
  .modify_bind (.get_bind fun _ => .modify_bind (.free_bind (spends_register _) fun _ =>
    WebsocketTransport.spends_send _))

end Connection

/-! ## Websockets -/

section

variable (hfree : p.callback = 0)

include hfree

/-- A user function costs nothing. -/
theorem spends_call (callback : Callback) : (call callback).Spends p.price 0 := by
  have hcall : (call callback).Spends p.price p.callback := .perform (Op.callback callback)
  rwa [hfree] at hcall

theorem spends_error (site : CloseSite) :
    (WebsocketTransport.onSocketError site).Spends p.price 0 := by
  have herror : (WebsocketTransport.onSocketError site).Spends p.price p.callback :=
    WebsocketTransport.spends_onSocketError _
  rwa [hfree] at herror

namespace Connection

theorem spends_dispatch (message : Message) : (dispatch message).Spends p.price 0 := by
  have happly : ∀ (f : Function) c, (f.apply c).Spends p.price 0 := by
    intro f c
    refine .modify_bind ?_
    cases f with
    | default => exact .pure ()
    | user callback => exact spends_call hfree _
    | notCallable => exact .raise _
  have hcallback : ∀ object (member : StreamHandler → Function) c,
      (streamCallback object member >>= fun f => f.apply c).Spends p.price 0 := fun _ _ _ =>
    .free_bind (.get_bind fun _ => .elim (.raise _) fun _ => .pure _) fun f => happly f _
  have hselect : ∀ select, (selectHandlers message select).Spends p.price 0 := fun _ =>
    .modify_bind (.get_bind fun _ => .pure _)
  have hunregister : ∀ invocationId, (unregister invocationId).Spends p.price 0 := fun _ => .modify _
  cases message with
  | invocation headers invocationId target arguments =>
      exact .get_bind fun _ => .each fun _ => spends_call hfree _
  | completion headers invocationId result error =>
      refine .free_bind (.when (.free_bind (.ofExcept _) fun _ => .get_bind fun _ =>
        .when (spends_call hfree _))) fun _ => .free_bind (hselect _) fun _ =>
          .free_bind (.each fun handler => ?_) fun _ => hunregister _
      cases handler with
      | stream object _ => exact hcallback object _ _
      | invocation _ callback => exact happly _ _
  | streamItem headers invocationId item =>
      refine .free_bind (hselect _) fun _ => .each fun handler => ?_
      cases handler with
      | stream object _ => exact hcallback object _ _
      | invocation _ callback => exact .raise _
  | cancelInvocation headers invocationId =>
      refine .free_bind (hselect _) fun _ => .free_bind (.each fun handler => ?_) fun _ =>
        hunregister _
      cases handler with
      | stream object _ => exact hcallback object _ _
      | invocation _ callback => exact .raise _
  | _ => exact .pure ()

/-- A close message is the last one that is read. -/
theorem spends_onMessage (messages : List Message) :
    (onMessage messages).Spends p.price p.close := by
  induction messages with
  | nil => exact .pure ()
  | cons message messages ih =>
      cases message with
      | close error => exact WebsocketTransport.spends_stop _
      | _ => exact .free_bind (spends_dispatch hfree _) fun _ => ih

end Connection

namespace WebsocketTransport

theorem spends_receive (app : Nat) (raw : Raw) : (receive cfg app raw).Spends p.price p.close := by
  have haccept : (acceptHandshake app).Spends p.price 0 := by
    have hdone : handshakeDone.Spends p.price 0 :=
      .get_bind fun _ => .when (.modify_bind (.when (.modify_bind (.fork _))))
    exact .modify_bind (.free_bind (spends_setState _) fun _ => .get_bind fun _ => .modify_bind hdone)
  have hreject : rejectHandshake.Spends p.price p.close :=
    .modify_bind (.free_bind (.get_bind fun _ => .elim (.raise _) fun _ => .pure _) fun _ =>
      .free_bind (spends_error hfree _) fun _ => .bind (n := 0) (spends_stop _) fun _ =>
        spends_setState _)
  have hopen : reportOpen.Spends p.price 0 :=
    .get_bind fun _ => .when (.free_bind (spends_setState _) fun _ =>
      .modify_bind (spends_call hfree _))
  have hevaluate : (evaluateHandshake cfg app raw).Spends p.price p.close :=
    .free_bind (.ofExcept _) fun _ => .bind (n := 0)
      (.ite (haccept.mono (Nat.zero_le _)) hreject) fun _ => .pure _
  refine .get_bind fun _ => .modify_bind (.ite ?_ (.ofExcept _))
  exact .bind (n := 0) hevaluate fun _ => .free_bind hopen fun _ => .pure _

end WebsocketTransport

theorem WebSocketApp.spends_runForever (app : Nat) :
    (runForever cfg app).Spends p.price p.round := by
  have hcallback : ∀ {isOver : Bool} {q : Hub Unit} {n : Nat}, q.Spends p.price n →
      (callback app isOver q).Spends p.price n := fun hq =>
    .tryCatch (n := 0) hq fun _ => .ite (spends_error hfree _) (.raise _)
  have hmessage : ∀ raw, (WebsocketTransport.onMessage cfg app raw).Spends p.price
      (p.close + p.close) := fun _ =>
    .bind (WebsocketTransport.spends_receive hfree _ _) fun _ => Connection.spends_onMessage hfree _
  have hhandle : ∀ event, (handle cfg app event).Spends p.price
      (max p.send (p.close + p.close)) := by
    intro event
    cases event with
    | opened =>
        have hopened : (handle cfg app .opened).Spends p.price p.send :=
          .modify_bind (.bind (n := 0) (hcallback (WebsocketTransport.spends_send _)) fun _ => .pure _)
        exact hopened.mono (le_max_left _ _)
    | message raw =>
        have hmessage : (handle cfg app (.message raw)).Spends p.price (p.close + p.close) :=
          .bind (n := 0) (hcallback (hmessage raw)) fun _ => .pure _
        exact hmessage.mono (le_max_right _ _)
    | failed e => exact .modify_bind (.raise _)
    | closed => exact .modify_bind (.pure _)
  have hround : (round cfg app).Spends p.price p.round :=
    .tryCatch (n := 0) (.bind (.perform (Op.event app)) hhandle) fun _ =>
      .ite (.free_bind (hcallback (spends_error hfree _)) fun _ => .pure _) (.raise _)
  have hclosed : (WebsocketTransport.onClosed app).Spends p.price 0 := by
    have hclosed : (WebsocketTransport.onClosed app).Spends p.price p.callback :=
      WebsocketTransport.spends_onClosed _
    rwa [hfree] at hclosed
  have hteardown : (teardown app).Spends p.price 0 :=
    .modify_bind (.finally_ (n := 0) (hcallback hclosed) (.modify _))
  have hend : ∀ r, (endRound app r).Spends p.price 0 := by
    intro r
    rcases r with e | _ | _
    · exact .free_bind hteardown fun _ => .ofExcept _
    · exact .free_bind hteardown fun _ => .ofExcept _
    · exact .pure _
  exact .get_bind fun _ => .ite (.modify_bind (.pure _))
    (.modify_bind (.bind (n := 0) hround.attempt hend))

end

/-! ## Runs -/

theorem spends_body (t : Activity) {n : Nat} (hn : p.budget t = some n) :
    (Hub.body cfg t).Spends p.price n := by
  have honce : ∀ {q : Hub Unit}, q.Spends p.price n → (Hub.once q).Spends p.price n := fun hq =>
    .bind (n := 0) hq fun _ => .pure _
  cases t with
  | send method arguments onInvocation invocationId uuid =>
      exact honce (Connection.spends_send _ _ _ _ _ hn)
  | runForever app =>
      simp only [Prices.budget] at hn
      split_ifs at hn with hfree
      cases hn
      exact WebSocketApp.spends_runForever hfree app
  | checkerRun =>
      cases hn
      exact ConnectionStateChecker.spends_run
  | start =>
      cases hn
      exact honce (.modify_bind Connection.spends_start)
  | stop =>
      cases hn
      exact honce (.finally_ (n := 0) (WebsocketTransport.spends_stop _) (.modify _))
  | stream event eventParams uuid =>
      cases hn
      exact honce (Connection.spends_stream _ _ _)
  | next subject item =>
      cases hn
      exact honce (Subject.spends_serve _ _)
  | complete subject =>
      cases hn
      exact honce (Subject.spends_serve _ _)
  | deferredReconnect sleepTime =>
      cases hn
      exact honce (WebsocketTransport.spends_deferredReconnect _)
  | subscribe object callbacks =>
      cases hn
      exact honce (.get_bind fun _ => .elim (.raise _) fun _ =>
        .free_bind (.ofExcept _) fun _ => .modify _)
  | _ =>
      cases hn
      exact honce (.modify _)

/-- In every run, whatever the operations return, no call has spent more than its budget: neither
one that is pending, with the operation it waits for, nor one that has ended. -/
theorem budget_reach {w : World State Exc Op Op.Result Activity} (h : (hub cfg).Reach .any w)
    (p : Prices) {t : Activity} {n : Nat} (hn : p.budget t = some n) :
    (∀ g ∈ w.pool, ∀ frame ∈ g.frames, frame.label.thread = t → frame.spent p.price ≤ n) ∧
      ∀ e ∈ w.ended, e.thread = t → cost p.price e.history ≤ n := by
  have hbody : ∀ t n, p.budget t = some n → ((hub cfg).body t).Spends p.price n := fun t n hn =>
    (spends_body t hn).entering
  exact System.spent_le hbody h hn

/-- Every operation counts. -/
def Prices.all : Prices :=
  ⟨1, 1, 1, 1, 1, 1, 1, 1, 1⟩

/-- Writes count. -/
def Prices.writes : Prices :=
  ⟨1, 0, 0, 0, 0, 0, 0, 0, 0⟩

/-- A run in which the write of a call fails, so that it kills a greenlet and asks for a token
again: it makes four of at most seven operations, and the greenlets write once a round. -/
theorem budget_send :
    ∃ w, (hub { Config.direct (some (.raw 5 none)) with auth := true }).Reach .any w ∧
      w.ended.map (fun e => cost Prices.all.price e.history) = [1, 2, 4] ∧
      (∀ e ∈ w.ended, e.thread = .send (.str "Notify") (.list []) none none "1" →
        cost Prices.all.price e.history ≤ 7) ∧
      ∀ e ∈ w.ended, e.thread = .runForever 0 → cost Prices.writes.price e.history ≤ 1 := by
  have h := (hub { Config.direct (some (.raw 5 none)) with auth := true }).reach_after [.fork .start,
    .start 0, .answer 0 (.token none), .start 1, .answer 1 (.happened .opened), .answer 1 .done,
    .fork (.send (.str "Notify") (.list []) none none "1"), .start 2, .answer 2 (.token none),
    .answer 2 (.raised .connectionClosed), .answer 2 .done, .answer 2 (.token none)] .start rfl
  exact ⟨_, h, rfl, (budget_reach h .all rfl).2, (budget_reach h .writes rfl).2⟩

end GeventSignalR
