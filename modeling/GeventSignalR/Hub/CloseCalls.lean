import GeventSignalR.Coop.Counts
import GeventSignalR.Hub.Keeps

/-!
# The calls of `on_close`

Four places of the transport call the `on_close` callback, and none of them knows of the others:
the close event, the errors of a websocket, a rejected handshake, and a write that finds the
connection lost.

* `Calls` are the programs that call it only from some of these places.
* `Accounted` says how often the greenlet of a websocket calls it from each of them, at most.
* `life` is all that such a greenlet does, round by round.

The bounds hold whatever the outside world answers, and whatever other greenlets do meanwhile.
-/

namespace GeventSignalR

open Coop Coop.Prog

/-- Where an operation calls `on_close`, if it does. -/
def closeSite : Op → Option CloseSite
  | .callback (.onClose site) => some site
  | _ => none

/-- The program calls `on_close` only from some places. -/
abbrev Calls {α : Type} (t : Activity) (K : CloseSite → Prop) (p : Hub α) : Prop :=
  Only t (fun op => ∀ site, closeSite op = some site → K site) p

variable {cfg : Config} {t : Activity} {K : CloseSite → Prop}

/-! ## Where the methods call it -/

theorem calls_modify {f : State → State} : Calls t K (modify f : Hub Unit) :=
  Pointwise.modify (fun _ h => h) fun _ _ h => h

theorem calls_fork {activity : Activity} : Calls t K (fork activity : Hub Unit) :=
  Pointwise.fork fun _ _ => trivial

theorem calls_perform {op : Op} (hop : ∀ site, closeSite op = some site → K site) :
    Calls t K (perform op) :=
  Pointwise.perform fun _ _ => hop

/-- An operation that is no call of `on_close`. -/
theorem calls_none {op : Op} (hop : closeSite op = none) : Calls t K (perform op) := by
  apply calls_perform
  intro site hsite
  rw [hop] at hsite
  cases hsite

namespace WebsocketTransport

theorem calls_setState (value : ConnectionState) : Calls t K (setState value) :=
  Keeps.bind calls_modify fun _ => Keeps.when fun _ => calls_modify

theorem calls_stop (site : StopSite) : Calls t K (stop site) :=
  keeps_stop calls_modify (keeps_closeWs (fun _ => calls_modify) (fun _ => calls_none rfl)
    fun _ => calls_modify) (calls_setState _) calls_modify

theorem calls_createApp : Calls t K createApp :=
  Keeps.bind .get fun _ => Keeps.bind calls_modify fun _ => Keeps.bind calls_modify fun _ =>
    Keeps.bind calls_fork fun _ => calls_modify

theorem calls_start : Calls t K (Connection.start cfg) :=
  Connection.keeps_start
    (Connection.keeps_refreshTokenMaybe (calls_none rfl) fun _ => calls_modify)
    (keeps_start (keeps_negotiate (fun _ _ => calls_none rfl) fun _ _ => calls_modify)
      (calls_setState _) calls_createApp)

theorem calls_handleReconnect : Calls t K (handleReconnect cfg) := by
  have hstop : Calls t K stopLost := keeps_stopLost (calls_stop _) (calls_setState _)
  have hkill : Calls t K killGreenlet :=
    keeps_killGreenlet (fun _ => keeps_killApp (fun _ => calls_modify) calls_modify)
      fun _ => calls_none rfl
  have hreconnect : Calls t K (reconnect cfg) :=
    keeps_reconnect hstop hkill calls_modify calls_modify calls_start
  have hdefer : ∀ e, Calls t K (deferReconnect e) := fun _ =>
    keeps_deferReconnect (keeps_nextSleepTime (fun _ => calls_modify) fun _ => calls_modify)
      fun _ => calls_fork
  exact keeps_handleReconnect (keeps_reportReconnect calls_modify (calls_none rfl))
    (keeps_setReconnecting fun _ => calls_modify) hreconnect hdefer

theorem calls_transmit (message : Outgoing) : Calls t K (transmit cfg message) :=
  keeps_transmit (fun _ => keeps_write calls_modify (calls_none rfl) fun _ => calls_modify)
    calls_modify fun _ => calls_modify

/-- `send` calls it where it reports a lost connection. -/
theorem calls_send (hlost : K .lost) (message : Outgoing) : Calls t K (send cfg message) := by
  have hcall : Calls t K (call (.onClose .lost)) := by
    apply calls_perform
    rintro site ⟨⟩
    exact hlost
  exact keeps_send (calls_transmit message) fun _ =>
    keeps_connectionLost calls_modify (calls_setState _) hcall calls_handleReconnect

theorem calls_reportEnd (site : CloseSite) : Calls t K (reportEnd site) :=
  keeps_reportEnd calls_modify (calls_setState _)

/-- `on_socket_error` calls it from its own place. -/
theorem calls_onSocketError {site : CloseSite} (hsite : K site) : Calls t K (onSocketError site) := by
  apply keeps_onSocketError (calls_reportEnd _)
  apply calls_perform
  rintro other ⟨⟩
  exact hsite

theorem calls_onClosed {app : Nat} (hsite : K (.closed app)) : Calls t K (onClosed app) := by
  apply keeps_onClosed (calls_reportEnd _)
  apply calls_perform
  rintro other ⟨⟩
  exact hsite

theorem calls_acceptHandshake (app : Nat) : Calls t K (acceptHandshake app) :=
  Keeps.bind calls_modify fun _ => Keeps.bind (calls_setState _) fun _ => Keeps.bind .get fun _ =>
    Keeps.bind calls_modify fun _ => keeps_handshakeDone (fun _ => calls_modify)
      (Keeps.bind calls_modify fun _ => calls_fork)

theorem calls_reportOpen : Calls t K reportOpen :=
  keeps_reportOpen (calls_setState _) calls_modify (calls_none rfl)

end WebsocketTransport

/-- The messages of a batch lead to no call. -/
theorem Connection.calls_onMessage (messages : List Message) : Calls t K (onMessage messages) :=
  keeps_onMessage (fun _ => keeps_dispatch
    { calls := ⟨fun _ => calls_modify, fun _ _ => calls_none rfl⟩
      dispatched := fun _ => calls_modify
      unregister := fun _ => calls_modify
      event := fun _ _ => calls_none rfl
      error := fun _ => calls_none rfl }) (WebsocketTransport.calls_stop _)

/-! ## The answers that are counted -/

namespace CloseSite

/-- The close event. -/
def isClosed : CloseSite → Bool
  | closed _ => true
  | _ => false

/-- An error of a websocket that is over. -/
def isFinal : CloseSite → Bool
  | failed _ true => true
  | _ => false

/-- An error of a websocket that goes on. -/
def isOngoing : CloseSite → Bool
  | failed _ false => true
  | _ => false

/-- A rejected handshake. -/
def isRejected : CloseSite → Bool
  | rejected => true
  | _ => false

/-- A write that finds the connection lost. -/
def isLost : CloseSite → Bool
  | lost => true
  | _ => false

end CloseSite

/-- The answer to an operation. -/
abbrev HubReturned : Type :=
  Returned State Exc Op Op.Result

/-- A call of `on_close` from a place of some kind. -/
def isReport (kind : CloseSite → Bool) (x : HubReturned) : Bool :=
  (closeSite x.op).any kind

/-- A call that raised an `Exception`, when the websocket was over. -/
def isRaised : HubReturned → Bool
  | ⟨_, .callback (.onClose (.closed _)), .error e⟩ => e.isException
  | ⟨_, .callback (.onClose (.failed _ true)), .error e⟩ => e.isException
  | _ => false

/-- The websocket opened, or delivered a frame. -/
def isTaken : HubReturned → Bool
  | ⟨_, .event _, .ok .opened⟩ => true
  | ⟨_, .event _, .ok (.message _)⟩ => true
  | _ => false

/-- The websocket delivered a frame. -/
def isFrame : HubReturned → Bool
  | ⟨_, .event _, .ok (.message _)⟩ => true
  | _ => false

/-- A write found the connection lost. -/
def isLostWrite : HubReturned → Bool
  | ⟨_, .wsSend .., .error e⟩ => e.isConnectionLost
  | _ => false

variable {env : Env State Exc Op Op.Result} {α : Type} {p : Hub α} {kind : CloseSite → Bool}
  {g : HubReturned → Bool}

/-- A program that does not call it from places of the kind. -/
theorem bounds_zero (hp : Calls .stop K p) (hK : ∀ site, K site → kind site = false) :
    Bounds env (isReport kind) g 0 p := by
  apply Bounds.of_only hp
  intro x hx
  unfold isReport
  cases hsite : closeSite x.op with
  | none => rfl
  | some site => exact hK site (hx site hsite)

namespace WebsocketTransport

/-- A report is at most one call. -/
theorem bounds_onSocketError (site : CloseSite) :
    Bounds env (isReport kind) g 1 (onSocketError site) := by
  have hend : Calls .stop (fun _ => False) (reportEnd site) := calls_reportEnd _
  have hcall : Bounds env (isReport kind) g 1 (call (.onClose site)) := Bounds.perform _
  have hnone : Bounds env (isReport kind) g 0 (get : Hub State) := fun _ => Nat.zero_le _
  exact (Bounds.bind hnone fun _ => Bounds.bind (Bounds.when hcall) fun _ =>
    bounds_zero hend fun _ hsite => hsite.elim).mono (by omega)

/-- A lost connection was found by a write. -/
theorem owes_transmit (message : Outgoing) :
    Owes env (fun e => e.isConnectionLost = true) isLostWrite (transmit cfg message) := by
  have hws : Owes env (fun e => e.isConnectionLost = true) isLostWrite ws := by
    apply Owes.bind Owes.get
    intro s
    cases s.ws with
    | none => exact Owes.raise (by simp [Exc.isConnectionLost, Exc.isOSError])
    | some app => exact Owes.pure app
  have hencode : Owes env (fun e => e.isConnectionLost = true) isLostWrite
      (ofExcept (cfg.protocol.encode message) : Hub Raw) := by
    apply Owes.ofExcept
    intro e he
    simp [cfg.protocol.encode_error he]
  have hwrite : ∀ app, Owes env (fun e => e.isConnectionLost = true) isLostWrite
      (write app message) := by
    intro app
    apply Owes.bind (Owes.modify _)
    intro _
    apply Owes.reraise
    · exact Owes.perform fun _ _ he => he
    · intro e tr e' tr' h
      simp only [setApp, amid_bind, amid_modify, amid_raise] at h
      cases h
      rfl
  exact Owes.bind hws fun app => Owes.bind hencode fun _ => Owes.bind (hwrite app) fun _ =>
    Owes.bind (Owes.modify _) fun _ => Owes.modify _

/-- A connection that is lost is reported once. -/
theorem bounds_connectionLost (e : Exc) :
    Bounds env (isReport kind) g 1 (connectionLost cfg e) := by
  have hnone : ∀ {α : Type} {p : Hub α}, Calls .stop (fun _ => False) p →
      Bounds env (isReport kind) g 0 p := fun hp => bounds_zero hp fun _ hsite => hsite.elim
  have hcall : Bounds env (isReport kind) g 1 (call (.onClose .lost)) := Bounds.perform _
  have hreport : Bounds env (isReport kind) g 1 (reportLost e) :=
    (Bounds.bind (hnone .get) fun _ => Bounds.bind (Bounds.when hcall) fun _ =>
      Bounds.raise _).mono (by omega)
  have hreconnect : Bounds env (isReport kind) g 1 (handleReconnect cfg) :=
    (hnone calls_handleReconnect).mono (by omega)
  exact (Bounds.bind (hnone calls_modify) fun _ => Bounds.bind (hnone (calls_setState _)) fun _ =>
    Bounds.bind (hnone .get) fun _ => Bounds.ite hreport hreconnect).mono (by omega)

/-- `send` calls `on_close` at most once, and only behind a write that found the connection
lost. -/
theorem bounds_send (message : Outgoing) :
    Bounds env (isReport CloseSite.isLost) (fun _ => false) 1 (send cfg message) ∧
      Bounds env (isReport CloseSite.isLost) isLostWrite 0 (send cfg message) := by
  have htransmit : Bounds env (isReport CloseSite.isLost) (fun _ => false) 0
      (transmit cfg message) := bounds_zero (K := fun _ => False) (calls_transmit message)
        fun _ hsite => hsite.elim
  constructor
  · exact (Bounds.tryCatch htransmit fun e =>
      Bounds.ite (bounds_connectionLost e) ((Bounds.raise e).mono (by omega))).mono (by omega)
  · apply Owes.bounds (owes_transmit message) htransmit
    · intro e he
      rw [if_pos he]
      exact bounds_connectionLost e
    · intro e he
      rw [if_neg he]
      exact Bounds.raise e

/-- An error that is reported raises only what `on_close` does. -/
theorem owes_onSocketError {site : CloseSite} {good : Exc → Prop}
    (hsite : ∀ s e, good e → g ⟨s, .callback (.onClose site), .error e⟩ = true) :
    Owes env good g (onSocketError site) := by
  have hcall : Owes env good g (call (.onClose site)) := Owes.perform hsite
  apply Owes.bind Owes.get
  intro s
  apply Owes.bind (Owes.when hcall)
  intro _
  apply Owes.bind Owes.get
  intro s
  split
  · exact Owes.modify _
  · exact Owes.bind (Owes.modify _) fun _ => Owes.when (Owes.modify _)

/-- The same for the close event. -/
theorem owes_onClosed {app : Nat} {good : Exc → Prop}
    (hsite : ∀ s e, good e → g ⟨s, .callback (.onClose (.closed app)), .error e⟩ = true) :
    Owes env good g (onClosed app) := by
  have hcall : Owes env good g (call (.onClose (.closed app))) := Owes.perform hsite
  have hend : Owes env good g (reportEnd (.closed app)) := by
    apply Owes.bind Owes.get
    intro s
    split
    · exact Owes.modify _
    · exact Owes.bind (Owes.modify _) fun _ => Owes.when (Owes.modify _)
  exact Owes.bind hend fun _ => Owes.bind Owes.get fun _ => Owes.when hcall

/-- A frame of a websocket. -/
theorem calls_onMessage {app : Nat} {raw : Raw} (hrejected : K .rejected) :
    Calls t K (onMessage cfg app raw) := by
  have hreject : Calls t K rejectHandshake :=
    keeps_rejectHandshake calls_modify (calls_onSocketError hrejected) (calls_stop _)
      (calls_setState _)
  have hinterpret : ∀ handshakeReceived, Calls t K (interpret cfg app raw handshakeReceived) :=
    fun _ => Keeps.ite (fun _ => Keeps.bind (keeps_evaluateHandshake fun _ =>
      keeps_judge (calls_acceptHandshake app) hreject) fun _ =>
        Keeps.bind calls_reportOpen fun _ => .pure _) fun _ => .ofExcept _
  exact keeps_onMessage (Keeps.bind .get fun _ => Keeps.bind calls_modify fun _ => hinterpret _)
    fun _ => Connection.calls_onMessage _

/-- It is at most one rejected response. -/
theorem bounds_onMessage {app : Nat} {raw : Raw} :
    Bounds env (isReport CloseSite.isRejected) g 1 (onMessage cfg app raw) := by
  have hnone : ∀ {α : Type} {p : Hub α}, Calls .stop (fun _ => False) p →
      Bounds env (isReport CloseSite.isRejected) g 0 p :=
    fun hp => bounds_zero hp fun _ hsite => hsite.elim
  have hreject : Bounds env (isReport CloseSite.isRejected) g 1 rejectHandshake :=
    (Bounds.bind (hnone calls_modify) fun _ => Bounds.bind (hnone keeps_ws) fun _ =>
      Bounds.bind (bounds_onSocketError .rejected) fun _ => Bounds.bind (hnone (calls_stop _))
        fun _ => hnone (calls_setState _)).mono (by omega)
  have hjudge : ∀ msg, Bounds env (isReport CloseSite.isRejected) g 1 (judge app msg) :=
    fun _ => Bounds.ite ((hnone (calls_acceptHandshake app)).mono (by omega)) hreject
  have hevaluate : Bounds env (isReport CloseSite.isRejected) g 1 (evaluateHandshake cfg app raw) :=
    (Bounds.bind (hnone (.ofExcept _)) fun _ => Bounds.bind (hjudge _) fun _ =>
      Bounds.pure _).mono (by omega)
  have hinterpret : ∀ handshakeReceived, Bounds env (isReport CloseSite.isRejected) g 1
      (interpret cfg app raw handshakeReceived) := fun _ =>
    Bounds.ite ((Bounds.bind hevaluate fun _ => Bounds.bind (hnone calls_reportOpen) fun _ =>
      Bounds.pure _).mono (by omega)) ((hnone (.ofExcept _)).mono (by omega))
  have hreceive : Bounds env (isReport CloseSite.isRejected) g 1 (receive cfg app raw) :=
    (Bounds.bind (hnone .get) fun _ => Bounds.bind (hnone calls_modify) fun _ =>
      hinterpret _).mono (by omega)
  exact (Bounds.bind hreceive fun _ => hnone (Connection.calls_onMessage _)).mono (by omega)

end WebsocketTransport

/-! ## The greenlet of a websocket -/

namespace WebSocketApp

open WebsocketTransport

variable {app : Nat}

/-- What an event leads to: errors that do not end the websocket, rejected responses, and lost
writes. -/
def IsMinor (site : CloseSite) : Prop :=
  site.isClosed = false ∧ site.isFinal = false

theorem calls_handle (event : WsEvent) : Calls t IsMinor (handle cfg app event) := by
  have hcallback : ∀ {p : Hub Unit}, Calls t IsMinor p → Calls t IsMinor (callback app false p) :=
    fun hp => keeps_callback hp (calls_onSocketError ⟨rfl, rfl⟩)
  cases event with
  | opened =>
      exact keeps_handleOpened calls_modify (hcallback (calls_send ⟨rfl, rfl⟩ _))
  | message raw => exact keeps_handleMessage (hcallback (calls_onMessage ⟨rfl, rfl⟩))
  | failed e => exact Keeps.bind calls_modify fun _ => .raise _
  | closed => exact Keeps.bind calls_modify fun _ => .pure _

/-- The callback of a websocket that goes on reports at most one error of its own. -/
theorem bounds_handle_ongoing (s : State) (event : WsEvent) :
    Bounds env (isReport CloseSite.isOngoing) isTaken
      (if isTaken ⟨s, .event app, .ok event⟩ then 1 else 0)
      (handle cfg app event) := by
  have hcallback : ∀ {K : CloseSite → Prop} {p : Hub Unit}, Calls .stop K p →
      (∀ site, K site → site.isOngoing = false) →
        Bounds env (isReport CloseSite.isOngoing) isTaken 1
          (callback app false p) := by
    intro K p hp hK
    exact (Bounds.tryCatch (bounds_zero hp hK) fun e => Bounds.ite (bounds_onSocketError _)
      ((Bounds.raise e).mono (by omega))).mono (by omega)
  have hset : ∀ f, Bounds env (isReport CloseSite.isOngoing) isTaken 0
      (setApp app f) := fun _ => bounds_zero (K := fun _ => False) calls_modify fun _ h => h.elim
  cases event with
  | opened =>
      have hopen : Bounds env (isReport CloseSite.isOngoing) isTaken 1
          (callback app false (onOpen cfg)) := by
        apply hcallback (calls_send (K := (· = .lost)) rfl _)
        rintro site rfl
        rfl
      exact (Bounds.bind (hset _) fun _ => Bounds.bind hopen fun _ => Bounds.pure _).mono
        (by simp [isTaken])
  | message raw =>
      have hmessage : Bounds env (isReport CloseSite.isOngoing)
          isTaken 1 (callback app false (onMessage cfg app raw)) := by
        apply hcallback (calls_onMessage (K := (· = .rejected)) rfl)
        rintro site rfl
        rfl
      exact (Bounds.bind hmessage fun _ => Bounds.pure _).mono (by simp [isTaken])
  | failed e => exact (Bounds.bind (hset _) fun _ => Bounds.raise _).mono (by omega)
  | closed => exact (Bounds.bind (hset _) fun _ => Bounds.pure _).mono (by omega)

/-- A frame is at most one rejected response. -/
theorem bounds_handle_rejected (s : State) (event : WsEvent) :
    Bounds env (isReport CloseSite.isRejected) isFrame
      (if isFrame ⟨s, .event app, .ok event⟩ then 1 else 0) (handle cfg app event) := by
  have herror : ∀ e : Exc, Bounds env (isReport CloseSite.isRejected) isFrame 0
      (if e.isException then onSocketError (.failed app false) else raise e) := fun e =>
    Bounds.ite (bounds_zero (K := (· = .failed app false)) (calls_onSocketError rfl) (by
      rintro site rfl
      rfl)) (Bounds.raise e)
  have hset : ∀ f, Bounds env (isReport CloseSite.isRejected) isFrame 0 (setApp app f) :=
    fun _ => bounds_zero (K := fun _ => False) calls_modify fun _ h => h.elim
  cases event with
  | opened =>
      have hsend : Bounds env (isReport CloseSite.isRejected) isFrame 0 (onOpen cfg) := by
        apply bounds_zero (calls_send (K := (· = .lost)) rfl _)
        rintro site rfl
        rfl
      exact (Bounds.bind (hset _) fun _ => Bounds.bind (Bounds.tryCatch hsend herror) fun _ =>
        Bounds.pure _).mono (by omega)
  | message raw =>
      exact (Bounds.bind (Bounds.tryCatch bounds_onMessage herror) fun _ =>
        Bounds.pure _).mono (by simp [isFrame])
  | failed e => exact (Bounds.bind (hset _) fun _ => Bounds.raise _).mono (by omega)
  | closed => exact (Bounds.bind (hset _) fun _ => Bounds.pure _).mono (by omega)

/-- The exception of a callback that gets one from `on_close` is one more report. -/
theorem bounds_callback {k : Nat} {p : Hub Unit} (howes : Owes env (·.isException = true) isRaised p)
    (hp : Bounds env (isReport kind) (fun _ => false) k p) :
    Bounds env (isReport kind) isRaised k (callback app true p) := by
  apply Owes.bounds howes hp
  · intro e he
    rw [if_pos he]
    exact bounds_onSocketError _
  · intro e he
    rw [if_neg he]
    exact Bounds.raise e

/-- What the error of a websocket that is over leads to. -/
theorem calls_disconnect (e : Exc) : Calls t (· = .failed app true) (disconnect app e) :=
  Keeps.ite (fun _ => Keeps.bind (keeps_callback (calls_onSocketError rfl)
    (calls_onSocketError rfl)) fun _ => .pure _) fun _ => .raise _

/-- It is one report, and another one where `on_close` raises. -/
theorem bounds_disconnect (e : Exc) :
    Bounds env (isReport CloseSite.isFinal) isRaised 1 (disconnect app e) := by
  have howes : Owes env (·.isException = true) isRaised (onSocketError (.failed app true)) :=
    owes_onSocketError fun _ _ he => he
  have hcallback : Bounds env (isReport CloseSite.isFinal) isRaised 1
      (callback app true (onSocketError (.failed app true))) :=
    bounds_callback howes (bounds_onSocketError _)
  exact Bounds.ite ((Bounds.bind hcallback fun _ => Bounds.pure _).mono (by omega))
    ((Bounds.raise e).mono (by omega))

/-- The last thing the greenlet does. -/
theorem calls_teardown :
    Calls t (fun site => site = .closed app ∨ site = .failed app true) (teardown app) :=
  keeps_teardown calls_modify (keeps_callback (calls_onClosed (.inl rfl))
    (calls_onSocketError (.inr rfl))) calls_modify

/-- It does no more than its callback. -/
theorem bounds_teardown {k : Nat}
    (hcallback : Bounds env (isReport kind) g k (callback app true (onClosed app))) :
    Bounds env (isReport kind) g k (teardown app) := by
  have hset : ∀ f, Bounds env (isReport kind) g 0 (setApp app f) :=
    fun _ => bounds_zero (K := fun _ => False) calls_modify fun _ h => h.elim
  have hend : ∀ r : Except Exc Unit, Bounds env (isReport kind) g 0 (ofExcept r : Hub Unit) :=
    fun _ => bounds_zero (K := fun _ => False) (.ofExcept _) fun _ h => h.elim
  exact (Bounds.bind (hset _) fun _ => Bounds.bind hcallback.attempt fun r =>
    Bounds.bind (hset _) fun _ => hend r).mono (by omega)

theorem bounds_teardown_closed : Bounds env (isReport CloseSite.isClosed) g 1 (teardown app) := by
  apply bounds_teardown
  have hclosed : Bounds env (isReport CloseSite.isClosed) g 1 (onClosed app) := by
    have hend : Bounds env (isReport CloseSite.isClosed) g 0 (reportEnd (.closed app)) :=
      bounds_zero (K := fun _ => False) (calls_reportEnd _) fun _ h => h.elim
    have hget : Bounds env (isReport CloseSite.isClosed) g 0 (get : Hub State) :=
      bounds_zero (K := fun _ => False) .get fun _ h => h.elim
    have hcall : Bounds env (isReport CloseSite.isClosed) g 1 (call (.onClose (.closed app))) :=
      Bounds.perform _
    exact (Bounds.bind hend fun _ => Bounds.bind hget fun _ => Bounds.when hcall).mono (by omega)
  have herror : ∀ e : Exc, Bounds env (isReport CloseSite.isClosed) g 0
      (if e.isException then onSocketError (.failed app true) else raise e) := fun e =>
    Bounds.ite (bounds_zero (calls_onSocketError (K := (· = .failed app true)) rfl) (by
      rintro site rfl
      rfl)) (Bounds.raise e)
  exact Bounds.tryCatch hclosed herror

/-- An error behind the close event is one of `on_close`. -/
theorem bounds_teardown_final :
    Bounds env (isReport CloseSite.isFinal) isRaised 0 (teardown app) := by
  apply bounds_teardown
  have howes : Owes env (·.isException = true) isRaised (onClosed app) :=
    owes_onClosed fun _ _ he => he
  have hclosed : Bounds env (isReport CloseSite.isFinal) (fun _ => false) 0 (onClosed app) := by
    apply bounds_zero (calls_onClosed (K := (· = .closed app)) rfl)
    rintro site rfl
    rfl
  exact bounds_callback howes hclosed

/-! ## Rounds -/

/-- How often a program of the greenlet of a websocket calls `on_close`, at most: so many times
for the close event; so many times for an error that ends the websocket, and once more for every
one of these calls that raises; once for every open event or frame whose callback raises; and
once for every frame that is a rejected response. -/
structure Accounted {α : Type} (env : Env State Exc Op Op.Result) (closed final : Nat)
    (p : Hub α) : Prop where
  closed : Bounds env (isReport CloseSite.isClosed) (fun _ => false) closed p
  final : Bounds env (isReport CloseSite.isFinal) isRaised final p
  ongoing : Bounds env (isReport CloseSite.isOngoing) isTaken 0 p
  rejected : Bounds env (isReport CloseSite.isRejected) isFrame 0 p

namespace Accounted

variable {β : Type} {closed final closed' final' : Nat} {q : α → Hub β}

/-- A program that never calls it. -/
theorem none (hp : Calls .stop (fun _ => False) p) : Accounted env 0 0 p :=
  ⟨bounds_zero hp fun _ h => h.elim, bounds_zero hp fun _ h => h.elim,
    bounds_zero hp fun _ h => h.elim, bounds_zero hp fun _ h => h.elim⟩

theorem mono (hp : Accounted env closed final p) (hclosed : closed ≤ closed')
    (hfinal : final ≤ final') : Accounted env closed' final' p :=
  ⟨hp.closed.mono hclosed, hp.final.mono hfinal, hp.ongoing, hp.rejected⟩

theorem bind (hp : Accounted env closed final p) (hq : ∀ a, Accounted env closed' final' (q a)) :
    Accounted env (closed + closed') (final + final') (p >>= q) :=
  ⟨Bounds.bind hp.closed fun a => (hq a).closed, Bounds.bind hp.final fun a => (hq a).final,
    Bounds.bind hp.ongoing fun a => (hq a).ongoing,
    Bounds.bind hp.rejected fun a => (hq a).rejected⟩

theorem ite {c : Prop} [Decidable c] {p' : Hub α} (hp : Accounted env closed final p)
    (hp' : Accounted env closed final p') : Accounted env closed final (if c then p else p') := by
  split
  · exact hp
  · exact hp'

theorem attempt (hp : Accounted env closed final p) : Accounted env closed final p.attempt :=
  ⟨hp.closed.attempt, hp.final.attempt, hp.ongoing.attempt, hp.rejected.attempt⟩

end Accounted

/-- A round that does not end the websocket. -/
theorem calls_event : Calls t IsMinor (nextEvent app >>= handle cfg app) :=
  Keeps.bind (calls_none rfl) calls_handle

theorem round_accounted : Accounted env 0 1 (round cfg app) := by
  have hdisconnect : ∀ {kind g}, kind (.failed app true) = false →
      ∀ e, Bounds env (isReport kind) g 0 (disconnect app e) := by
    intro kind g hkind e
    apply bounds_zero (calls_disconnect e)
    rintro site rfl
    exact hkind
  constructor
  · exact Bounds.tryCatch (bounds_zero calls_event fun site hsite => hsite.1) (hdisconnect rfl)
  · exact (Bounds.tryCatch (bounds_zero calls_event fun site hsite => hsite.2)
      bounds_disconnect).mono (by omega)
  · exact Bounds.tryCatch (Bounds.perform_bind (fun _ _ => rfl) bounds_handle_ongoing)
      (hdisconnect rfl)
  · exact Bounds.tryCatch (Bounds.perform_bind (fun _ _ => rfl) bounds_handle_rejected)
      (hdisconnect rfl)

theorem teardown_accounted : Accounted env 1 0 (teardown app) := by
  have hother : ∀ {kind g}, kind (.closed app) = false → kind (.failed app true) = false →
      Bounds env (isReport kind) g 0 (teardown app) := by
    intro kind g hclosed hfinal
    apply bounds_zero calls_teardown
    rintro site (rfl | rfl)
    · exact hclosed
    · exact hfinal
  exact ⟨bounds_teardown_closed, bounds_teardown_final, hother rfl rfl, hother rfl rfl⟩

/-- What comes behind the rounds of a greenlet. -/
theorem endRound_accounted (r : Except Exc Bool) : Accounted env 1 0 (endRound app r) := by
  have hlast : Accounted env 1 0 (teardown app >>= fun _ => (ofExcept r : Hub Bool)) :=
    Accounted.bind teardown_accounted fun _ => Accounted.none (.ofExcept r)
  rcases r with e | _ | _
  · exact hlast
  · exact hlast
  · exact (Accounted.none (.pure true)).mono (by omega) (by omega)

theorem runForever_accounted : Accounted env 1 1 (runForever cfg app) := by
  have hkilled : Accounted env 1 1 (setApp app (fun a => { a with ended := true }) >>= fun _ =>
      (pure false : Hub Bool)) :=
    (Accounted.bind (.none calls_modify) fun _ => .none (.pure false)).mono (by omega) (by omega)
  have hstarted : Accounted env 1 1 (setApp app (fun a => { a with started := true }) >>= fun _ =>
      (round cfg app).attempt >>= endRound app) :=
    (Accounted.bind (.none calls_modify) fun _ =>
      Accounted.bind round_accounted.attempt endRound_accounted).mono (by omega) (by omega)
  exact (Accounted.bind (.none .get) fun _ => Accounted.ite hkilled hstarted).mono
    (by omega) (by omega)

/-- An error that ends a websocket is not followed by another round. -/
theorem disconnect_last {e : Exc} {again : Bool} {tr tr' : Trace State Exc Op Op.Result Activity}
    (h : (disconnect app e).amid env tr = (.ok again, tr')) : again = false := by
  unfold disconnect at h
  split at h
  · rw [amid_bind] at h
    split at h
    · cases h
      rfl
    · cases h
  · cases h

/-- Neither is the end of a websocket. -/
theorem endRound_again {r : Except Exc Bool} {tr tr' : Trace State Exc Op Op.Result Activity}
    (h : (endRound app r).amid env tr = (.ok true, tr')) : r = .ok true := by
  have hlast : ∀ r : Except Exc Bool,
      (teardown app >>= fun _ => (ofExcept r : Hub Bool)).amid env tr = (.ok true, tr') →
        r = .ok true := by
    intro r hrun
    rw [amid_bind] at hrun
    split at hrun
    · rw [amid_ofExcept] at hrun
      exact congrArg (·.1) hrun
    · cases hrun
  rcases r with e | _ | _
  · exact hlast _ h
  · exact hlast _ h
  · rfl

theorem round_again {tr tr' : Trace State Exc Op Op.Result Activity}
    (h : (round cfg app).amid env tr = (.ok true, tr')) :
    (round cfg app).returns env tr = (nextEvent app >>= handle cfg app).returns env tr := by
  unfold round at h ⊢
  rcases hrun : (nextEvent app >>= handle cfg app).amid env tr with ⟨e | again, mid⟩
  · rw [amid_tryCatch, hrun] at h
    cases disconnect_last h
  · exact returns_tryCatch_ok hrun

/-- A round that is followed by another one calls `on_close` neither for the close event nor
for an error that ends the websocket. -/
theorem runForever_again {tr tr' : Trace State Exc Op Op.Result Activity}
    (h : (runForever cfg app).amid env tr = (.ok true, tr')) :
    ((runForever cfg app).returns env tr).countP (isReport CloseSite.isClosed) = 0 ∧
      ((runForever cfg app).returns env tr).countP (isReport CloseSite.isFinal) = 0 := by
  have hround : ∃ mid, (runForever cfg app).returns env tr =
      (nextEvent app >>= handle cfg app).returns env mid := by
    by_cases hkilled : (tr.state.apps[app]?.any fun a => a.killed && !a.started) = true
    · -- a greenlet that was killed before it started has no other round
      have hend : (runForever cfg app).amid env tr =
          (setApp app (fun a => { a with ended := true }) >>= fun _ =>
            (pure false : Hub Bool)).amid env tr := by
        show (ite _ _ _ : Hub Bool).amid env tr = _
        rw [if_pos hkilled]
      rw [hend] at h
      cases h
    · let mid : Trace State Exc Op Op.Result Activity :=
        ((setApp app fun a => { a with started := true } : Hub Unit).amid env tr).2
      have hamid : (runForever cfg app).amid env tr =
          ((round cfg app).attempt >>= endRound app).amid env mid := by
        show (ite _ _ _ : Hub Bool).amid env tr = _
        rw [if_neg hkilled]
        rfl
      have hreturns : (runForever cfg app).returns env tr =
          ((round cfg app).attempt >>= endRound app).returns env mid := by
        show (ite _ _ _ : Hub Bool).returns env tr = _
        rw [if_neg hkilled]
        rfl
      rw [hamid, amid_bind, amid_attempt] at h
      have hagain := endRound_again h
      have hlast : (endRound app (.ok true)).returns env ((round cfg app).amid env mid).2 = [] := rfl
      refine ⟨mid, ?_⟩
      rw [hreturns, returns_bind_ok (amid_attempt _), returns_attempt, hagain, hlast,
        List.append_nil]
      exact round_again (Prod.ext hagain rfl)
  -- the handlers of a round report minor ends only
  obtain ⟨mid, hmid⟩ := hround
  have hnone : ∀ {kind}, (∀ site, IsMinor site → kind site = false) →
      ((runForever cfg app).returns env tr).countP (isReport kind) = 0 := by
    intro kind hkind
    have hbound : Bounds env (isReport kind) (fun _ => false) 0
        (nextEvent app >>= handle cfg app) := bounds_zero calls_event hkind
    have hcount := hbound mid
    rw [List.countP_false, Function.const_apply] at hcount
    rw [hmid]
    omega
  exact ⟨hnone fun _ h => h.1, hnone fun _ h => h.2⟩

/-! ## The whole life -/

/-- The greenlet of a websocket, for so many rounds. -/
def life (cfg : Config) (app : Nat) : Nat → Hub Unit
  | 0 => pure ()
  | rounds + 1 => do
      let again ← runForever cfg app
      when again (life cfg app rounds)

/-- What a round reports only when it is the last one is reported once. -/
theorem bounds_life {f g : HubReturned → Bool} {k rounds : Nat}
    (hround : Bounds env f g k (runForever cfg app))
    (hagain : ∀ tr tr', (runForever cfg app).amid env tr = (.ok true, tr') →
      ((runForever cfg app).returns env tr).countP f = 0)
    (hrest : Bounds env f g k (life cfg app rounds)) :
    Bounds env f g k (life cfg app (rounds + 1)) := by
  intro tr
  have hfirst := hround tr
  show ((runForever cfg app >>= fun again => when again (life cfg app rounds)).returns
    env tr).countP f ≤ k + ((runForever cfg app >>= fun again =>
      when again (life cfg app rounds)).returns env tr).countP g
  rcases hrun : (runForever cfg app).amid env tr with ⟨e | _ | _, mid⟩
  · rwa [returns_bind_error hrun]
  · have hnone : (when false (life cfg app rounds)).returns env mid = [] := rfl
    rwa [returns_bind_ok hrun, hnone, List.append_nil]
  · have hbehind : (when true (life cfg app rounds)).returns env mid =
        (life cfg app rounds).returns env mid := rfl
    rw [returns_bind_ok hrun, List.countP_append, List.countP_append, hbehind]
    have hzero := hagain tr mid hrun
    have hlater := hrest mid
    omega

theorem life_accounted (rounds : Nat) : Accounted env 1 1 (life cfg app rounds) := by
  induction rounds with
  | zero => exact (Accounted.none (.pure ())).mono (by omega) (by omega)
  | succ rounds ih =>
      have hround : Accounted env 1 1 (runForever cfg app) := runForever_accounted
      have hwhen : ∀ {kind g}, Bounds env (isReport kind) g 0 (life cfg app rounds) →
          ∀ again, Bounds env (isReport kind) g 0 (when again (life cfg app rounds)) :=
        fun hrest _ => Bounds.when hrest
      constructor
      · exact bounds_life hround.closed (fun _ _ h => (runForever_again h).1) ih.closed
      · exact bounds_life hround.final (fun _ _ h => (runForever_again h).2) ih.final
      · exact Bounds.bind hround.ongoing (hwhen ih.ongoing)
      · exact Bounds.bind hround.rejected (hwhen ih.rejected)

end WebSocketApp

/-- The greenlet of a websocket calls `on_close` at most once for the close event, at most once
for an error that ends the websocket and once more for every one of these calls that raises, at
most once for every open event or frame whose callback raises, and at most once for every frame
that is a rejected response; and `send` calls it at most once, only behind a write that found
the connection lost. -/
theorem close_reports (cfg : Config) (env : Env State Exc Op Op.Result) (app : Nat) :
    (∀ rounds, WebSocketApp.Accounted env 1 1 (WebSocketApp.life cfg app rounds)) ∧
      ∀ message,
        Bounds env (isReport CloseSite.isLost) (fun _ => false) 1
            (WebsocketTransport.send cfg message) ∧
          Bounds env (isReport CloseSite.isLost) isLostWrite 0
            (WebsocketTransport.send cfg message) :=
  ⟨WebSocketApp.life_accounted, WebsocketTransport.bounds_send⟩

/-- A websocket that fails is reported twice: as an error, and as closed. -/
theorem closed_behind_error :
    ∃ w, (hub (.direct none)).Reach .any w ∧
      w.ended.map (fun e => (e.thread, e.history.filterMap fun a => closeSite a.op)) =
        [(.start, []), (.onClose true, []), (.runForever 0, [.failed 0 true, .closed 0])] := by
  have h := (hub (.direct none)).reach_after [.fork .start, .start 0, .fork (.onClose true),
    .start 2, .start 1, .answer 1 (.happened (.failed .osError)), .answer 1 .done,
    .answer 1 .done] .start rfl
  exact ⟨_, h, rfl⟩

end GeventSignalR
