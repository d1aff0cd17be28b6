import GeventSignalR.Coop.Logic
import GeventSignalR.Hub.System

/-!
# Invariants of the methods

How an invariant of a method follows from the invariants of what it calls.  There is
one lemma for each method; a proof about runs supplies what its own invariant needs
at the leaves and takes the rest from here.
-/

namespace GeventSignalR

open Coop Coop.Prog

/-- What a proof about a connection assumes. -/
abbrev HubRely : Type :=
  Rely State Exc Op Op.Result Activity

/-- A property of the shared state and the positions of the other threads. -/
abbrev HubInv : Type :=
  State → Multiset (Label Op Activity) → Prop

variable {R : HubRely} {I : HubInv} {cfg : Config}

theorem keeps_elim {α β : Type} {o : Option α} {p : Hub β} {f : α → Hub β} (hp : Keeps R I p)
    (hf : ∀ a, Keeps R I (f a)) : Keeps R I (o.elim p f) := by
  cases o with
  | none => exact hp
  | some a => exact hf a

/-- A body that runs once ends where its program does. -/
theorem wp_once {p : Hub Unit} {s : State} {P : Multiset (Label Op Activity)}
    {h : List (Logged State Exc Op Op.Result)} (hp : p.wp R (fun _ s P _ => I s P) s P h) :
    (Hub.once p).wp R (fun _ s P _ => I s P) s P h := by
  unfold Hub.once
  rw [wp_bind]
  refine wp_mono ?_ hp
  rintro (e | _) s P h hI <;> exact hI

theorem keeps_once {p : Hub Unit} (hp : Keeps R I p) : Keeps R I (Hub.once p) :=
  fun s P h hI => wp_once (hp s P h hI)

/-- The websockets after a change of one of them. -/
theorem getElem?_modify_some {apps : List App} {app app' : Nat} {f : App → App} {a' : App}
    (h : (apps.modify app f)[app']? = some a') :
    ∃ a, apps[app']? = some a ∧ a' = if app = app' then f a else a := by
  rw [List.getElem?_modify] at h
  cases hget : apps[app']? with
  | none => simp [hget] at h
  | some a =>
      refine ⟨a, rfl, ?_⟩
      rw [hget] at h
      split_ifs with happ
      · simpa [happ] using h.symm
      · simpa [happ] using h.symm

/-- A change of a websocket is not seen by what reads something else of it. -/
theorem map_modify {α : Type} {apps : List App} {app : Nat} {f : App → App} {g : App → α}
    (hf : ∀ a, g (f a) = g a) : (apps.modify app f).map g = apps.map g := by
  ext1 other
  rw [List.getElem?_map, List.getElem?_map, List.getElem?_modify]
  cases apps[other]? with
  | none => rfl
  | some a =>
      by_cases happ : app = other
      · simp [happ, hf]
      · simp [happ]

/-! ## The transport -/

namespace WebsocketTransport

theorem keeps_ws : Keeps R I ws :=
  Keeps.bind .get fun _ => keeps_elim (.raise _) .pure

theorem keeps_reconnectionHandler : Keeps R I reconnectionHandler :=
  Keeps.bind .get fun _ => keeps_elim (.raise _) .pure

/-- Only becoming connected is more than an assignment. -/
theorem setState_disconnected :
    setState .disconnected = (modify fun s => { s with
      state := .disconnected, history := { s.history with ownState := .disconnected } } :
        Hub Unit) := rfl

theorem setState_connecting :
    setState .connecting = (modify fun s => { s with
      state := .connecting, history := { s.history with ownState := .connecting } } :
        Hub Unit) := rfl

theorem keeps_closeWs {site : StopSite}
    (hclosing : ∀ app, Keeps R I (setApp app fun a => { a with closing := true }))
    (hclose : ∀ app, Keeps R I (perform (Op.wsClose app site)))
    (hclosed : ∀ app, Keeps R I (setApp app fun a => { a with closed := true })) :
    Keeps R I (closeWs site) :=
  Keeps.bind .get fun _ => keeps_elim (.pure _) fun app =>
    Keeps.bind (hclosing app) fun _ => Keeps.bind (hclose app) fun _ => hclosed app

theorem keeps_stop {site : StopSite} (hchecker : Keeps R I ConnectionStateChecker.stop)
    (hclose : Keeps R I (closeWs site)) (hstate : Keeps R I (setState .disconnected))
    (hhandshake : Keeps R I (setHandshakeReceived false)) : Keeps R I (stop site) :=
  Keeps.bind .get fun _ => Keeps.when fun _ => Keeps.bind hchecker fun _ =>
    Keeps.bind hclose fun _ => Keeps.bind hstate fun _ => hhandshake

/-- A transport that is not connected does not stop. -/
theorem wp_stop_of_ne {site : StopSite} {Q : Post State Exc Op Op.Result Activity Unit} {s : State}
    {P : Multiset (Label Op Activity)} {h : List (Logged State Exc Op Op.Result)}
    (hs : s.state ≠ .connected) (hQ : Q (.ok ()) s P h) : (stop site).wp R Q s P h := by
  unfold stop
  simpa [hs] using hQ

theorem keeps_negotiate (hpost : ∀ url headers, Keeps R I (post url headers))
    (hset : ∀ url headers, Keeps R I (modify fun s =>
      { s with
        url
        headers := Option.getD headers s.headers
        oldHeaders := replaced s headers } : Hub Unit)) :
    Keeps R I (negotiate cfg) :=
  Keeps.bind .get fun _ => Keeps.bind (hpost _ _) fun _ => Keeps.bind .get fun _ =>
    Keeps.bind (.ofExcept _) fun _ => hset _ _

theorem keeps_start (hnegotiate : Keeps R I (negotiate cfg))
    (hstate : Keeps R I (setState .connecting)) (hcreate : Keeps R I createApp) :
    Keeps R I (start cfg) :=
  Keeps.bind (Keeps.when fun _ => hnegotiate) fun _ => Keeps.bind .get fun _ =>
    Keeps.when fun _ => Keeps.bind hstate fun _ => hcreate

theorem keeps_reportEnd {site : CloseSite}
    (hlate : Keeps R I (modify fun s => { s with state := .disconnected } : Hub Unit))
    (hstate : Keeps R I (setState .disconnected)) : Keeps R I (reportEnd site) :=
  Keeps.bind .get fun _ => Keeps.ite (fun _ => hlate) fun _ => hstate

theorem keeps_onClosed {app : Nat} (hend : Keeps R I (reportEnd (.closed app)))
    (hcall : Keeps R I (call (.onClose (.closed app)))) : Keeps R I (onClosed app) :=
  Keeps.bind hend fun _ => Keeps.bind .get fun _ => Keeps.when fun _ => hcall

theorem keeps_onSocketError {site : CloseSite} (hend : Keeps R I (reportEnd site))
    (hcall : Keeps R I (call (.onClose site))) : Keeps R I (onSocketError site) :=
  Keeps.bind .get fun _ => Keeps.bind (Keeps.when fun _ => hcall) fun _ => hend

theorem keeps_handshakeDone (hhandler : ∀ f, Keeps R I (setHandler f))
    (hchecker : Keeps R I ConnectionStateChecker.start) : Keeps R I handshakeDone :=
  Keeps.bind .get fun _ => Keeps.when fun _ => Keeps.bind (hhandler _) fun _ =>
    Keeps.when fun _ => hchecker

theorem keeps_rejectHandshake
    (hrejected : Keeps R I (record fun h => { h with established := false }))
    (herror : Keeps R I (onSocketError .rejected))
    (hstop : Keeps R I (stop .rejected)) (hstate : Keeps R I (setState .disconnected)) :
    Keeps R I rejectHandshake :=
  Keeps.bind hrejected fun _ => Keeps.bind keeps_ws fun _ => Keeps.bind herror fun _ =>
    Keeps.bind hstop fun _ => hstate

theorem keeps_judge {app : Nat} {msg : HandshakeResponseMessage}
    (haccept : Keeps R I (acceptHandshake app)) (hreject : Keeps R I rejectHandshake) :
    Keeps R I (judge app msg) :=
  Keeps.ite (fun _ => haccept) fun _ => hreject

theorem keeps_evaluateHandshake {app : Nat} {raw : Raw}
    (hjudge : ∀ msg, Keeps R I (judge app msg)) : Keeps R I (evaluateHandshake cfg app raw) :=
  Keeps.bind (.ofExcept _) fun _ => Keeps.bind (hjudge _) fun _ => .pure _

end WebsocketTransport

namespace Connection

theorem keeps_refreshTokenMaybe {site : AuthSite} (hauth : Keeps R I (authFunction site))
    (htoken : ∀ token, Keeps R I (setToken token)) : Keeps R I (refreshTokenMaybe cfg site) :=
  Keeps.when fun _ => Keeps.bind hauth fun _ => keeps_elim (.pure _) htoken

theorem keeps_start (hrefresh : Keeps R I (refreshTokenMaybe cfg .start))
    (hstart : Keeps R I (WebsocketTransport.start cfg)) : Keeps R I (start cfg) :=
  Keeps.bind hrefresh fun _ => hstart

end Connection

namespace WebsocketTransport

theorem keeps_setReconnecting {value : Bool} (hhandler : ∀ f, Keeps R I (setHandler f)) :
    Keeps R I (setReconnecting value) :=
  Keeps.bind keeps_reconnectionHandler fun _ => hhandler _

theorem keeps_nextSleepTime (hhandler : ∀ f, Keeps R I (setHandler f))
    (hexhausted : ∀ b, Keeps R I (record fun h => { h with exhausted := h.exhausted || b })) :
    Keeps R I nextSleepTime :=
  Keeps.bind keeps_reconnectionHandler fun _ => Keeps.bind (hhandler _) fun _ =>
    Keeps.bind (hexhausted _) fun _ => .ofExcept _

theorem keeps_killApp {app : Nat}
    (hintervene : ∀ i, Keeps R I (record fun h => { h with interventions := i }))
    (hkilled : Keeps R I (setApp app fun a => { a with killed := true })) :
    Keeps R I (killApp app) :=
  Keeps.bind .get fun _ => Keeps.bind (hintervene _) fun _ => hkilled

theorem keeps_killGreenlet (hkilled : ∀ app, Keeps R I (killApp app))
    (hkill : ∀ app, Keeps R I (perform (Op.kill app))) : Keeps R I killGreenlet :=
  Keeps.bind .get fun _ => keeps_elim (.raise _) fun app =>
    Keeps.bind (hkilled app) fun _ => hkill app

theorem keeps_stopLost (hstop : Keeps R I (stop .reconnect))
    (hstate : Keeps R I (setState .disconnected)) : Keeps R I stopLost :=
  Keeps.tryCatch hstop fun _ => Keeps.ite (fun _ => hstate) fun _ => .raise _

theorem keeps_reconnect (hstop : Keeps R I stopLost) (hkill : Keeps R I killGreenlet)
    (hhandshake : Keeps R I (setHandshakeReceived false))
    (hrestart : Keeps R I (record fun h => { h with restarts := h.restarts ++ [h.accepted.length] }))
    (hstart : Keeps R I (Connection.start cfg)) : Keeps R I (reconnect cfg) :=
  Keeps.bind hstop fun _ => Keeps.bind hkill fun _ => Keeps.bind hhandshake fun _ =>
    Keeps.bind hrestart fun _ => hstart

theorem keeps_deferReconnect {e : Exc} (hnext : Keeps R I nextSleepTime)
    (hfork : ∀ t, Keeps R I (fork (.deferredReconnect t) : Hub Unit)) : Keeps R I (deferReconnect e) :=
  Keeps.ite (fun _ => Keeps.bind hnext fun _ => hfork _) fun _ => .raise _

theorem keeps_reportReconnect
    (hreconnects : Keeps R I (record fun h =>
      { h with reconnects := h.reconnects ++ [⟨h.accepted.length, h.acceptedOpen, h.opens⟩] }))
    (hcall : Keeps R I (call .onReconnect)) : Keeps R I reportReconnect :=
  Keeps.bind hreconnects fun _ => hcall

theorem keeps_handleReconnect (hreport : Keeps R I reportReconnect)
    (hset : Keeps R I (setReconnecting true)) (hreconnect : Keeps R I (reconnect cfg))
    (hdefer : ∀ e, Keeps R I (deferReconnect e)) : Keeps R I (handleReconnect cfg) :=
  Keeps.bind keeps_reconnectionHandler fun _ => Keeps.bind .get fun _ =>
    Keeps.bind (Keeps.when fun _ => hreport) fun _ => Keeps.bind hset
      fun _ => Keeps.tryCatch hreconnect hdefer

/-- What a write records of its websocket, once it has ended. -/
abbrev setLost (app : Nat) (lost : Bool) : Hub Unit :=
  setApp app fun a => { a with lost := a.lost || lost }

theorem keeps_write {app : Nat} {message : Outgoing}
    (hhanded : Keeps R I (record fun h =>
      { h with handed := h.handed ++ [⟨app, message, h.accepted.contains app⟩] }))
    (hsend : Keeps R I (perform (Op.wsSend app message))) (hlost : ∀ b, Keeps R I (setLost app b)) :
    Keeps R I (write app message) :=
  Keeps.bind hhanded fun _ => Keeps.tryCatch hsend fun _ => Keeps.bind (hlost _) fun _ => .raise _

theorem keeps_transmit {message : Outgoing} (hwrite : ∀ app, Keeps R I (write app message))
    (hlast : Keeps R I (modify fun s => { s with lastMessage := s.now } : Hub Unit))
    (hhandler : ∀ f, Keeps R I (setHandler f)) : Keeps R I (transmit cfg message) :=
  Keeps.bind keeps_ws fun app => Keeps.bind (.ofExcept _) fun _ => Keeps.bind (hwrite app)
    fun _ => Keeps.bind hlast fun _ => hhandler _

theorem keeps_reportLost {e : Exc} (hcall : Keeps R I (call (.onClose .lost))) :
    Keeps R I (reportLost e) :=
  Keeps.bind .get fun _ => Keeps.bind (Keeps.when fun _ => hcall) fun _ => .raise _

theorem keeps_connectionLost {e : Exc} (hhandshake : Keeps R I (setHandshakeReceived false))
    (hstate : Keeps R I (setState .disconnected)) (hcall : Keeps R I (call (.onClose .lost)))
    (hreconnect : Keeps R I (handleReconnect cfg)) : Keeps R I (connectionLost cfg e) :=
  Keeps.bind hhandshake fun _ => Keeps.bind hstate fun _ => Keeps.bind .get fun _ =>
    Keeps.ite (fun _ => keeps_reportLost hcall) fun _ => hreconnect

theorem keeps_send {message : Outgoing} (htransmit : Keeps R I (transmit cfg message))
    (hlost : ∀ e, Keeps R I (connectionLost cfg e)) : Keeps R I (send cfg message) :=
  Keeps.tryCatch htransmit fun e => Keeps.ite (fun _ => hlost e) fun _ => .raise _

/-- A send, where a write that is refused as a lost connection leaves a property of its
own. -/
theorem keeps_send_of_lost {J : HubInv} {message : Outgoing}
    (hhanded : ∀ app, Keeps R I (record fun h =>
      { h with handed := h.handed ++ [⟨app, message, h.accepted.contains app⟩] }))
    (hsend : ∀ app, Keeps R I (perform (Op.wsSend app message)))
    (hset : ∀ app b, Keeps R I (setLost app b))
    (hlost : ∀ app s P e, R.inv s (.blocked R.me (.wsSend app message) ::ₘ P) →
      R.resume s P (.wsSend app message) (.error e) → e.isConnectionLost = true →
        J { s with apps := s.apps.modify app fun a => { a with lost := true } } P)
    (hlast : Keeps R I (modify fun s => { s with lastMessage := s.now } : Hub Unit))
    (hhandler : ∀ f, Keeps R I (setHandler f))
    (hconnection : ∀ e, Leads R J I (connectionLost cfg e)) : Keeps R I (send cfg message) := by
  -- `J` holds where the write has lost the connection, which is where `send` goes on
  have htransmit : ∀ s P h, I s P → (transmit cfg message).wp R (fun r s P _ =>
      match r with
      | .ok _ => I s P
      | .error e => if e.isConnectionLost then J s P else I s P) s P h := by
    intro s P h hI
    unfold transmit ws write
    simp only [wp_bind, wp_get]
    cases s.ws with
    | none => exact hI
    | some app =>
        simp only [Option.elim_some, wp_pure, wp_ofExcept]
        cases hraw : cfg.protocol.encode message with
        | error e => simpa [cfg.protocol.encode_error hraw] using hI
        | ok raw =>
            have hhandedI := (hhanded app).apply hI
            simp only [record, wp_bind, wp_modify, wp_tryCatch]
            rw [wp_perform]
            refine ⟨(wp_perform.mp (hsend app _ P h hhandedI)).1, ?_⟩
            intro s' P' r hinv hresume
            have hkept := (wp_perform.mp (hsend app _ P h hhandedI)).2 s' P' r hinv hresume
            cases r with
            | error e =>
                simp only [setApp, wp_modify, wp_raise]
                by_cases he : e.isConnectionLost = true
                · simpa [he] using hlost app s' P' e hinv hresume he
                · simpa [he] using (hset app false).apply hkept
            | ok _ => exact (hhandler _).apply (hlast.apply hkept)
  intro s P h hI
  unfold send
  rw [wp_tryCatch]
  refine wp_mono ?_ (htransmit s P h hI)
  rintro (e | _) s P h hpost
  · by_cases he : e.isConnectionLost = true
    · simp only [he, if_true] at hpost ⊢
      exact hconnection e s P h hpost
    · simp only [he] at hpost ⊢
      exact hpost
  · exact hpost

theorem keeps_deferredReconnect {sleepTime : Int} (hsleep : Keeps R I (sleep sleepTime))
    (hsend : Keeps R I (send cfg (.hub .ping))) (hhandler : ∀ f, Keeps R I (setHandler f))
    (halive : Keeps R I (modify fun s => { s with connectionAlive := false } : Hub Unit)) :
    Keeps R I (deferredReconnect cfg sleepTime) :=
  Keeps.tryCatch (Keeps.bind hsleep fun _ => Keeps.bind .get fun _ => Keeps.when fun _ => hsend)
    fun _ => Keeps.ite (fun _ => Keeps.bind (keeps_setReconnecting hhandler) fun _ => halive)
      fun _ => .raise _

end WebsocketTransport

theorem ConnectionStateChecker.keeps_run (hsleep : Keeps R I (sleep 1))
    (hsend : Keeps R I (WebsocketTransport.send cfg (.hub .ping))) :
    Keeps R I (ConnectionStateChecker.run cfg) :=
  Keeps.bind .get fun _ => Keeps.ite (fun _ => Keeps.bind (Keeps.bind hsleep fun _ =>
    Keeps.bind .get fun _ => Keeps.when fun _ => hsend) fun _ => .pure _) fun _ => .pure _

/-! ## The connection -/

/-- A ping, which only the package itself sends. -/
def Outgoing.isPing : Outgoing → Bool
  | .hub .ping => true
  | _ => false

/-- The thread is a loop of the connection checker, or a deferred reconnect. -/
def isPinging : Activity → Bool
  | .checkerRun | .deferredReconnect _ => true
  | _ => false

namespace Connection

/-- What every call of a handler's callback does. -/
structure KeepsCalls (R : HubRely) (I : HubInv) : Prop where
  record : ∀ c, Keeps R I (record fun h => { h with calls := h.calls ++ [c] })
  call : ∀ callback c, Keeps R I (call (.handler callback c))

theorem keeps_apply {f : Function} {handlerCall : HandlerCall} (hcalls : KeepsCalls R I) :
    Keeps R I (f.apply handlerCall) := by
  refine Keeps.bind (hcalls.record _) fun _ => ?_
  cases f with
  | default => exact .pure _
  | user callback => exact hcalls.call callback _
  | notCallable => exact .raise _

theorem keeps_streamCallback {object : Nat} {member : StreamHandler → Function} :
    Keeps R I (streamCallback object member) :=
  Keeps.bind .get fun _ => keeps_elim (.raise _) fun _ => .pure _

theorem keeps_callNext {item : Value} {handler : Handler} (hcalls : KeepsCalls R I) :
    Keeps R I (callNext item handler) := by
  cases handler with
  | stream object _ => exact Keeps.bind keeps_streamCallback fun _ => keeps_apply hcalls
  | invocation _ callback => exact .raise _

theorem keeps_callComplete {message : Message} {handler : Handler} (hcalls : KeepsCalls R I) :
    Keeps R I (callComplete message handler) := by
  cases handler with
  | stream object _ => exact Keeps.bind keeps_streamCallback fun _ => keeps_apply hcalls
  | invocation _ callback => exact keeps_apply hcalls

theorem keeps_callError {message : Message} {handler : Handler} (hcalls : KeepsCalls R I) :
    Keeps R I (callError message handler) := by
  cases handler with
  | stream object _ => exact Keeps.bind keeps_streamCallback fun _ => keeps_apply hcalls
  | invocation _ callback => exact .raise _

/-- What dispatching a message does besides calling the callbacks of `on`. -/
structure KeepsDispatch (R : HubRely) (I : HubInv) : Prop where
  calls : KeepsCalls R I
  dispatched : ∀ message,
    Keeps R I (GeventSignalR.record fun h => { h with table := h.table ++ [.dispatched message] })
  unregister : ∀ invocationId, Keeps R I (unregister invocationId)
  event : ∀ callback arguments, Keeps R I (call (.event callback arguments))
  error : ∀ message, Keeps R I (call (.onError message))

theorem keeps_selectHandlers {message : Message} {select : Handler → Bool}
    (hdispatch : KeepsDispatch R I) : Keeps R I (selectHandlers message select) :=
  Keeps.bind (hdispatch.dispatched message) fun _ => Keeps.bind .get fun _ => .pure _

theorem keeps_reportError {message : Message} {error : Value} (hdispatch : KeepsDispatch R I) :
    Keeps R I (reportError message error) :=
  Keeps.when fun _ => Keeps.bind (.ofExcept _) fun _ => Keeps.bind .get fun _ =>
    Keeps.when fun _ => hdispatch.error message

theorem keeps_dispatch {message : Message} (hdispatch : KeepsDispatch R I) :
    Keeps R I (dispatch message) := by
  cases message with
  | invocation headers invocationId target arguments =>
      exact Keeps.bind .get fun _ => Keeps.each fun handler _ => hdispatch.event _ _
  | completion headers invocationId result error =>
      exact Keeps.bind (keeps_reportError hdispatch) fun _ =>
        Keeps.bind (keeps_selectHandlers hdispatch) fun _ =>
          Keeps.bind (Keeps.each fun _ _ => keeps_callComplete hdispatch.calls) fun _ =>
            hdispatch.unregister _
  | streamItem headers invocationId item =>
      exact Keeps.bind (keeps_selectHandlers hdispatch) fun _ =>
        Keeps.each fun _ _ => keeps_callNext hdispatch.calls
  | cancelInvocation headers invocationId =>
      exact Keeps.bind (keeps_selectHandlers hdispatch) fun _ =>
        Keeps.bind (Keeps.each fun _ _ => keeps_callError hdispatch.calls) fun _ =>
          hdispatch.unregister _
  | invocationClientStream => exact .pure _
  | completionClientStream => exact .pure _
  | streamInvocation => exact .pure _
  | ping => exact .pure _
  | close => exact .pure _

theorem keeps_onMessage {messages : List Message} (hdispatch : ∀ message, Keeps R I (dispatch message))
    (hstop : Keeps R I (stop .closeMessage)) : Keeps R I (onMessage messages) := by
  induction messages with
  | nil => exact .pure _
  | cons message messages ih =>
      cases message with
      | close error => exact hstop
      | _ => exact Keeps.bind (hdispatch _) fun _ => ih

/-- What registering a handler does. -/
theorem keeps_register {handler : Handler}
    (hrecord : Keeps R I (record fun h => { h with table := h.table ++ [.registered handler] }))
    (happend : Keeps R I (modify fun s =>
      { s with streamHandlers := s.streamHandlers ++ [handler] } : Hub Unit)) :
    Keeps R I (register handler) :=
  Keeps.bind hrecord fun _ => happend

end Connection

namespace Subject

theorem keeps_object {subject : Nat} : Keeps R I (object subject) :=
  Keeps.bind .get fun _ => keeps_elim (.raise _) .pure

theorem keeps_connection {subject : Nat} : Keeps R I (connection subject) :=
  Keeps.bind keeps_object fun _ => Keeps.when fun _ => .raise _

theorem keeps_takeLock {subject : Nat} (hset : ∀ f, Keeps R I (set subject f))
    (hturns : ∀ f : State → List Turn, Keeps R I (modify fun s =>
      { s with history := { s.history with turns := f s } } : Hub Unit)) :
    Keeps R I (takeLock subject) :=
  Keeps.bind (hset _) fun _ => hturns _

theorem keeps_withLock {subject : Nat} {p : Hub Unit}
    (hacquire : Keeps R I (perform (Op.acquire subject)))
    (htake : Keeps R I (takeLock subject)) (hset : ∀ f, Keeps R I (set subject f))
    (hp : Keeps R I p) : Keeps R I (withLock subject p) :=
  Keeps.bind keeps_object fun _ => Keeps.bind (Keeps.when fun _ => hacquire) fun _ =>
    Keeps.bind htake fun _ => Keeps.finally_ hp (hset _)

/-- What the methods of a subject do. -/
structure KeepsSubject (R : HubRely) (I : HubInv) (cfg : Config) : Prop where
  acquire : ∀ subject, Keeps R I (perform (Op.acquire subject))
  set : ∀ subject f, Keeps R I (set subject f)
  turns : ∀ f : State → List Turn, Keeps R I (modify fun s =>
    { s with history := { s.history with turns := f s } } : Hub Unit)
  streamed : ∀ f : History → List (Nat × Message), Keeps R I (record fun h =>
    { h with streamed := f h })
  send : ∀ message, Outgoing.isPing (.hub message) = false →
    Keeps R I (WebsocketTransport.send cfg (.hub message))

namespace KeepsSubject

/-- A message that a subject sends while it holds the lock. -/
theorem locked (hsubject : KeepsSubject R I cfg) {subject : Nat} {message : Subject → Message}
    (hping : ∀ object, Outgoing.isPing (.hub (message object)) = false) :
    Keeps R I (withLock subject do
      connection subject
      let object ← object subject
      Subject.send cfg subject (message object)) :=
  keeps_withLock (hsubject.acquire _) (keeps_takeLock (hsubject.set _) hsubject.turns)
    (hsubject.set _) (Keeps.bind keeps_connection fun _ => Keeps.bind keeps_object fun object =>
      Keeps.bind (hsubject.streamed _) fun _ => hsubject.send _ (hping object))

theorem next (hsubject : KeepsSubject R I cfg) {subject : Nat} {item : Value} :
    Keeps R I (Subject.next cfg subject item) :=
  hsubject.locked fun _ => rfl

theorem start (hsubject : KeepsSubject R I cfg) {subject : Nat} :
    Keeps R I (Subject.start cfg subject) :=
  hsubject.locked fun _ => rfl

theorem complete (hsubject : KeepsSubject R I cfg) {subject : Nat} :
    Keeps R I (Subject.complete cfg subject) :=
  hsubject.locked fun _ => rfl

end KeepsSubject

end Subject

namespace Connection

theorem keeps_send {method : Value} {arguments : Arguments} {onInvocation : Option Nat}
    {invocationId : Option String} {uuid : String}
    (hids : Keeps R I (record fun h => { h with ids := h.ids ++ [invocationId.getD uuid] }))
    (hrefresh : Keeps R I (refreshTokenMaybe cfg .send))
    (hlist : ∀ items, arguments = .list items →
      Keeps R I (sendList cfg method items onInvocation (invocationId.getD uuid)))
    (hsubject : ∀ subject, arguments = .subject subject →
      Keeps R I (sendSubject cfg method subject)) :
    Keeps R I (send cfg method arguments onInvocation invocationId uuid) := by
  refine Keeps.bind hids fun _ => Keeps.bind .get fun _ => Keeps.bind (Keeps.when fun _ =>
    .raise _) fun _ => Keeps.bind (Keeps.when fun _ => .raise _) fun _ =>
      Keeps.bind hrefresh fun _ => ?_
  cases arguments with
  | list items => exact hlist items rfl
  | subject subject => exact hsubject subject rfl
  | other => exact .pure _

theorem keeps_sendList {method : Value} {items : List Value} {onInvocation : Option Nat}
    {invocationId : String} (hregister : ∀ handler, Keeps R I (register handler))
    (hsend : ∀ message, Outgoing.isPing (.hub message) = false →
      Keeps R I (WebsocketTransport.send cfg (.hub message))) :
    Keeps R I (sendList cfg method items onInvocation invocationId) :=
  Keeps.bind .get fun _ => Keeps.bind (keeps_elim (.pure _) fun _ => hregister _) fun _ =>
    hsend _ rfl

theorem keeps_stream {event uuid : String} {eventParams : Value}
    (hids : Keeps R I (record fun h => { h with ids := h.ids ++ [uuid] }))
    (hstreams : Keeps R I (modify fun s =>
      { s with streams := s.streams ++ [StreamHandler.new event uuid] } : Hub Unit))
    (hregister : ∀ handler, Keeps R I (register handler))
    (hsend : ∀ message, Outgoing.isPing (.hub message) = false →
      Keeps R I (WebsocketTransport.send cfg (.hub message))) :
    Keeps R I (stream cfg event eventParams uuid) :=
  Keeps.bind hids fun _ => Keeps.bind .get fun _ => Keeps.bind hstreams fun _ =>
    Keeps.bind (hregister _) fun _ => hsend _ rfl

end Connection

theorem StreamHandler.keeps_subscribeObject {object : Nat} {callbacks : SubscribeCallback}
    (hset : ∀ handler, Keeps R I (modify fun s =>
      { s with streams := s.streams.set object handler } : Hub Unit)) :
    Keeps R I (subscribeObject object callbacks) :=
  Keeps.bind .get fun _ => keeps_elim (.raise _) fun _ => Keeps.bind (.ofExcept _) fun _ => hset _

/-! ## Websockets -/

namespace WebsocketTransport

theorem keeps_reportOpen (hstate : Keeps R I (setState .connected))
    (hopens : Keeps R I (record fun h => { h with opens := h.opens + 1 }))
    (hcall : Keeps R I (call .onOpen)) : Keeps R I reportOpen :=
  Keeps.bind .get fun _ => Keeps.when fun _ => Keeps.bind hstate fun _ =>
    Keeps.bind hopens fun _ => hcall

/-- What a frame leads to, depending on whether the handshake was received, and whether the
frame is a handshake response.  The evaluation may leave something due to `reportOpen`. -/
theorem wp_receive_due {J : HubInv} {app : Nat} {raw : Raw} {s : State}
    {P : Multiset (Label Op Activity)} {h : List (Logged State Exc Op Op.Result)} {s' : State}
    (hs' : s' = { s with history := { s.history with
      received := s.history.received ++ [(app, s.handshakeReceived, s.state)] } })
    (hplain : I s' P)
    (hjudge : s.handshakeReceived = false → ∀ response,
      cfg.protocol.decodeHandshake raw = .ok response →
        (judge app response.1).wp R (fun r s P _ =>
          match r with
          | .ok _ => J s P
          | .error _ => I s P) s' P h)
    (hopen : Leads R J I reportOpen) :
    (receive cfg app raw).wp R (fun _ s P _ => I s P) s P h := by
  subst hs'
  unfold receive record interpret
  simp only [wp_bind, wp_get, wp_modify]
  cases hreceived : s.handshakeReceived with
  | true =>
      simp only [Bool.not_true, Bool.false_eq_true, if_false, wp_ofExcept]
      simpa [hreceived] using hplain
  | false =>
      simp only [Bool.not_false, if_true, evaluateHandshake, wp_bind, wp_ofExcept]
      cases hdecode : cfg.protocol.decodeHandshake raw with
      | error e => simpa [hreceived] using hplain
      | ok response =>
          have hwp := hjudge hreceived response hdecode
          rw [hreceived] at hwp
          refine wp_mono ?_ hwp
          rintro (e | _) s P h hpost
          · exact hpost
          · have hend := Leads.bind_keeps hopen (fun _ => Keeps.pure response.2) s P h hpost
            rw [wp_bind] at hend
            exact hend

theorem wp_receive {app : Nat} {raw : Raw} {s : State} {P : Multiset (Label Op Activity)}
    {h : List (Logged State Exc Op Op.Result)} {s' : State}
    (hs' : s' = { s with history := { s.history with
      received := s.history.received ++ [(app, s.handshakeReceived, s.state)] } })
    (hplain : I s' P)
    (hjudge : s.handshakeReceived = false → ∀ response,
      cfg.protocol.decodeHandshake raw = .ok response →
        (judge app response.1).wp R (fun _ s P _ => I s P) s' P h)
    (hopen : Keeps R I reportOpen) :
    (receive cfg app raw).wp R (fun _ s P _ => I s P) s P h := by
  refine wp_receive_due (J := I) hs' hplain (fun hreceived response hdecode => ?_) hopen
  refine wp_mono ?_ (hjudge hreceived response hdecode)
  rintro (e | _) s P h hI <;> exact hI

theorem keeps_onMessage {app : Nat} {raw : Raw} (hreceive : Keeps R I (receive cfg app raw))
    (hmessages : ∀ messages, Keeps R I (Connection.onMessage messages)) :
    Keeps R I (onMessage cfg app raw) :=
  Keeps.bind hreceive fun _ => hmessages _

end WebsocketTransport

namespace WebSocketApp

theorem keeps_callback {app : Nat} {isOver : Bool} {p : Hub Unit} (hp : Keeps R I p)
    (herror : Keeps R I (WebsocketTransport.onSocketError (.failed app isOver))) :
    Keeps R I (callback app isOver p) :=
  Keeps.tryCatch hp fun _ => Keeps.ite (fun _ => herror) fun _ => .raise _

theorem keeps_teardown {app : Nat} (hsilent : Keeps R I (setApp app fun a => { a with silent := true }))
    (hclosed : Keeps R I (callback app true (WebsocketTransport.onClosed app)))
    (hended : Keeps R I (setApp app fun a => { a with ended := true })) : Keeps R I (teardown app) :=
  Keeps.bind hsilent fun _ => Keeps.finally_ hclosed hended

theorem keeps_handleOpened {app : Nat}
    (hopened : Keeps R I (setApp app fun a => { a with opened := true }))
    (honOpen : Keeps R I (callback app false (WebsocketTransport.onOpen cfg))) :
    Keeps R I (handle cfg app .opened) :=
  Keeps.bind hopened fun _ => Keeps.bind honOpen fun _ => .pure _

theorem keeps_handleMessage {app : Nat} {raw : Raw}
    (honMessage : Keeps R I (callback app false (WebsocketTransport.onMessage cfg app raw))) :
    Keeps R I (handle cfg app (.message raw)) :=
  Keeps.bind honMessage fun _ => .pure _

theorem leads_handleMessage {J : HubInv} {app : Nat} {raw : Raw}
    (hreceive : Leads R I J (WebsocketTransport.receive cfg app raw))
    (hmessages : ∀ messages, Keeps R J (Connection.onMessage messages))
    (herror : Keeps R J (WebsocketTransport.onSocketError (.failed app false))) :
    Leads R I J (handle cfg app (.message raw)) :=
  Leads.bind_keeps (Leads.tryCatch (Leads.bind_keeps hreceive fun _ => hmessages _) fun _ =>
    Keeps.ite (fun _ => herror) fun _ => .raise _) fun _ => .pure _

/-- What a round of `run_forever` does. -/
structure KeepsRound (R : HubRely) (I : HubInv) (cfg : Config) (app : Nat) : Prop where
  block : ∀ s P, I s P → R.inv s (.blocked R.me (.event app) ::ₘ P)
  resume : ∀ s P r, R.inv s (.blocked R.me (.event app) ::ₘ P) → R.resume s P (.event app) r → I s P
  opened : ∀ s P h, R.inv s (.blocked R.me (.event app) ::ₘ P) →
    R.resume s P (.event app) (.ok .opened) →
      (handle cfg app .opened).wp R (fun _ s P _ => I s P) s P h
  message : ∀ raw s P h, R.inv s (.blocked R.me (.event app) ::ₘ P) →
    R.resume s P (.event app) (.ok (.message raw)) →
      (handle cfg app (.message raw)).wp R (fun _ s P _ => I s P) s P h
  silent : Keeps R I (setApp app fun a => { a with silent := true })
  error : Keeps R I (callback app true (WebsocketTransport.onSocketError (.failed app true)))

theorem keeps_round {app : Nat} (hround : KeepsRound R I cfg app) : Keeps R I (round cfg app) := by
  refine Keeps.tryCatch ?_ fun _ =>
    Keeps.ite (fun _ => Keeps.bind hround.error fun _ => .pure _) fun _ => .raise _
  intro s P h hI
  unfold nextEvent
  rw [wp_bind, wp_perform]
  refine ⟨hround.block s P hI, ?_⟩
  intro s P r hinv hresume
  have hI := hround.resume s P r hinv hresume
  rcases r with e | event
  · exact hI
  cases event with
  | opened => exact hround.opened s P _ hinv hresume
  | message raw => exact hround.message raw s P _ hinv hresume
  | failed e => exact Keeps.bind hround.silent (fun _ => .raise _) s P _ hI
  | closed => exact Keeps.bind hround.silent (fun _ => .pure _) s P _ hI

theorem keeps_endRound {app : Nat} {r : Except Exc Bool} (hteardown : Keeps R I (teardown app)) :
    Keeps R I (endRound app r) := by
  rcases r with e | (_ | _)
  · exact Keeps.bind hteardown fun _ => .raise _
  · exact Keeps.bind hteardown fun _ => .pure _
  · exact .pure _

/-- The end of a round goes on with the thread, or ends its greenlet. -/
theorem ends_endRound {app : Nat} {r : Except Exc Bool} {t : Activity} {s : State}
    {P : Multiset (Label Op Activity)} {h : List (Logged State Exc Op Op.Result)}
    (hteardown : (teardown app).wp R (fun _ s P _ => I s P) s P h)
    (hready : I s (.ready t ::ₘ P)) :
    (endRound app r).wp R (Ends I (fun _ _ _ _ => True) t) s P h := by
  have hends : ∀ r : Except Exc Bool, r ≠ .ok true →
      (teardown app >>= fun _ => (ofExcept r : Hub Bool)).wp R (Ends I (fun _ _ _ _ => True) t)
        s P h := by
    intro r hr
    rw [wp_bind]
    refine wp_mono ?_ hteardown
    rintro (e | _) s P h hI
    · exact ⟨trivial, hI⟩
    · rw [wp_ofExcept]
      rcases r with e | _ | _
      · exact ⟨trivial, hI⟩
      · exact ⟨trivial, hI⟩
      · exact absurd rfl hr
  rcases r with e | _ | _
  · exact hends _ (by simp)
  · exact hends _ (by simp)
  · exact ⟨trivial, hready⟩

theorem keeps_runForever {app : Nat}
    (hstarted : Keeps R I (setApp app fun a => { a with started := true }))
    (hended : Keeps R I (setApp app fun a => { a with ended := true }))
    (hround : Keeps R I (round cfg app)) (hteardown : Keeps R I (teardown app)) :
    Keeps R I (runForever cfg app) :=
  Keeps.bind .get fun _ => Keeps.ite
    (fun _ => Keeps.bind hended fun _ => .pure _)
    fun _ => Keeps.bind hstarted fun _ => Keeps.bind hround.attempt fun _ =>
      keeps_endRound hteardown

end WebSocketApp

/-! ## What the transport leaves alone -/

/-- The write of a frame. -/
def isWrite : Op → Bool
  | .wsSend .. => true
  | _ => false

/-- The operations of the transport other than the writes. -/
def isService : Op → Bool
  | .wsSend .. | .acquire _ | .event _ => false
  | _ => true

/-- Those among them that do not belong to a restart. -/
def isPlain : Op → Bool
  | .wsClose .. | .sleep _ | .auth .send | .callback _ => true
  | _ => false

/-- The positions inside `handle_reconnect` from `kill` on, and inside `start`. -/
def isRestart : Label Op Activity → Bool
  | .blocked _ (.kill _) => true
  | .blocked _ (.auth .start) => true
  | .blocked _ (.post ..) => true
  | _ => false

theorem isService_of_isPlain {op : Op} (h : isPlain op = true) : isService op = true := by
  cases op with
  | wsSend app message => cases h
  | acquire subject => cases h
  | event app => cases h
  | _ => rfl

theorem isWrite_of_isService {op : Op} (h : isService op = true) : isWrite op = false := by
  cases op with
  | wsSend app message => cases h
  | _ => rfl

theorem isRestart_of_isPlain {op : Op} (h : isPlain op = true) (t : Activity) :
    isRestart (.blocked t op) = false := by
  cases op with
  | post url headers => cases h
  | kill app => cases h
  | auth site =>
      cases site with
      | start => cases h
      | send => rfl
  | _ => rfl

/-- A websocket without what its events write as long as it goes on. -/
def offApp (a : App) : App :=
  { WebsocketTransport.newApp "" 0 false with silent := a.silent, ended := a.ended }

/-- The state without what the methods of the transport and the events of a websocket
write as long as nothing is restarted and no websocket falls silent.  They leave a
reconnection handler in its place. -/
def offSocket (s : State) : State :=
  { s with
    headers := []
    oldHeaders := []
    reconnectionHandler := s.reconnectionHandler.map fun _ => .new (.interval [])
    url := ""
    handshakeReceived := false
    state := .disconnected
    connectionAlive := false
    running := false
    lastMessage := 0
    apps := s.apps.map offApp
    history := { s.history with
      handed := []
      established := false
      reconnects := []
      exhausted := false
      ownState := .disconnected
      ownHandshake := false
      revived := false } }

/-- A property of the rest of the state, which the plain operations and the other threads
keep. -/
structure OffSocket (R : HubRely) (I : HubInv) : Prop where
  congr : ∀ {s s' P}, I s P → offSocket s' = offSocket s → I s' P
  perform : ∀ {op}, isPlain op = true → Keeps R I (perform op : Hub op.Result)
  fork : ∀ {t}, (∀ app, t ≠ .runForever app) → Keeps R I (fork t : Hub Unit)

namespace OffSocket

open WebsocketTransport

theorem modify (hoff : OffSocket R I) {f : State → State}
    (hf : ∀ s, offSocket (f s) = offSocket s) : Keeps R I (Prog.modify f : Hub Unit) :=
  Keeps.modify fun s _ h => hoff.congr h (hf s)

theorem setApp (hoff : OffSocket R I) {app : Nat} {f : App → App}
    (hf : ∀ a, offApp (f a) = offApp a) : Keeps R I (setApp app f) :=
  hoff.modify fun s => by simp only [offSocket, map_modify hf]

theorem setState (hoff : OffSocket R I) (value : ConnectionState) :
    Keeps R I (setState value) :=
  Keeps.bind (hoff.modify fun _ => rfl) fun _ => Keeps.when fun _ => hoff.modify fun _ => rfl

theorem stop (hoff : OffSocket R I) (site : StopSite) : Keeps R I (stop site) :=
  keeps_stop (hoff.modify fun _ => rfl)
    (keeps_closeWs (fun _ => hoff.setApp fun _ => rfl) (fun _ => hoff.perform rfl)
      fun _ => hoff.setApp fun _ => rfl)
    (hoff.setState _) (hoff.modify fun _ => rfl)

theorem stopLost (hoff : OffSocket R I) : Keeps R I stopLost :=
  keeps_stopLost (hoff.stop _) (hoff.setState _)

theorem setHandler (hoff : OffSocket R I) (f : ReconnectionHandler → ReconnectionHandler) :
    Keeps R I (setHandler f) :=
  hoff.modify fun s => by cases h : s.reconnectionHandler <;> simp [offSocket, h]

theorem deferReconnect (hoff : OffSocket R I) (e : Exc) : Keeps R I (deferReconnect e) :=
  keeps_deferReconnect (keeps_nextSleepTime hoff.setHandler fun _ => hoff.modify fun _ => rfl)
    fun _ => hoff.fork (by simp)

theorem handleReconnect (hoff : OffSocket R I) (hreconnect : Keeps R I (reconnect cfg)) :
    Keeps R I (handleReconnect cfg) :=
  keeps_handleReconnect (keeps_reportReconnect (hoff.modify fun _ => rfl) (hoff.perform rfl))
    (keeps_setReconnecting hoff.setHandler) hreconnect hoff.deferReconnect

theorem connectionLost (hoff : OffSocket R I) (hreconnect : Keeps R I (reconnect cfg)) (e : Exc) :
    Keeps R I (connectionLost cfg e) :=
  keeps_connectionLost (hoff.modify fun _ => rfl) (hoff.setState _) (hoff.perform rfl)
    (hoff.handleReconnect hreconnect)

theorem send (hoff : OffSocket R I) (hreconnect : Keeps R I (reconnect cfg)) {message : Outgoing}
    (hwrite : ∀ app, Keeps R I (Prog.perform (Op.wsSend app message))) :
    Keeps R I (send cfg message) :=
  keeps_send
    (keeps_transmit (fun app => keeps_write (hoff.modify fun _ => rfl) (hwrite app)
      fun _ => hoff.setApp fun _ => rfl) (hoff.modify fun _ => rfl) hoff.setHandler)
    (hoff.connectionLost hreconnect)

theorem reportEnd (hoff : OffSocket R I) (site : CloseSite) : Keeps R I (reportEnd site) :=
  keeps_reportEnd (hoff.modify fun _ => rfl) (hoff.setState _)

theorem onSocketError (hoff : OffSocket R I) (site : CloseSite) :
    Keeps R I (onSocketError site) :=
  keeps_onSocketError (hoff.reportEnd _) (hoff.perform rfl)

theorem callback (hoff : OffSocket R I) {app : Nat} {isOver : Bool} {p : Hub Unit}
    (hp : Keeps R I p) : Keeps R I (WebSocketApp.callback app isOver p) :=
  WebSocketApp.keeps_callback hp (hoff.onSocketError _)

theorem onClosed (hoff : OffSocket R I) (app : Nat) : Keeps R I (onClosed app) :=
  keeps_onClosed (hoff.reportEnd _) (hoff.perform rfl)

/-- The history without what a handshake response records. -/
def offHandshake (h : History) : History :=
  { h with accepted := [], acceptedOpen := 0, opens := 0, established := false, exhausted := false }

/-- The meaning of a frame, for a property that does not mind its records. -/
theorem interpret (hoff : OffSocket R I) {app : Nat} {raw : Raw} {handshakeReceived : Bool}
    (hrecord : ∀ f, (∀ h, offHandshake (f h) = offHandshake h) → Keeps R I (record f)) :
    Keeps R I (interpret cfg app raw handshakeReceived) := by
  have hchecker : Keeps R I ConnectionStateChecker.start :=
    Keeps.bind (hoff.modify fun _ => rfl) fun _ => hoff.fork (by simp)
  have haccept : Keeps R I (acceptHandshake app) :=
    Keeps.bind (hoff.modify fun _ => rfl) fun _ => Keeps.bind (hoff.setState _) fun _ =>
      Keeps.bind .get fun _ => Keeps.bind (hrecord _ fun _ => rfl) fun _ =>
        keeps_handshakeDone hoff.setHandler hchecker
  have hreject : Keeps R I rejectHandshake :=
    keeps_rejectHandshake (hrecord _ fun _ => rfl) (hoff.onSocketError _) (hoff.stop _)
      (hoff.setState _)
  refine Keeps.ite (fun _ => ?_) fun _ => .ofExcept _
  exact Keeps.bind (keeps_evaluateHandshake fun _ => keeps_judge haccept hreject) fun _ =>
    Keeps.bind (keeps_reportOpen (hoff.setState _) (hrecord _ fun _ => rfl)
      (hoff.perform rfl)) fun _ => .pure _

/-- The first part of `on_message`. -/
theorem receive (hoff : OffSocket R I) {app : Nat} {raw : Raw}
    (hreceived : ∀ entry, Keeps R I (record fun h => { h with received := h.received ++ [entry] }))
    (hrecord : ∀ f, (∀ h, offHandshake (f h) = offHandshake h) → Keeps R I (record f)) :
    Keeps R I (receive cfg app raw) :=
  Keeps.bind .get fun _ => Keeps.bind (hreceived _) fun _ => hoff.interpret hrecord

/-- A round of `run_forever`, once its messages are taken care of. -/
theorem round (hoff : OffSocket R I) {app : Nat}
    (hsend : ∀ message, Keeps R I (WebsocketTransport.send cfg message))
    (hround : ∀ s P r, R.inv s (.blocked R.me (.event app) ::ₘ P) →
      R.resume s P (.event app) r → I s P)
    (hblock : ∀ s P, I s P → R.inv s (.blocked R.me (.event app) ::ₘ P))
    (hmessage : ∀ raw s P h, R.inv s (.blocked R.me (.event app) ::ₘ P) →
      R.resume s P (.event app) (.ok (.message raw)) →
        (WebSocketApp.handle cfg app (.message raw)).wp R (fun _ s P _ => I s P) s P h)
    (hsilent : Keeps R I (GeventSignalR.setApp app fun a => { a with silent := true })) :
    Keeps R I (WebSocketApp.round cfg app) :=
  WebSocketApp.keeps_round
    { block := hblock
      resume := hround
      opened := fun s P h hinv hresume =>
        WebSocketApp.keeps_handleOpened (hoff.setApp fun _ => rfl)
          (hoff.callback (hsend _))
          s P h (hround s P _ hinv hresume)
      message := hmessage
      silent := hsilent
      error := hoff.callback (hoff.onSocketError _) }

/-- The greenlet of a websocket, for a property that outlives it. -/
theorem runForever (hoff : OffSocket R I) {app : Nat}
    (hround : Keeps R I (WebSocketApp.round cfg app))
    (hsilent : Keeps R I (GeventSignalR.setApp app fun a => { a with silent := true }))
    (hended : Keeps R I (GeventSignalR.setApp app fun a => { a with ended := true })) :
    Keeps R I (WebSocketApp.runForever cfg app) :=
  WebSocketApp.keeps_runForever (hoff.setApp fun _ => rfl) hended hround
    (WebSocketApp.keeps_teardown hsilent (hoff.callback (hoff.onClosed app)) hended)

end OffSocket

/-- The state without what `send`, `start`, `stop` and the events of a websocket write. -/
def offTransport (s : State) : State :=
  { offSocket s with
    ws := none
    greenlet := none
    apps := []
    history := { (offSocket s).history with creations := [], interventions := [], restarts := [] } }

/-- A property of the rest of the state, which every new thread and the other operations of
the transport keep. -/
structure OffTransport (R : HubRely) (I : HubInv) : Prop where
  congr : ∀ {s s' P}, I s P → offTransport s' = offTransport s → I s' P
  perform : ∀ {op}, isService op = true → Keeps R I (perform op : Hub op.Result)
  fork : ∀ t, Keeps R I (fork t : Hub Unit)

namespace OffTransport

open WebsocketTransport

/-- What restarts and the ends of greenlets write is left out, too. -/
theorem toOffSocket (hoff : OffTransport R I) : OffSocket R I where
  congr := fun {s s' P} h hs => by
    have hfactor : ∀ s, offTransport s = offTransport (offSocket s) := fun s => by
      cases h : s.reconnectionHandler <;> simp [offTransport, offSocket, h]
    refine hoff.congr h ?_
    rw [hfactor s', hs, ← hfactor]
  perform := fun hplain => hoff.perform (isService_of_isPlain hplain)
  fork := fun _ => hoff.fork _

theorem modify (hoff : OffTransport R I) {f : State → State}
    (hf : ∀ s, offTransport (f s) = offTransport s) : Keeps R I (Prog.modify f : Hub Unit) :=
  Keeps.modify fun s _ h => hoff.congr h (hf s)

theorem createApp (hoff : OffTransport R I) : Keeps R I createApp :=
  Keeps.bind .get fun _ => Keeps.bind (hoff.modify fun _ => rfl) fun _ =>
    Keeps.bind (hoff.modify fun _ => rfl) fun _ => Keeps.bind (hoff.fork _) fun _ =>
      hoff.modify fun _ => rfl

theorem start (hoff : OffTransport R I) : Keeps R I (Connection.start cfg) :=
  Connection.keeps_start
    (Connection.keeps_refreshTokenMaybe (hoff.perform rfl) fun _ => hoff.modify fun _ => rfl)
    (keeps_start (keeps_negotiate (fun _ _ => hoff.perform rfl) fun _ _ => hoff.modify fun _ => rfl)
      (hoff.toOffSocket.setState _) hoff.createApp)

theorem reconnect (hoff : OffTransport R I) : Keeps R I (reconnect cfg) :=
  keeps_reconnect hoff.toOffSocket.stopLost
    (keeps_killGreenlet (fun _ => keeps_killApp (fun _ => hoff.modify fun _ => rfl)
      (hoff.modify fun _ => rfl)) fun _ => hoff.perform rfl)
    (hoff.modify fun _ => rfl) (hoff.modify fun _ => rfl) hoff.start

theorem handleReconnect (hoff : OffTransport R I) : Keeps R I (handleReconnect cfg) :=
  hoff.toOffSocket.handleReconnect hoff.reconnect

theorem send (hoff : OffTransport R I) {message : Outgoing}
    (hwrite : ∀ app, Keeps R I (Prog.perform (Op.wsSend app message))) :
    Keeps R I (send cfg message) :=
  hoff.toOffSocket.send hoff.reconnect hwrite

/-- The greenlet of a websocket, once its messages are taken care of. -/
theorem runForever (hoff : OffTransport R I) {app : Nat}
    (hround : Keeps R I (WebSocketApp.round cfg app)) :
    Keeps R I (WebSocketApp.runForever cfg app) :=
  hoff.toOffSocket.runForever hround (hoff.modify fun _ => rfl) (hoff.modify fun _ => rfl)

end OffTransport

/-! ## Activities -/

/-- The state without what the activities other than `start()` and `stop()` write
themselves. -/
def offActivities (s : State) : State :=
  { s with
    headers := []
    handlers := []
    onError := false
    onOpen := false
    onClose := false
    onReconnect := false
    reconnectionHandler := s.reconnectionHandler.map fun _ => .new (.interval [])
    connectionAlive := false
    streams := []
    subjects := []
    now := 0
    history := { s.history with ids := [], turns := [], streamed := [] } }

/-- What the activities do other than `start()`, `stop()` and the greenlets that are
spawned. -/
structure KeepsMethods (R : HubRely) (I : HubInv) (cfg : Config) : Prop where
  send : ∀ message, message.isPing = false → Keeps R I (WebsocketTransport.send cfg message)
  auth : Keeps R I (authFunction .send)
  sleep : ∀ seconds, Keeps R I (sleep seconds)
  acquire : ∀ subject, Keeps R I (perform (Op.acquire subject))
  register : ∀ handler, Keeps R I (Connection.register handler)
  modify : ∀ {f}, (∀ s, offActivities (f s) = offActivities s) →
    (∀ s, (f s).reconnectionHandler = s.reconnectionHandler) → Keeps R I (modify f : Hub Unit)

namespace KeepsMethods

theorem subject (hkeeps : KeepsMethods R I cfg) : Subject.KeepsSubject R I cfg where
  acquire := hkeeps.acquire
  set := fun _ _ => hkeeps.modify (fun _ => rfl) fun _ => rfl
  turns := fun _ => hkeeps.modify (fun _ => rfl) fun _ => rfl
  streamed := fun _ => hkeeps.modify (fun _ => rfl) fun _ => rfl
  send := fun _ => hkeeps.send _

/-- They keep the property from wherever they start. -/
theorem body (hkeeps : KeepsMethods R I cfg) {t : Activity} (hstart : t ≠ .start)
    (hstop : t ≠ .stop)
    (hrun : ∀ app, t = .runForever app → Keeps R I (WebSocketApp.runForever cfg app))
    (hchecker : t = .checkerRun → Keeps R I (ConnectionStateChecker.run cfg))
    (hdeferred : ∀ sleepTime, t = .deferredReconnect sleepTime →
      Keeps R I (WebsocketTransport.deferredReconnect cfg sleepTime)) :
    Keeps R I (Hub.body cfg t) := by
  have hmodify : ∀ {f}, (∀ s, offActivities (f s) = offActivities s) →
      (∀ s, (f s).reconnectionHandler = s.reconnectionHandler) →
        Keeps R I (Hub.once (Prog.modify f)) :=
    fun hf hhandler => keeps_once (hkeeps.modify hf hhandler)
  cases t with
  | start => exact absurd rfl hstart
  | stop => exact absurd rfl hstop
  | send method arguments onInvocation invocationId uuid =>
      exact keeps_once (Connection.keeps_send (hkeeps.modify (fun _ => rfl) fun _ => rfl)
        (Connection.keeps_refreshTokenMaybe hkeeps.auth
          fun _ => hkeeps.modify (fun _ => rfl) fun _ => rfl)
        (fun _ _ => Connection.keeps_sendList hkeeps.register hkeeps.subject.send)
        fun _ _ => Keeps.bind (hkeeps.subject.set _ _) fun _ => hkeeps.subject.start)
  | stream event eventParams uuid =>
      exact keeps_once (Connection.keeps_stream (hkeeps.modify (fun _ => rfl) fun _ => rfl)
        (hkeeps.modify (fun _ => rfl) fun _ => rfl) hkeeps.register hkeeps.subject.send)
  | on event callback => exact hmodify (fun _ => rfl) fun _ => rfl
  | onOpen registered => exact hmodify (fun _ => rfl) fun _ => rfl
  | onClose registered => exact hmodify (fun _ => rfl) fun _ => rfl
  | onReconnect registered => exact hmodify (fun _ => rfl) fun _ => rfl
  | onError registered => exact hmodify (fun _ => rfl) fun _ => rfl
  | subscribe object callbacks =>
      exact keeps_once (StreamHandler.keeps_subscribeObject
        fun _ => hkeeps.modify (fun _ => rfl) fun _ => rfl)
  | newSubject uuid => exact hmodify (fun _ => rfl) fun _ => rfl
  | next subject item => exact keeps_once (hkeeps.subject.next)
  | complete subject => exact keeps_once (hkeeps.subject.complete)
  | runForever app => exact hrun app rfl
  | checkerRun => exact hchecker rfl
  | deferredReconnect sleepTime => exact keeps_once (hdeferred sleepTime rfl)
  | clock seconds => exact hmodify (fun _ => rfl) fun _ => rfl

end KeepsMethods

/-- What the activities do other than `start()`, `stop()` and `run_forever`, for a property
that does not mind the reconnection handler. -/
structure KeepsActivities (R : HubRely) (I : HubInv) (cfg : Config) : Prop where
  send : ∀ message, Keeps R I (WebsocketTransport.send cfg message)
  auth : Keeps R I (authFunction .send)
  sleep : ∀ seconds, Keeps R I (sleep seconds)
  acquire : ∀ subject, Keeps R I (perform (Op.acquire subject))
  register : ∀ handler, Keeps R I (Connection.register handler)
  modify : ∀ {f}, (∀ s, offActivities (f s) = offActivities s) → Keeps R I (modify f : Hub Unit)

namespace KeepsActivities

theorem methods (hkeeps : KeepsActivities R I cfg) : KeepsMethods R I cfg where
  send := fun message _ => hkeeps.send message
  auth := hkeeps.auth
  sleep := hkeeps.sleep
  acquire := hkeeps.acquire
  register := hkeeps.register
  modify := fun hf _ => hkeeps.modify hf

theorem setHandler (hkeeps : KeepsActivities R I cfg) (f : ReconnectionHandler → ReconnectionHandler) :
    Keeps R I (WebsocketTransport.setHandler f) :=
  hkeeps.modify fun s => by cases h : s.reconnectionHandler <;> simp [offActivities, h]

/-- They keep the property from wherever they start. -/
theorem body (hkeeps : KeepsActivities R I cfg) {t : Activity} (hstart : t ≠ .start)
    (hstop : t ≠ .stop)
    (hrun : ∀ app, t = .runForever app → Keeps R I (WebSocketApp.runForever cfg app)) :
    Keeps R I (Hub.body cfg t) :=
  hkeeps.methods.body hstart hstop hrun
    (fun _ => ConnectionStateChecker.keeps_run (hkeeps.sleep _) (hkeeps.send _)) fun _ _ =>
    WebsocketTransport.keeps_deferredReconnect (hkeeps.sleep _) (hkeeps.send _) hkeeps.setHandler
      (hkeeps.modify fun _ => rfl)

end KeepsActivities

/-- The activities with a method of their own to prove something about. -/
def isPrincipal : Activity → Bool
  | .start | .stop | .send .. | .stream .. | .subscribe .. | .runForever _ => true
  | _ => false

/-- The state without what the other activities write themselves. -/
def offOthers (s : State) : State :=
  { s with
    handlers := []
    onError := false
    onOpen := false
    onClose := false
    onReconnect := false
    reconnectionHandler := s.reconnectionHandler.map fun _ => .new (.interval [])
    connectionAlive := false
    subjects := []
    now := 0
    history := { s.history with turns := [], streamed := [] } }

/-- What the other activities do. -/
structure KeepsOthers (R : HubRely) (I : HubInv) (cfg : Config) : Prop where
  send : ∀ message, Keeps R I (WebsocketTransport.send cfg message)
  sleep : ∀ seconds, Keeps R I (sleep seconds)
  acquire : ∀ subject, Keeps R I (perform (Op.acquire subject))
  modify : ∀ {f}, (∀ s, offOthers (f s) = offOthers s) → Keeps R I (modify f : Hub Unit)

namespace KeepsOthers

theorem subject (hkeeps : KeepsOthers R I cfg) : Subject.KeepsSubject R I cfg where
  acquire := hkeeps.acquire
  set := fun _ _ => hkeeps.modify fun _ => rfl
  turns := fun _ => hkeeps.modify fun _ => rfl
  streamed := fun _ => hkeeps.modify fun _ => rfl
  send := fun _ _ => hkeeps.send _

/-- They keep the property from wherever they start. -/
theorem body (hkeeps : KeepsOthers R I cfg) {t : Activity} (ht : isPrincipal t = false) :
    Keeps R I (Hub.body cfg t) := by
  have hmodify : ∀ {f}, (∀ s, offOthers (f s) = offOthers s) →
      Keeps R I (Hub.once (Prog.modify f)) :=
    fun hf => keeps_once (hkeeps.modify hf)
  have hhandler : ∀ f, Keeps R I (WebsocketTransport.setHandler f) := fun f =>
    hkeeps.modify fun s => by cases h : s.reconnectionHandler <;> simp [offOthers, h]
  cases t with
  | start => cases ht
  | stop => cases ht
  | send method arguments onInvocation invocationId uuid => cases ht
  | stream event eventParams uuid => cases ht
  | subscribe object callbacks => cases ht
  | runForever app => cases ht
  | on event callback => exact hmodify fun _ => rfl
  | onOpen registered => exact hmodify fun _ => rfl
  | onClose registered => exact hmodify fun _ => rfl
  | onReconnect registered => exact hmodify fun _ => rfl
  | onError registered => exact hmodify fun _ => rfl
  | newSubject uuid => exact hmodify fun _ => rfl
  | next subject item => exact keeps_once hkeeps.subject.next
  | complete subject => exact keeps_once hkeeps.subject.complete
  | checkerRun => exact ConnectionStateChecker.keeps_run (hkeeps.sleep _) (hkeeps.send _)
  | deferredReconnect sleepTime =>
      exact keeps_once (WebsocketTransport.keeps_deferredReconnect (hkeeps.sleep _)
        (hkeeps.send _) hhandler (hkeeps.modify fun _ => rfl))
  | clock seconds => exact hmodify fun _ => rfl

end KeepsOthers

/-! ## Runs -/

/-- Neither the invariant nor the condition minds which greenlet runs. -/
structure KeepsEntering (c : Cond State Exc Op Op.Result Activity) (I : HubInv) : Prop where
  inv : ∀ t s P, I s P → I (Hub.enter t s) P
  start : ∀ t s P t', c.start s P t' → c.start (Hub.enter t s) P t'
  resume : ∀ t s P t' op r, c.resume s P t' op r → c.resume (Hub.enter t s) P t' op r

/-- What is proved of the bodies holds of the greenlets that run them. -/
theorem Hub.proof {c : Cond State Exc Op Op.Result Activity}
    {goal : Activity → List (Logged State Exc Op Op.Result) → State → Except Exc Bool → Prop}
    (henter : KeepsEntering c I) (init : I (State.new cfg) 0)
    (fork : ∀ s P t, I s P → (hub cfg).Arrives t → c.fork s P t → I s (.ready t ::ₘ P))
    (body : ∀ s P t, I s (.ready t ::ₘ P) → c.start s P t →
      (Hub.body cfg t).wp ((hub cfg).rely c I t) (Ends I goal t) s P []) :
    Proof (hub cfg) c I goal where
  init := init
  fork := fork
  body := by
    intro s P t hinv hstart
    have hentered := body (Hub.enter t s) P t (henter.inv t s _ hinv) (henter.start t s P t hstart)
    refine wp_entering (R := (hub cfg).rely c I t) rfl (fun _ _ h => h) ?_ hentered
    rintro s P op r hinv ⟨hresume, hpossible⟩
    exact ⟨henter.inv t s _ hinv, henter.resume t s P t op r hresume, hpossible⟩

/-- What a proof assumes in a greenlet that knows that it runs. -/
abbrev Hub.running (cfg : Config) (c : Cond State Exc Op Op.Result Activity) (I : HubInv)
    (t : Activity) : HubRely :=
  ⟨t, I, fun s P op r =>
    s.history.current = t ∧ c.resume s P t op r ∧ (hub cfg).Possible s op r⟩

/-- The same for bodies that use that their greenlet runs. -/
theorem Hub.proof_running {c : Cond State Exc Op Op.Result Activity}
    {goal : Activity → List (Logged State Exc Op Op.Result) → State → Except Exc Bool → Prop}
    (henter : KeepsEntering c I) (init : I (State.new cfg) 0)
    (fork : ∀ s P t, I s P → (hub cfg).Arrives t → c.fork s P t → I s (.ready t ::ₘ P))
    (body : ∀ s P t, I s (.ready t ::ₘ P) → c.start s P t → s.history.current = t →
      (Hub.body cfg t).wp (Hub.running cfg c I t) (Ends I goal t) s P []) :
    Proof (hub cfg) c I goal where
  init := init
  fork := fork
  body := by
    intro s P t hinv hstart
    have hentered := body (Hub.enter t s) P t (henter.inv t s _ hinv)
      (henter.start t s P t hstart) rfl
    refine wp_entering (R := Hub.running cfg c I t) rfl (fun _ _ h => h) ?_ hentered
    rintro s P op r hinv ⟨hresume, hpossible⟩
    exact ⟨henter.inv t s _ hinv, rfl, henter.resume t s P t op r hresume, hpossible⟩

end GeventSignalR
