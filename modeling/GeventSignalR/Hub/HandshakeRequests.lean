import GeventSignalR.Hub.SingleWebsocket
import Mathlib.Data.Finset.Card

/-!
# Handshake requests

`on_open` is the only place that writes a handshake request.  It writes one whenever a websocket
opens, whatever becomes of it, and hands it to the websocket that is `_ws` at that time.

* `handshakeRequests` and `openedSockets` are the requests handed to some of the websockets, and
  those of them that have opened.
* `Greeted` is the invariant: there are as many of the former as of the latter.
* `greeted_opened` is the round of `run_forever` in which a websocket opens.
* `handshakes_reach`: this holds of all websockets together in every run, and of each one as long
  as a websocket opens only while it is `_ws`.
* `punctual_of_orderly`: it does where restarts do not overlap.
-/

namespace GeventSignalR

open Coop Coop.Prog WebsocketTransport

/-- The message is a handshake request. -/
def Outgoing.isHandshake : Outgoing → Bool
  | .handshake _ => true
  | .hub _ => false

/-- The number of handshake requests handed to some of the websockets. -/
def handshakeRequests (among : Nat → Bool) (s : State) : Nat :=
  s.history.handed.countP fun handed => handed.message.isHandshake && among handed.app

/-- A websocket has opened. -/
def hasOpened (s : State) (app : Nat) : Bool :=
  s.apps[app]?.any (·.opened)

/-- Those among some websockets that have opened. -/
def openedSockets (among : Nat → Bool) (s : State) : Finset Nat :=
  (Finset.range s.apps.length).filter fun app => among app && hasOpened s app

/-- The websocket that opens. -/
def opening : (op : Op) → Except Exc op.Result → Option Nat
  | .event app, .ok .opened => some app
  | _, _ => none

/-- A websocket opens only while it is `_ws`. -/
def Punctual : Cond State Exc Op Op.Result Activity where
  fork := fun _ _ _ => True
  start := fun _ _ _ => True
  resume := fun s _ _ op r => ∀ app ∈ opening op r, s.ws = some app

instance : System.Decides Punctual where
  fork := fun _ _ _ => isTrue trivial
  start := fun _ _ _ => isTrue trivial
  resume := fun s _ _ op r =>
    inferInstanceAs (Decidable (∀ app ∈ opening op r, s.ws = some app))

/-- A websocket opens only while it or another one of its kind is `_ws`, where some websockets are
of one kind, and the others of the other. -/
def Separate (among : Nat → Bool) : Cond State Exc Op Op.Result Activity where
  fork := fun _ _ _ => True
  start := fun _ _ _ => True
  resume := fun s _ _ op r => ∀ app ∈ opening op r, ∀ current ∈ s.ws, among current = among app

theorem punctual_separate (among : Nat → Bool) : Punctual.Implies (Separate among) where
  fork := fun _ _ _ _ => trivial
  start := fun _ _ _ _ => trivial
  resume := by
    intro s P t op r hpunctual app happ current hcurrent
    rw [hpunctual app happ, Option.mem_some_iff] at hcurrent
    rw [hcurrent]

/-- In every run all websockets are of one kind. -/
theorem any_separate : Cond.any.Implies (Separate fun _ => true) :=
  ⟨fun _ _ _ _ => trivial, fun _ _ _ _ => trivial, fun _ _ _ _ _ _ _ _ _ _ => rfl⟩

/-- As many requests were handed to some websockets as of them have opened, and a websocket that was
created is known to the transport. -/
structure Greeted (among : Nat → Bool) (s : State) : Prop where
  requests : handshakeRequests among s = (openedSockets among s).card
  ws : s.apps ≠ [] → s.ws.isSome

/-- A websocket has opened while one of its kind is `_ws`, and no request was written yet. -/
structure Ungreeted (among : Nat → Bool) (current : Nat) (s : State) : Prop where
  requests : handshakeRequests among s + (among current).toNat = (openedSockets among s).card
  ws : s.ws = some current

variable {among : Nat → Bool}

/-- What the proof assumes. -/
abbrev greeting (cfg : Config) (among : Nat → Bool) (t : Activity) : HubRely :=
  (hub cfg).rely (Separate among) (fun s _ => Greeted among s) t

/-- The invariant, of the state alone. -/
abbrev GreetedInv (among : Nat → Bool) : HubInv := fun s _ => Greeted among s

variable {cfg : Config} {t : Activity} {s s' : State} {P : Multiset (Label Op Activity)}

/-! ## Leaves -/

theorem mem_openedSockets {app : Nat} :
    app ∈ openedSockets among s ↔ among app = true ∧ hasOpened s app = true := by
  unfold openedSockets
  simp only [Finset.mem_filter, Finset.mem_range, Bool.and_eq_true]
  refine ⟨fun h => h.2, fun h => ⟨?_, h⟩⟩
  by_contra hlength
  have hopened := h.2
  rw [hasOpened, List.getElem?_eq_none (not_lt.mp hlength)] at hopened
  cases hopened

theorem openedSockets_congr (h : ∀ app, hasOpened s' app = hasOpened s app) :
    openedSockets among s' = openedSockets among s := by
  ext app
  rw [mem_openedSockets, mem_openedSockets, h app]

/-- One of the websockets. -/
theorem card_openedSockets (app : Nat) (s : State) :
    (openedSockets (· == app) s).card = (hasOpened s app).toNat := by
  cases hopened : hasOpened s app with
  | false =>
      have hnone : openedSockets (· == app) s = ∅ := by
        refine Finset.eq_empty_of_forall_notMem fun app' hmem => ?_
        obtain ⟨happ, hopened'⟩ := mem_openedSockets.mp hmem
        rw [beq_iff_eq.mp happ, hopened] at hopened'
        cases hopened'
      rw [hnone]
      rfl
  | true =>
      have hone : openedSockets (· == app) s = {app} := by
        ext app'
        rw [mem_openedSockets, Finset.mem_singleton, beq_iff_eq]
        refine ⟨fun h => h.1, fun h => ⟨h, ?_⟩⟩
        rw [h, hopened]
      rw [hone]
      rfl

/-- A websocket opens. -/
theorem card_openedSockets_opened {app : Nat} (hclosed : hasOpened s app = false)
    (hopened : ∀ app', hasOpened s' app' = (app' == app || hasOpened s app')) :
    (openedSockets among s').card = (openedSockets among s).card + (among app).toNat := by
  have hmem : ∀ app', app' ∈ openedSockets among s' ↔
      app' = app ∧ among app = true ∨ app' ∈ openedSockets among s := by
    intro app'
    simp only [mem_openedSockets, hopened, Bool.or_eq_true, beq_iff_eq]
    constructor
    · rintro ⟨hamong, rfl | hold⟩
      · exact .inl ⟨rfl, hamong⟩
      · exact .inr ⟨hamong, hold⟩
    · rintro (⟨rfl, hamong⟩ | ⟨hamong, hold⟩)
      · exact ⟨hamong, .inl rfl⟩
      · exact ⟨hamong, .inr hold⟩
  cases hamong : among app with
  | false =>
      have hsame : openedSockets among s' = openedSockets among s := by
        ext app'
        simp [hmem, hamong]
      rw [hsame]
      rfl
  | true =>
      have hnew : app ∉ openedSockets among s := by
        simp [mem_openedSockets, hclosed]
      have hinsert : openedSockets among s' = insert app (openedSockets among s) := by
        ext app'
        simp [hmem, hamong]
      rw [hinsert, Finset.card_insert_of_notMem hnew]
      rfl

theorem hasOpened_congr (h : s'.apps.map (·.opened) = s.apps.map (·.opened)) (app : Nat) :
    hasOpened s' app = hasOpened s app := by
  have happ := congrArg (fun opened => opened[app]?.any id) h
  simpa only [hasOpened, List.getElem?_map, Option.any_map, id_eq] using happ

/-- What neither opens nor greets a websocket. -/
theorem Greeted.congr (h : Greeted among s)
    (hhanded : handshakeRequests among s' = handshakeRequests among s)
    (happs : s'.apps.map (·.opened) = s.apps.map (·.opened)) (hws : s'.ws = s.ws) :
    Greeted among s' where
  requests := by rw [hhanded, openedSockets_congr (hasOpened_congr happs), h.requests]
  ws := fun hne => by
    rw [hws]
    refine h.ws fun hnil => hne ?_
    rw [hnil, List.map_nil] at happs
    exact List.map_eq_nil_iff.mp happs

theorem greeted_modify {f : State → State}
    (hf : ∀ s, (handshakeRequests among (f s), (f s).apps.map (·.opened), (f s).ws) =
      (handshakeRequests among s, s.apps.map (·.opened), s.ws)) :
    Keeps (greeting cfg among t) (GreetedInv among) (modify f : Hub Unit) := by
  apply Keeps.modify
  intro s P h
  have hview := hf s
  simp only [Prod.mk.injEq] at hview
  exact h.congr hview.1 hview.2.1 hview.2.2

theorem greeted_perform (op : Op) : Keeps (greeting cfg among t) (GreetedInv among) (perform op) :=
  Keeps.perform (fun _ _ h => h) fun _ _ _ h _ => h

theorem greeted_fork (t' : Activity) :
    Keeps (greeting cfg among t) (GreetedInv among) (fork t' : Hub Unit) :=
  Keeps.fork fun _ _ h => h

theorem greeted_setApp {app : Nat} {f : App → App} (hf : ∀ a, (f a).opened = a.opened) :
    Keeps (greeting cfg among t) (GreetedInv among) (setApp app f) :=
  greeted_modify fun s => by
    have hopened : (s.apps.modify app f).map (·.opened) = s.apps.map (·.opened) := map_modify hf
    exact congrArg (fun opened => (handshakeRequests among s, opened, s.ws)) hopened

theorem greeted_setState (value : ConnectionState) :
    Keeps (greeting cfg among t) (GreetedInv among) (setState value) :=
  Keeps.bind (greeted_modify fun _ => rfl) fun _ => Keeps.when fun _ => greeted_modify fun _ => rfl

/-! ## The transport -/

theorem greeted_stop (site : StopSite) :
    Keeps (greeting cfg among t) (GreetedInv among) (stop site) :=
  keeps_stop (greeted_modify fun _ => rfl)
    (keeps_closeWs (fun _ => greeted_setApp fun _ => rfl) (fun _ => greeted_perform _)
      fun _ => greeted_setApp fun _ => rfl)
    (greeted_setState _) (greeted_modify fun _ => rfl)

/-- A new websocket has not opened. -/
theorem greeted_createApp : Keeps (greeting cfg among t) (GreetedInv among) createApp := by
  intro s P h hI
  refine ⟨hI.requests.trans (congrArg Finset.card (openedSockets_congr fun app => ?_)).symm,
    fun _ => rfl⟩
  show (s.apps ++ [newApp s.url s.oldHeaders.length (!s.history.current.isStart)])[app]?.any
    (·.opened) = s.apps[app]?.any (·.opened)
  rw [List.getElem?_append]
  split_ifs with hold
  · rfl
  · rw [List.getElem?_eq_none (not_lt.mp hold), List.getElem?_singleton]
    split_ifs <;> rfl

theorem greeted_start : Keeps (greeting cfg among t) (GreetedInv among) (Connection.start cfg) :=
  Connection.keeps_start
    (Connection.keeps_refreshTokenMaybe (greeted_perform _) fun _ => greeted_modify fun _ => rfl)
    (keeps_start
      (keeps_negotiate (fun _ _ => greeted_perform _) fun _ _ => greeted_modify fun _ => rfl)
      (greeted_setState _) greeted_createApp)

theorem greeted_setHandler (f : ReconnectionHandler → ReconnectionHandler) :
    Keeps (greeting cfg among t) (GreetedInv among) (setHandler f) :=
  greeted_modify fun _ => rfl

theorem greeted_connectionLost (e : Exc) :
    Keeps (greeting cfg among t) (GreetedInv among) (connectionLost cfg e) := by
  have hreconnect : Keeps (greeting cfg among t) (GreetedInv among) (reconnect cfg) :=
    keeps_reconnect (keeps_stopLost (greeted_stop _) (greeted_setState _))
      (keeps_killGreenlet (fun _ => keeps_killApp (fun _ => greeted_modify fun _ => rfl)
        (greeted_setApp fun _ => rfl)) fun _ => greeted_perform _)
      (greeted_modify fun _ => rfl) (greeted_modify fun _ => rfl) greeted_start
  have hdefer : ∀ e, Keeps (greeting cfg among t) (GreetedInv among) (deferReconnect e) := fun _ =>
    keeps_deferReconnect
      (keeps_nextSleepTime greeted_setHandler fun _ => greeted_modify fun _ => rfl)
      fun _ => greeted_fork _
  exact keeps_connectionLost (greeted_modify fun _ => rfl) (greeted_setState _) (greeted_perform _)
    (keeps_handleReconnect
      (keeps_reportReconnect (greeted_modify fun _ => rfl) (greeted_perform _))
      (keeps_setReconnecting greeted_setHandler) hreconnect hdefer)

theorem greeted_onSocketError (site : CloseSite) :
    Keeps (greeting cfg among t) (GreetedInv among) (onSocketError site) :=
  keeps_onSocketError (keeps_reportEnd (greeted_modify fun _ => rfl) (greeted_setState _))
    (greeted_perform _)

/-- A message that is no handshake request. -/
theorem greeted_send (message : Message) :
    Keeps (greeting cfg among t) (GreetedInv among) (send cfg (.hub message)) := by
  have hhanded : ∀ app, Keeps (greeting cfg among t) (GreetedInv among) (record fun h =>
      { h with handed := h.handed ++ [⟨app, .hub message, h.accepted.contains app⟩] }) :=
    fun app => greeted_modify fun s => by
      have hcount : (s.history.handed ++
          [(⟨app, .hub message, s.history.accepted.contains app⟩ : Handed)]).countP
            (fun handed => handed.message.isHandshake && among handed.app) =
              handshakeRequests among s := by
        rw [List.countP_append]
        rfl
      exact congrArg (fun n => (n, s.apps.map (·.opened), s.ws)) hcount
  exact keeps_send
    (keeps_transmit (fun app => keeps_write (hhanded app) (greeted_perform _)
      fun _ => greeted_setApp fun _ => rfl) (greeted_modify fun _ => rfl) greeted_setHandler)
    greeted_connectionLost

/-! ## Websockets -/

/-- The request that is missing. -/
theorem greeted_write (current : Nat) (request : HandshakeRequestMessage) :
    Leads (greeting cfg among t) (fun s _ => Ungreeted among current s) (GreetedInv among)
      (WebsocketTransport.write current (.handshake request)) := by
  refine Leads.bind_keeps ?_ fun _ => Keeps.tryCatch (greeted_perform _) fun _ =>
    Keeps.bind (greeted_setApp fun _ => rfl) fun _ => .raise _
  intro s P h hI
  refine ⟨?_, fun _ => Option.isSome_iff_exists.mpr ⟨current, hI.ws⟩⟩
  show (s.history.handed ++
    [(⟨current, .handshake request, s.history.accepted.contains current⟩ : Handed)]).countP
      (fun handed => handed.message.isHandshake && among handed.app) = (openedSockets among s).card
  rw [List.countP_append, ← hI.requests, List.countP_singleton]
  cases among current <;> simp [handshakeRequests, Outgoing.isHandshake]

/-- The websocket that is `_ws` is greeted as soon as another one of its kind opens. -/
theorem greeted_onOpen (current : Nat) :
    Leads (greeting cfg among t) (fun s _ => Ungreeted among current s) (GreetedInv among)
      (onOpen cfg) := by
  refine Leads.tryCatch ?_ fun e => Keeps.ite (fun _ => greeted_connectionLost e) fun _ => .raise _
  intro s P h hI
  obtain ⟨raw, hraw⟩ := cfg.protocol.encode_handshake
  have hwrite : Leads (greeting cfg among t) (fun s _ => Ungreeted among current s)
      (GreetedInv among) (do
        WebsocketTransport.write current (.handshake cfg.protocol.handshakeMessage)
        modify fun s => { s with lastMessage := s.now }
        setHandler (·.reset)) :=
    Leads.bind_keeps (greeted_write current _) fun _ =>
      Keeps.bind (greeted_modify fun _ => rfl) fun _ => greeted_setHandler _
  have hrun := hwrite s P h hI
  unfold transmit ws
  simp only [wp_bind, wp_get, hI.ws, Option.elim_some, wp_pure, wp_ofExcept, hraw] at hrun ⊢
  exact hrun

/-- A websocket that opens has not opened before. -/
theorem greeted_opened {app : Nat} {h : List (Logged State Exc Op Op.Result)}
    (hI : Greeted among s) (hseparate : ∀ current ∈ s.ws, among current = among app)
    (hpossible : (hub cfg).Possible s (.event app) (.ok .opened)) :
    (WebSocketApp.handle cfg app .opened).wp (greeting cfg among t)
      (fun _ s _ _ => Greeted among s) s P h := by
  obtain ⟨a, ha, hevent⟩ := Hub.possible_event hpossible
  have hclosed : hasOpened s app = false := by
    simp only [Hub.isPossible, Bool.and_eq_true, Bool.not_eq_true'] at hevent
    rw [hasOpened, ha]
    exact hevent.2
  obtain ⟨current, hcurrent⟩ :=
    Option.isSome_iff_exists.mp (hI.ws fun hnil => by simp [hnil] at ha)
  let opened : State := { s with apps := s.apps.modify app fun a => { a with opened := true } }
  have hopened : ∀ app', hasOpened opened app' = (app' == app || hasOpened s app') := by
    intro app'
    show (s.apps.modify app fun a => { a with opened := true })[app']?.any (·.opened) = _
    rw [List.getElem?_modify]
    by_cases happ : app = app'
    · subst happ
      simp [ha]
    · have hne : (app' == app) = false := beq_eq_false_iff_ne.mpr (Ne.symm happ)
      simp [happ, hne, hasOpened]
  have hungreeted : Ungreeted among current opened := by
    refine ⟨?_, hcurrent⟩
    rw [card_openedSockets_opened hclosed hopened, ← hI.requests, hseparate current hcurrent]
    rfl
  have honOpen : Leads (greeting cfg among t) (fun s _ => Ungreeted among current s)
      (GreetedInv among) (do
        WebSocketApp.callback app false (onOpen cfg)
        return true) :=
    Leads.bind_keeps (Leads.tryCatch (greeted_onOpen current) fun _ =>
      Keeps.ite (fun _ => greeted_onSocketError _) fun _ => .raise _) fun _ => .pure _
  unfold WebSocketApp.handle setApp
  rw [wp_bind, wp_modify]
  exact honOpen _ P h hungreeted

theorem greeted_dispatch : Connection.KeepsDispatch (greeting cfg among t) (GreetedInv among) where
  calls := ⟨fun _ => greeted_modify fun _ => rfl, fun _ _ => greeted_perform _⟩
  dispatched := fun _ => greeted_modify fun _ => rfl
  unregister := fun _ => greeted_modify fun _ => rfl
  event := fun _ _ => greeted_perform _
  error := fun _ => greeted_perform _

theorem greeted_receive (app : Nat) (raw : Raw) :
    Keeps (greeting cfg among t) (GreetedInv among) (receive cfg app raw) := by
  have hchecker : Keeps (greeting cfg among t) (GreetedInv among) ConnectionStateChecker.start :=
    Keeps.bind (greeted_modify fun _ => rfl) fun _ => greeted_fork _
  have haccept : Keeps (greeting cfg among t) (GreetedInv among) (acceptHandshake app) :=
    Keeps.bind (greeted_modify fun _ => rfl) fun _ => Keeps.bind (greeted_setState _) fun _ =>
      Keeps.bind .get fun _ => Keeps.bind (greeted_modify fun _ => rfl) fun _ =>
        keeps_handshakeDone greeted_setHandler hchecker
  have hreject : Keeps (greeting cfg among t) (GreetedInv among) rejectHandshake :=
    keeps_rejectHandshake (greeted_modify fun _ => rfl) (greeted_onSocketError _) (greeted_stop _)
      (greeted_setState _)
  refine Keeps.bind .get fun _ => Keeps.bind (greeted_modify fun _ => rfl) fun _ =>
    Keeps.ite (fun _ => ?_) fun _ => .ofExcept _
  exact Keeps.bind (keeps_evaluateHandshake fun _ => keeps_judge haccept hreject) fun _ =>
    Keeps.bind (keeps_reportOpen (greeted_setState _) (greeted_modify fun _ => rfl)
      (greeted_perform _)) fun _ => .pure _

theorem greeted_runForever (app : Nat) :
    Keeps (greeting cfg among t) (GreetedInv among) (WebSocketApp.runForever cfg app) := by
  have hcallback : ∀ {isOver p}, Keeps (greeting cfg among t) (GreetedInv among) p →
      Keeps (greeting cfg among t) (GreetedInv among) (WebSocketApp.callback app isOver p) :=
    fun hp => WebSocketApp.keeps_callback hp (greeted_onSocketError _)
  have hround : WebSocketApp.KeepsRound (greeting cfg among t) (GreetedInv among) cfg app :=
    { block := fun _ _ h => h
      resume := fun _ _ _ h _ => h
      opened := fun _ _ _ h hresume => greeted_opened h (hresume.1 app rfl) hresume.2
      message := fun raw s P h hI _ => WebSocketApp.keeps_handleMessage
        (hcallback (keeps_onMessage (greeted_receive app raw) fun _ =>
          Connection.keeps_onMessage (fun _ => Connection.keeps_dispatch greeted_dispatch)
            (greeted_stop _))) s P h hI
      silent := greeted_setApp fun _ => rfl
      error := hcallback (greeted_onSocketError _) }
  exact WebSocketApp.keeps_runForever (greeted_setApp fun _ => rfl) (greeted_setApp fun _ => rfl)
    (WebSocketApp.keeps_round hround)
    (WebSocketApp.keeps_teardown (greeted_setApp fun _ => rfl)
      (hcallback (keeps_onClosed
        (keeps_reportEnd (greeted_modify fun _ => rfl) (greeted_setState _)) (greeted_perform _)))
      (greeted_setApp fun _ => rfl))

/-! ## Runs -/

theorem greeted_body (t' : Activity) :
    Keeps (greeting cfg among t) (GreetedInv among) (Hub.body cfg t') := by
  have hregister : ∀ handler,
      Keeps (greeting cfg among t) (GreetedInv among) (Connection.register handler) :=
    fun _ => Connection.keeps_register (greeted_modify fun _ => rfl) (greeted_modify fun _ => rfl)
  have hsubject : Subject.KeepsSubject (greeting cfg among t) (GreetedInv among) cfg :=
    { acquire := fun _ => greeted_perform _
      set := fun _ _ => greeted_modify fun _ => rfl
      turns := fun _ => greeted_modify fun _ => rfl
      streamed := fun _ => greeted_modify fun _ => rfl
      send := fun message _ => greeted_send message }
  cases t' with
  | start => exact keeps_once (Keeps.bind (greeted_modify fun _ => rfl) fun _ => greeted_start)
  | stop => exact keeps_once (Keeps.finally_ (greeted_stop _) (greeted_modify fun _ => rfl))
  | send method arguments onInvocation invocationId uuid =>
      exact keeps_once (Connection.keeps_send (greeted_modify fun _ => rfl)
        (Connection.keeps_refreshTokenMaybe (greeted_perform _) fun _ =>
          greeted_modify fun _ => rfl)
        (fun _ _ => Connection.keeps_sendList hregister fun message _ => greeted_send message)
        fun _ _ => Keeps.bind (greeted_modify fun _ => rfl) fun _ => hsubject.start)
  | stream event eventParams uuid =>
      exact keeps_once (Connection.keeps_stream (greeted_modify fun _ => rfl)
        (greeted_modify fun _ => rfl) hregister fun message _ => greeted_send message)
  | subscribe object callbacks =>
      exact keeps_once (StreamHandler.keeps_subscribeObject fun _ => greeted_modify fun _ => rfl)
  | next subject item => exact keeps_once hsubject.next
  | complete subject => exact keeps_once hsubject.complete
  | runForever app => exact greeted_runForever app
  | checkerRun => exact ConnectionStateChecker.keeps_run (greeted_perform _) (greeted_send _)
  | deferredReconnect sleepTime =>
      exact keeps_once (keeps_deferredReconnect (greeted_perform _) (greeted_send _)
        greeted_setHandler (greeted_modify fun _ => rfl))
  | _ => exact keeps_once (greeted_modify fun _ => rfl)

theorem greeted_proof :
    Proof (hub cfg) (Separate among) (GreetedInv among) fun _ _ _ _ => True := by
  have henter : KeepsEntering (Separate among) (GreetedInv among) :=
    { inv := fun _ _ _ h => h.congr rfl rfl rfl
      start := fun _ _ _ _ h => h
      resume := fun _ _ _ _ _ _ h => h }
  apply Hub.proof henter
  · exact ⟨rfl, fun hne => absurd rfl hne⟩
  · exact fun _ _ _ h _ _ => h
  · intro s P t h _
    exact ends_of_ready (fun _ _ h => h) (greeted_body t s P [] h)

/-- In every run as many handshake requests were handed to websockets as websockets have opened.  If
a websocket opens only while it is `_ws`, then each one that has opened was handed exactly one, and
each other one none: otherwise the request goes to the websocket that has taken its place. -/
theorem handshakes_reach {w : World State Exc Op Op.Result Activity} (h : (hub cfg).Reach .any w) :
    handshakeRequests (fun _ => true) w.shared = (openedSockets (fun _ => true) w.shared).card ∧
      ((hub cfg).Reach Punctual w →
        ∀ app, handshakeRequests (· == app) w.shared = (hasOpened w.shared app).toNat) := by
  refine ⟨(greeted_proof.sound (h.mono any_separate)).holds.requests, fun hpunctual app => ?_⟩
  rw [(greeted_proof.sound (hpunctual.mono (punctual_separate (· == app)))).holds.requests,
    card_openedSockets]

theorem opening_eq {op : Op} {r : Except Exc op.Result} {app : Nat} (h : opening op r = some app)
    (hpossible : (hub cfg).Possible s op r) :
    (hub cfg).Possible s (.event app) (.ok .opened) := by
  unfold opening at h
  split at h
  · cases h
    exact hpossible
  · cases h

/-- Where restarts do not overlap, a websocket opens only while it is `_ws`. -/
theorem punctual_of_orderly {w : World State Exc Op Op.Result Activity}
    (h : (hub cfg).Reach (Orderly cfg) w) : (hub cfg).Reach Punctual w := by
  induction h with
  | start => exact .start
  | @step w w' choice hreach _ hstep ih =>
      refine .step ih ?_ hstep
      cases choice with
      | answer g r =>
          intro root t history state op k rest result P _ hdecode _ app happ
          obtain ⟨a, ha, hevent⟩ := Hub.possible_event (opening_eq happ ⟨root, r, hdecode⟩)
          simp only [Hub.isPossible, Bool.and_eq_true, Bool.not_eq_true'] at hevent
          have hsingle : Single w.shared w.labels := (single_proof.sound hreach).holds
          exact (hsingle.base.stored app a ha hevent.1.1).1
      | start g => exact fun _ _ _ _ _ _ => trivial
      | _ => exact trivial

/-- A run in which the second one of two websockets has opened, and the first one has not. -/
theorem handshakes_second :
    ∃ w, (hub (.direct none)).Reach .any w ∧ handshakeRequests (fun _ => true) w.shared = 1 ∧
      handshakeRequests (· == 0) w.shared = 0 ∧ handshakeRequests (· == 1) w.shared = 1 := by
  let choices : List (Choice Activity Answer) := [.fork .start, .start 0, .fork .start, .start 2,
    .start 1, .start 3, .answer 3 (.happened .opened)]
  have hpunctual := (hub (.direct none)).reach_within Punctual choices .start rfl
  have hreach := handshakes_reach (hpunctual.mono (Cond.implies_any _))
  exact ⟨_, hpunctual.mono (Cond.implies_any _), hreach.1, hreach.2 hpunctual 0,
    hreach.2 hpunctual 1⟩

end GeventSignalR
