import GeventSignalR.Hub.Keeps

/-!
# The life of a handler

A handler lives from its registration to the first `Completion` or `CancelInvocation` with its
id.

* `Handler.due` are the calls that the messages behind its registration ask for.
* `messagesBehind` and `callsOf` are these messages, and the calls that were made.
* `OffReceive` is a property that everything keeps but `on_message`, `send` and `stream`.
-/

namespace GeventSignalR

open Coop Coop.Prog

/-! ## Messages and calls -/

/-- The handler that is called. -/
def HandlerCall.handler : HandlerCall → Handler
  | .next handler _ => handler
  | .complete handler _ => handler
  | .error handler _ => handler

/-- The handler whose last call it is. -/
def HandlerCall.ending : HandlerCall → Option Handler
  | .next .. => none
  | .complete handler _ => some handler
  | .error handler _ => some handler

namespace Handler

variable {h h' : Handler} {message : Message} {messages : List Message}

/-- The message ends the life of the handler. -/
def isEnded (h : Handler) : Message → Bool
  | .completion _ invocationId _ _ => Connection.matchesId invocationId h
  | .cancelInvocation _ invocationId => Connection.matchesId invocationId h
  | _ => false

/-- The call that the message asks for.  An `InvocationHandler` only has a callback for the
completion. -/
def callFor (h : Handler) (message : Message) : Option HandlerCall :=
  match message with
  | .completion _ invocationId _ _ =>
      if Connection.matchesId invocationId h then some (.complete h message) else none
  | .streamItem _ invocationId item =>
      if h.isStream && Connection.matchesId invocationId h then some (.next h item) else none
  | .cancelInvocation _ invocationId =>
      if h.isStream && Connection.matchesId invocationId h then some (.error h message) else none
  | _ => none

/-- The calls that are due: those for the messages up to the first one that ends its life. -/
def due (h : Handler) : List Message → List HandlerCall
  | [] => []
  | message :: messages =>
      (h.callFor message).toList ++ if h.isEnded message then [] else h.due messages

/-- Its life is over. -/
def isOver (h : Handler) (messages : List Message) : Bool :=
  messages.any h.isEnded

theorem isOver_append :
    h.isOver (messages ++ [message]) = (h.isOver messages || h.isEnded message) := by
  simp [isOver]

theorem due_append :
    h.due (messages ++ [message]) =
      h.due messages ++ if h.isOver messages then [] else (h.callFor message).toList := by
  induction messages with
  | nil => simp [due, isOver]
  | cons first messages ih =>
      rw [List.cons_append, due, due, ih]
      cases hended : h.isEnded first <;> simp [isOver, hended]

/-- As long as it lives, a call is due for every message that asks for one. -/
theorem due_of_live (hlive : ∀ message ∈ messages, h.isEnded message = false) :
    h.due messages = messages.filterMap h.callFor := by
  induction messages with
  | nil => rfl
  | cons message messages ih =>
      have hrest := ih fun message hmem => hlive message (List.mem_cons_of_mem _ hmem)
      have hfirst : h.isEnded message = false := hlive message (List.mem_cons_self ..)
      rw [due, hrest, hfirst, List.filterMap_cons]
      cases h.callFor message <;> rfl

theorem isOver_of_live (hlive : ∀ message ∈ messages, h.isEnded message = false) :
    h.isOver messages = false := by
  simpa [isOver] using hlive

/-- Its last call is the one for the first message that ends its life. -/
theorem due_of_over {before behind : List Message}
    (hlive : ∀ message ∈ before, h.isEnded message = false) (hended : h.isEnded message = true) :
    h.due (before ++ message :: behind) =
      before.filterMap h.callFor ++ (h.callFor message).toList := by
  rw [← due_of_live hlive]
  induction before with
  | nil => simp [due, hended]
  | cons first before ih =>
      have hrest := ih fun message hmem => hlive message (List.mem_cons_of_mem _ hmem)
      have hfirst : h.isEnded first = false := hlive first (List.mem_cons_self ..)
      rw [List.cons_append, due, due, hrest, hfirst]
      simp

/-- The message is for handlers with this id. -/
def isAddressed (h : Handler) : Message → Bool
  | .completion _ invocationId _ _ => Connection.matchesId invocationId h
  | .streamItem _ invocationId _ => Connection.matchesId invocationId h
  | .cancelInvocation _ invocationId => Connection.matchesId invocationId h
  | _ => false

theorem callFor_eq_none (haddressed : h.isAddressed message = false) : h.callFor message = none := by
  cases message <;> simp_all [isAddressed, callFor]

theorem isEnded_eq_false (haddressed : h.isAddressed message = false) :
    h.isEnded message = false := by
  cases message <;> simp_all [isAddressed, isEnded]

/-- The messages for other ids do not matter. -/
theorem due_filter : h.due (messages.filter h.isAddressed) = h.due messages := by
  induction messages with
  | nil => rfl
  | cons message messages ih =>
      cases haddressed : h.isAddressed message with
      | true => rw [List.filter_cons_of_pos haddressed, due, due, ih]
      | false =>
          rw [List.filter_cons_of_neg (by simp [haddressed]), due, ih,
            callFor_eq_none haddressed, isEnded_eq_false haddressed]
          rfl

end Handler

/-! ## The table -/

/-- The handlers that were registered. -/
def handlersOf (table : List TableEvent) : List Handler :=
  table.filterMap fun
    | .registered handler => some handler
    | .dispatched _ => none

/-- The messages that were dispatched. -/
def messagesOf (table : List TableEvent) : List Message :=
  table.filterMap fun
    | .registered _ => none
    | .dispatched message => some message

/-- The messages that were dispatched behind the registration of a handler. -/
def messagesBehind (h : Handler) : List TableEvent → List Message
  | [] => []
  | .registered handler :: table =>
      if handler = h then messagesOf table else messagesBehind h table
  | .dispatched _ :: table => messagesBehind h table

/-- The calls of a handler's callbacks. -/
def callsOf (h : Handler) (calls : List (Function × HandlerCall)) : List HandlerCall :=
  (calls.map (·.2)).filter fun call => call.handler = h

section

variable {h h' : Handler} {table : List TableEvent} {message : Message}

theorem handlersOf_registered :
    handlersOf (table ++ [.registered h]) = handlersOf table ++ [h] := by
  simp [handlersOf]

theorem handlersOf_dispatched :
    handlersOf (table ++ [.dispatched message]) = handlersOf table := by
  simp [handlersOf]

theorem messagesBehind_dispatched (hmem : h ∈ handlersOf table) :
    messagesBehind h (table ++ [.dispatched message]) = messagesBehind h table ++ [message] := by
  induction table with
  | nil => simp [handlersOf] at hmem
  | cons event table ih =>
      cases event with
      | dispatched other =>
          have hrest : h ∈ handlersOf table := by simpa [handlersOf] using hmem
          exact ih hrest
      | registered handler =>
          rw [List.cons_append, messagesBehind, messagesBehind]
          split_ifs with hsame
          · simp [messagesOf]
          · have hrest : h ∈ handlersOf table := by
              rcases List.mem_cons.mp hmem with heq | hrest
              · exact absurd heq.symm hsame
              · exact hrest
            exact ih hrest

theorem messagesBehind_registered (hmem : h ∈ handlersOf table) :
    messagesBehind h (table ++ [.registered h']) = messagesBehind h table := by
  induction table with
  | nil => simp [handlersOf] at hmem
  | cons event table ih =>
      cases event with
      | dispatched other =>
          have hrest : h ∈ handlersOf table := by simpa [handlersOf] using hmem
          exact ih hrest
      | registered handler =>
          rw [List.cons_append, messagesBehind, messagesBehind]
          split_ifs with hsame
          · simp [messagesOf]
          · have hrest : h ∈ handlersOf table := by
              rcases List.mem_cons.mp hmem with heq | hrest
              · exact absurd heq.symm hsame
              · exact hrest
            exact ih hrest

/-- Nothing was dispatched behind a registration that has just been made. -/
theorem messagesBehind_new (hnew : h ∉ handlersOf table) :
    messagesBehind h (table ++ [.registered h]) = [] := by
  induction table with
  | nil => simp [messagesBehind, messagesOf]
  | cons event table ih =>
      cases event with
      | dispatched other =>
          have hrest : h ∉ handlersOf table := by simpa [handlersOf] using hnew
          exact ih hrest
      | registered handler =>
          have hother : handler ≠ h ∧ h ∉ handlersOf table := by
            constructor
            · rintro rfl
              exact hnew (List.mem_cons_self ..)
            · exact fun hmem => hnew (List.mem_cons_of_mem _ hmem)
          rw [List.cons_append, messagesBehind, if_neg hother.1]
          exact ih hother.2

theorem callsOf_append (calls made : List (Function × HandlerCall)) :
    callsOf h (calls ++ made) = callsOf h calls ++ callsOf h made := by
  simp [callsOf]

/-- Where selected handlers get a call each. -/
theorem callsOf_selected {handlers : List Handler} {p : Handler → Bool} {f : Function}
    {call : Handler → HandlerCall} (hnodup : handlers.Nodup) (hmem : h ∈ handlers)
    (hcall : ∀ h, (call h).handler = h) :
    callsOf h ((handlers.filter p).map fun h => (f, call h)) = if p h then [call h] else [] := by
  have hselected : (handlers.filter p).filter (fun h' => h' = h) = if p h then [h] else [] := by
    rw [List.filter_eq]
    cases hp : p h with
    | true => rw [List.count_filter hp, List.count_eq_one_of_mem hnodup hmem]; rfl
    | false =>
        have hout : h ∉ handlers.filter p := by simp [hp]
        rw [List.count_eq_zero_of_not_mem hout]
        rfl
  have hcalls : callsOf h ((handlers.filter p).map fun h => (f, call h)) =
      ((handlers.filter p).filter fun h' => h' = h).map call := by
    have hsame : (fun c : HandlerCall => decide (c.handler = h)) ∘ call = fun h' => h' = h := by
      funext h'
      simp [hcall]
    rw [callsOf, List.map_map, List.filter_map]
    exact congrArg (fun q => ((handlers.filter p).filter q).map call) hsame
  rw [hcalls, hselected]
  split_ifs <;> rfl

end

/-- The handler whose last callback is running. -/
def finishing : Label Op Activity → Option Handler
  | .blocked _ (.callback (.handler _ call)) => call.ending
  | _ => none

/-- The messages behind the registration of a handler. -/
abbrev State.messagesFor (s : State) (h : Handler) : List Message :=
  messagesBehind h s.history.table

/-- A message is dispatched. -/
def dispatching (message : Message) (s : State) : State :=
  { s with history := { s.history with table := s.history.table ++ [.dispatched message] } }

/-- A function is called. -/
def calling (f : Function) (call : HandlerCall) (s : State) : State :=
  { s with history := { s.history with calls := s.history.calls ++ [(f, call)] } }

/-- A message is dispatched, and callbacks are called for it. -/
def taking (message : Message) (made : List (Function × HandlerCall)) (s : State) : State :=
  { s with history := { s.history with
    table := s.history.table ++ [.dispatched message]
    calls := s.history.calls ++ made } }

/-! ## What is called -/

/-- The attribute of a `StreamHandler` that a call uses. -/
def StreamHandler.functionFor (handler : StreamHandler) : HandlerCall → Function
  | .next .. => handler.nextCallback
  | .complete .. => handler.completeCallback
  | .error .. => handler.errorCallback

/-- The function that a call uses. -/
def functionOf (s : State) (call : HandlerCall) : Option Function :=
  match call.handler with
  | .stream object _ => s.streams[object]?.map fun handler => handler.functionFor call
  | .invocation _ callback => some (.user callback)

/-- The program makes the call. -/
def Serves (R : HubRely) (g : Hub Unit) (call : HandlerCall) : Prop :=
  ∀ s P hist f, functionOf s call = some f → ∀ Q, (f.apply call).wp R Q s P hist →
    g.wp R Q s P hist

section

variable {R : HubRely} {handler : Handler} {message : Message} {item : Value}

/-- What an object of the connection holds is called. -/
theorem serves_callback {object : Nat} {invocationId : String} {call : HandlerCall}
    {member : StreamHandler → Function} (hcall : call.handler = .stream object invocationId)
    (hmember : ∀ handler : StreamHandler, member handler = handler.functionFor call) :
    Serves R (Connection.streamCallback object member >>= fun f => f.apply call) call := by
  intro s P hist f hf Q hQ
  simp only [functionOf, hcall] at hf
  obtain ⟨handler, hget, hfunction⟩ := Option.map_eq_some_iff.mp hf
  unfold Connection.streamCallback
  simp only [wp_bind, wp_get, hget]
  show ((member handler).apply call).wp R Q s P hist
  rw [hmember, hfunction]
  exact hQ

theorem serves_next (hstream : handler.isStream = true) :
    Serves R (Connection.callNext item handler) (.next handler item) := by
  cases handler with
  | invocation invocationId callback => cases hstream
  | stream object invocationId => exact serves_callback rfl fun _ => rfl

theorem serves_complete : Serves R (Connection.callComplete message handler)
    (.complete handler message) := by
  cases handler with
  | stream object invocationId => exact serves_callback rfl fun _ => rfl
  | invocation invocationId callback =>
      intro s P hist f hf Q hQ
      have hfunction : Function.user callback = f := Option.some.inj hf
      rw [← hfunction] at hQ
      exact hQ

theorem serves_error (hstream : handler.isStream = true) :
    Serves R (Connection.callError message handler) (.error handler message) := by
  cases handler with
  | invocation invocationId callback => cases hstream
  | stream object invocationId => exact serves_callback rfl fun _ => rfl

end

/-! ## Everything else -/

/-- The operations inside `on_message`. -/
def isReceiving : Op → Bool
  | .callback .onOpen | .callback (.onClose .rejected) | .wsClose _ .rejected => true
  | .callback (.onError _) | .callback (.event ..) | .callback (.handler ..) => true
  | _ => false

/-- The operations outside of `on_message`, and outside of `send` before it registers. -/
def isOutside : Op → Bool
  | .auth .send => false
  | op => !isReceiving op

theorem isReceiving_of_isOutside {op : Op} (hop : isOutside op = true) : isReceiving op = false := by
  cases op with
  | auth site => rfl
  | _ => exact (Bool.not_eq_true' _).mp hop

theorem finishing_of_isOutside {op : Op} (hop : isOutside op = true) {t : Activity} :
    finishing (.blocked t op) = none := by
  cases op with
  | callback callback =>
      cases callback with
      | handler f call => cases hop
      | _ => rfl
  | _ => rfl

/-- A property that the operations outside of `on_message` and the other variables keep. -/
structure OffReceive (R : HubRely) (I : HubInv) : Prop where
  congr : ∀ {s s' P}, I s P → offTransport s' = offTransport s → I s' P
  perform : ∀ {op}, isOutside op = true → Keeps R I (perform op : Hub op.Result)
  fork : ∀ t, Keeps R I (fork t : Hub Unit)

namespace OffReceive

open WebsocketTransport

variable {R : HubRely} {I : HubInv} {cfg : Config}

theorem modify (hoff : OffReceive R I) {f : State → State}
    (hf : ∀ s, offTransport (f s) = offTransport s) : Keeps R I (Prog.modify f : Hub Unit) :=
  Keeps.modify fun s _ h => hoff.congr h (hf s)

theorem setState (hoff : OffReceive R I) (value : ConnectionState) : Keeps R I (setState value) :=
  Keeps.bind (hoff.modify fun _ => rfl) fun _ => Keeps.when fun _ => hoff.modify fun _ => rfl

theorem setHandler (hoff : OffReceive R I) (f : ReconnectionHandler → ReconnectionHandler) :
    Keeps R I (setHandler f) :=
  hoff.modify fun s => by cases h : s.reconnectionHandler <;> simp [offTransport, offSocket, h]

theorem stop (hoff : OffReceive R I) {site : StopSite} (hsite : site ≠ .rejected) :
    Keeps R I (stop site) := by
  have hclose : ∀ app, isOutside (.wsClose app site) = true := by
    intro app
    cases site with
    | rejected => exact absurd rfl hsite
    | _ => rfl
  exact keeps_stop (hoff.modify fun _ => rfl)
    (keeps_closeWs (fun _ => hoff.modify fun _ => rfl) (fun app => hoff.perform (hclose app))
      fun _ => hoff.modify fun _ => rfl)
    (hoff.setState _) (hoff.modify fun _ => rfl)

theorem start (hoff : OffReceive R I) : Keeps R I (Connection.start cfg) := by
  have hcreate : Keeps R I createApp :=
    Keeps.bind .get fun _ => Keeps.bind (hoff.modify fun _ => rfl) fun _ =>
      Keeps.bind (hoff.modify fun _ => rfl) fun _ => Keeps.bind (hoff.fork _) fun _ =>
        hoff.modify fun _ => rfl
  exact Connection.keeps_start
    (Connection.keeps_refreshTokenMaybe (hoff.perform rfl) fun _ => hoff.modify fun _ => rfl)
    (keeps_start (keeps_negotiate (fun _ _ => hoff.perform rfl) fun _ _ => hoff.modify fun _ => rfl)
      (hoff.setState _) hcreate)

theorem handleReconnect (hoff : OffReceive R I) : Keeps R I (handleReconnect cfg) := by
  have hkill : Keeps R I killGreenlet :=
    keeps_killGreenlet (fun _ => keeps_killApp (fun _ => hoff.modify fun _ => rfl)
      (hoff.modify fun _ => rfl)) fun _ => hoff.perform rfl
  have hreconnect : Keeps R I (reconnect cfg) :=
    keeps_reconnect (keeps_stopLost (hoff.stop (by decide)) (hoff.setState _)) hkill
      (hoff.modify fun _ => rfl) (hoff.modify fun _ => rfl) hoff.start
  exact keeps_handleReconnect
    (keeps_reportReconnect (hoff.modify fun _ => rfl) (hoff.perform rfl))
    (keeps_setReconnecting hoff.setHandler) hreconnect
    fun _ => keeps_deferReconnect (keeps_nextSleepTime hoff.setHandler
      fun _ => hoff.modify fun _ => rfl) fun _ => hoff.fork _

theorem send (hoff : OffReceive R I) (message : Outgoing) :
    Keeps R I (WebsocketTransport.send cfg message) :=
  keeps_send
    (keeps_transmit (fun _ => keeps_write (hoff.modify fun _ => rfl) (hoff.perform rfl)
      fun _ => hoff.modify fun _ => rfl) (hoff.modify fun _ => rfl) hoff.setHandler)
    fun _ => keeps_connectionLost (hoff.modify fun _ => rfl) (hoff.setState _) (hoff.perform rfl)
      hoff.handleReconnect

theorem reportEnd (hoff : OffReceive R I) (site : CloseSite) : Keeps R I (reportEnd site) :=
  keeps_reportEnd (hoff.modify fun _ => rfl) (hoff.setState _)

theorem onSocketError (hoff : OffReceive R I) {site : CloseSite} (hsite : site ≠ .rejected) :
    Keeps R I (onSocketError site) := by
  have hcall : isOutside (.callback (.onClose site)) = true := by
    cases site with
    | rejected => exact absurd rfl hsite
    | _ => rfl
  exact keeps_onSocketError (hoff.reportEnd site) (hoff.perform hcall)

theorem callback (hoff : OffReceive R I) {app : Nat} {isOver : Bool} {p : Hub Unit}
    (hp : Keeps R I p) : Keeps R I (WebSocketApp.callback app isOver p) :=
  WebSocketApp.keeps_callback hp (hoff.onSocketError (by simp))

/-- The greenlet of a websocket, once its messages are taken care of. -/
theorem runForever (hoff : OffReceive R I) {app : Nat}
    (hround : ∀ s P r, R.inv s (.blocked R.me (.event app) ::ₘ P) →
      R.resume s P (.event app) r → I s P)
    (hblock : ∀ s P, I s P → R.inv s (.blocked R.me (.event app) ::ₘ P))
    (hmessage : ∀ raw s P h, R.inv s (.blocked R.me (.event app) ::ₘ P) →
      R.resume s P (.event app) (.ok (.message raw)) →
        (WebsocketTransport.onMessage cfg app raw).wp R (fun _ s P _ => I s P) s P h) :
    Keeps R I (WebSocketApp.runForever cfg app) := by
  have hset : ∀ f, Keeps R I (setApp app f) := fun _ => hoff.modify fun _ => rfl
  have herror : ∀ e : Exc, Keeps R I (if e.isException then
      WebsocketTransport.onSocketError (.failed app false) else raise e) := fun _ =>
    Keeps.ite (fun _ => hoff.onSocketError (by simp)) fun _ => .raise _
  have hclosed : Keeps R I (onClosed app) :=
    keeps_onClosed (hoff.reportEnd _) (hoff.perform rfl)
  refine WebSocketApp.keeps_runForever (hset _) (hset _) (WebSocketApp.keeps_round
    { block := hblock
      resume := hround
      opened := ?_
      message := ?_
      silent := hset _
      error := hoff.callback (hoff.onSocketError (by simp)) })
    (WebSocketApp.keeps_teardown (hset _) (hoff.callback hclosed) (hset _))
  · intro s P h hinv hres
    exact WebSocketApp.keeps_handleOpened (hset _) (hoff.callback (hoff.send _)) s P h
      (hround s P _ hinv hres)
  · intro raw s P h hinv hres
    unfold WebSocketApp.handle WebSocketApp.callback
    rw [wp_bind, wp_tryCatch]
    refine wp_mono ?_ (hmessage raw s P h hinv hres)
    rintro (e | _) s P h hI
    · refine wp_mono ?_ (herror e s P h hI)
      rintro (e | _) s P h hI
      · exact hI
      · exact hI
    · exact hI

end OffReceive

/-- The operations inside `on_message` other than the calls of handlers. -/
def isDispatching : Op → Bool
  | .callback (.handler ..) => false
  | op => isReceiving op

theorem isReceiving_of_isDispatching {op : Op} (hop : isDispatching op = true) :
    isReceiving op = true := by
  cases op with
  | callback callback =>
      cases callback with
      | handler f call => rfl
      | _ => exact hop
  | _ => exact hop

theorem finishing_of_isDispatching {op : Op} (hop : isDispatching op = true) {t : Activity} :
    finishing (.blocked t op) = none := by
  cases op with
  | callback callback =>
      cases callback with
      | handler f call => cases hop
      | _ => rfl
  | _ => rfl

/-- The state without what `on_message` writes before it selects handlers. -/
def offReceive (s : State) : State :=
  { offTransport s with
    history := { OffSocket.offHandshake (offTransport s).history with received := [] } }

/-- A property that `on_message` keeps as long as no handlers are concerned. -/
structure OffHandlers (R : HubRely) (I : HubInv) : Prop where
  congr : ∀ {s s' P}, I s P → offReceive s' = offReceive s → I s' P
  perform : ∀ {op}, isDispatching op = true → Keeps R I (perform op : Hub op.Result)
  fork : ∀ t, Keeps R I (fork t : Hub Unit)

namespace OffHandlers

open WebsocketTransport

variable {R : HubRely} {I : HubInv} {cfg : Config}

theorem modify (hoff : OffHandlers R I) {f : State → State}
    (hf : ∀ s, offReceive (f s) = offReceive s) : Keeps R I (Prog.modify f : Hub Unit) :=
  Keeps.modify fun s _ h => hoff.congr h (hf s)

theorem setState (hoff : OffHandlers R I) (value : ConnectionState) : Keeps R I (setState value) :=
  Keeps.bind (hoff.modify fun _ => rfl) fun _ => Keeps.when fun _ => hoff.modify fun _ => rfl

theorem setHandler (hoff : OffHandlers R I) (f : ReconnectionHandler → ReconnectionHandler) :
    Keeps R I (setHandler f) :=
  hoff.modify fun s => by
    cases h : s.reconnectionHandler <;> simp [offReceive, offTransport, offSocket, h]

/-- The handshake, or the messages of a frame. -/
theorem receive (hoff : OffHandlers R I) {app : Nat} {raw : Raw} :
    Keeps R I (receive cfg app raw) := by
  have hchecker : Keeps R I ConnectionStateChecker.start :=
    Keeps.bind (hoff.modify fun _ => rfl) fun _ => hoff.fork _
  have haccept : Keeps R I (acceptHandshake app) :=
    Keeps.bind (hoff.modify fun _ => rfl) fun _ => Keeps.bind (hoff.setState _) fun _ =>
      Keeps.bind .get fun _ => Keeps.bind (hoff.modify fun _ => rfl) fun _ =>
        keeps_handshakeDone hoff.setHandler hchecker
  have herror : Keeps R I (onSocketError .rejected) :=
    keeps_onSocketError (keeps_reportEnd (hoff.modify fun _ => rfl) (hoff.setState _))
      (hoff.perform rfl)
  have hstop : Keeps R I (stop .rejected) :=
    keeps_stop (hoff.modify fun _ => rfl)
      (keeps_closeWs (fun _ => hoff.modify fun _ => rfl) (fun _ => hoff.perform rfl)
        fun _ => hoff.modify fun _ => rfl)
      (hoff.setState _) (hoff.modify fun _ => rfl)
  have hreject : Keeps R I rejectHandshake :=
    keeps_rejectHandshake (hoff.modify fun _ => rfl) herror hstop (hoff.setState _)
  have hopen : Keeps R I reportOpen :=
    keeps_reportOpen (hoff.setState _) (hoff.modify fun _ => rfl) (hoff.perform rfl)
  refine Keeps.bind .get fun _ => Keeps.bind (hoff.modify fun _ => rfl) fun _ =>
    Keeps.ite (fun _ => ?_) fun _ => .ofExcept _
  exact Keeps.bind (keeps_evaluateHandshake fun _ => keeps_judge haccept hreject) fun _ =>
    Keeps.bind hopen fun _ => .pure _

theorem dispatchInvocation (hoff : OffHandlers R I) {target arguments : Value} :
    Keeps R I (Connection.dispatchInvocation target arguments) :=
  Keeps.bind .get fun _ => Keeps.each fun _ _ => hoff.perform rfl

theorem reportError (hoff : OffHandlers R I) {message : Message} {error : Value} :
    Keeps R I (Connection.reportError message error) :=
  Keeps.when fun _ => Keeps.bind (.ofExcept _) fun _ => Keeps.bind .get fun _ =>
    Keeps.when fun _ => hoff.perform rfl

end OffHandlers

end GeventSignalR
