import GeventSignalR.Hub.State

/-!
# The websocket transport

The methods of `WebsocketTransport` and `ConnectionStateChecker`, and of the parts
of `Connection` they call.

* `start`, `stop`, `send` are what the connection asks of its transport.
* `onOpen`, `onMessage`, `onSocketError`, `onClosed` are the callbacks of a
  `WebSocketApp`.
* `handleReconnect` and `deferredReconnect` replace a lost websocket.
-/

namespace GeventSignalR

open Coop Coop.Prog

/-- `self.history`, which only statements about runs read. -/
def record (f : History → History) : Hub Unit :=
  modify fun s => { s with history := f s.history }

/-- Call a user function. -/
def call (callback : Callback) : Hub Unit :=
  perform (Op.callback callback)

/-- Call the `auth_function`. -/
def authFunction (site : AuthSite) : Hub (Option String) :=
  perform (Op.auth site)

/-- `requests.post` -/
def post (url : String) (headers : Dict) : Hub Response :=
  perform (Op.post url headers)

/-- `gevent.sleep` -/
def sleep (seconds : Int) : Hub Unit :=
  perform (Op.sleep seconds)

/-- Change a websocket. -/
def setApp (app : Nat) (f : App → App) : Hub Unit :=
  modify fun s => { s with apps := s.apps.modify app f }

namespace ConnectionStateChecker

/-- `start` -/
def start : Hub Unit := do
  modify fun s => { s with running := true }
  fork .checkerRun

/-- `stop` -/
def stop : Hub Unit :=
  modify fun s => { s with running := false, history := { s.history with established := false } }

end ConnectionStateChecker

namespace WebsocketTransport

variable (cfg : Config)

/-- The setter of `state`. -/
def setState (value : ConnectionState) : Hub Unit := do
  modify fun s => { s with state := value, history := { s.history with ownState := value } }
  when (value = .connected) (record fun h => { h with revived := h.revived || h.stopped })

/-- `ws` -/
def ws : Hub Nat := do
  let s ← get
  s.ws.elim (raise (.valueError "no websocket.WebSocketApp running")) pure

/-- `is_running` -/
def isRunning (s : State) : Bool :=
  s.state != .disconnected

/-- Assign `handshake_received`. -/
def setHandshakeReceived (value : Bool) : Hub Unit :=
  modify fun s =>
    { s with handshakeReceived := value, history := { s.history with ownHandshake := value } }

/-- `if self._ws is not None: self._ws.close()` -/
def closeWs (site : StopSite) : Hub Unit := do
  let s ← get
  s.ws.elim (pure ()) fun app => do
    setApp app fun a => { a with closing := true }
    perform (Op.wsClose app site)
    setApp app fun a => { a with closed := true }

/-- `stop` -/
def stop (site : StopSite) : Hub Unit := do
  let s ← get
  when (s.state = .connected) do
    ConnectionStateChecker.stop
    closeWs site
    setState .disconnected
    setHandshakeReceived false

/-- `self.connection.headers = headers`: the websockets keep the dictionary they have. -/
def replaced (s : State) (headers : Option Dict) : List Dict :=
  if headers.isSome then s.oldHeaders ++ [s.headers] else s.oldHeaders

/-- `negotiate` -/
def negotiate : Hub Unit := do
  let s ← get
  let response ← post (getNegotiateUrl cfg.urllib cfg.url) s.headers
  let s ← get
  let result ← ofExcept (negotiated cfg.urllib cfg.str s.url response)
  modify fun s =>
    { s with
      url := result.1
      headers := result.2.getD s.headers
      oldHeaders := replaced s result.2 }

/-- A `WebSocketApp` that has just been created. -/
def newApp (url : String) (header : Nat) (restarted : Bool) : App :=
  ⟨url, header, false, false, false, false, false, false, false, false, restarted⟩

/-- The number of greenlets that have not ended. -/
def unfinished (apps : List App) : Nat :=
  apps.countP fun app => !app.ended

/-- A greenlet intervenes: it kills the greenlet of a websocket, or creates one. -/
def intervene (s : State) : List Intervention :=
  s.history.interventions ++ [⟨s.history.current, s.apps.any (·.isPending)⟩]

/-- The part of `start` that creates a websocket. -/
def createApp : Hub Unit := do
  let s ← get
  let app := s.apps.length
  record fun h =>
    { h with
      creations := h.creations ++ [⟨s.handshakeReceived, unfinished s.apps, h.stopped⟩]
      interventions := intervene s }
  modify fun s =>
    { s with
      apps := s.apps ++ [newApp s.url s.oldHeaders.length (!s.history.current.isStart)]
      ws := some app }
  fork (.runForever app)
  modify fun s => { s with greenlet := some app }

/-- `start` -/
def start : Hub Unit := do
  when (!cfg.skipNegotiation) (negotiate cfg)
  let s ← get
  when (s.state ≠ .connected) do
    setState .connecting
    createApp

/-- The websocket that reports its end has been replaced by another one. -/
def isLate (s : State) : CloseSite → Bool
  | .closed app | .failed app _ => s.ws.any (· != app)
  | _ => false

/-- `self.state = ConnectionState.disconnected` in `on_close` and `on_socket_error`. -/
def reportEnd (site : CloseSite) : Hub Unit := do
  let s ← get
  if isLate s site then
    modify fun s => { s with state := .disconnected }
  else
    setState .disconnected

/-- `on_close` -/
def onClosed (app : Nat) : Hub Unit := do
  reportEnd (.closed app)
  let s ← get
  when s.onClose (call (.onClose (.closed app)))

/-- `on_socket_error` -/
def onSocketError (site : CloseSite) : Hub Unit := do
  let s ← get
  when s.onClose (call (.onClose site))
  reportEnd site

/-- The error of a handshake response is absent or empty. -/
def isAccepted (response : HandshakeResponseMessage) : Bool :=
  response.error.isNone || response.error.eqStr ""

/-- Assign attributes of the reconnection handler, if there is one. -/
def setHandler (f : ReconnectionHandler → ReconnectionHandler) : Hub Unit :=
  modify fun s => { s with reconnectionHandler := s.reconnectionHandler.map f }

/-- What a new handshake means for the reconnection handler and the checker. -/
def handshakeDone : Hub Unit := do
  let s ← get
  when s.reconnectionHandler.isSome do
    setHandler fun handler => { handler with reconnecting := false }
    when (!s.running) ConnectionStateChecker.start

/-- The branch of `evaluate_handshake` for a response without an error. -/
def acceptHandshake (app : Nat) : Hub Unit := do
  setHandshakeReceived true
  setState .connected
  let s ← get
  record fun h =>
    { h with
      accepted := h.accepted ++ [app]
      acceptedOpen := if s.onOpen then h.acceptedOpen + 1 else h.acceptedOpen
      established := true
      exhausted := false }
  handshakeDone

/-- Its branch for a response with an error. -/
def rejectHandshake : Hub Unit := do
  record fun h => { h with established := false }
  let _ ← ws
  onSocketError .rejected
  stop .rejected
  setState .disconnected

/-- The decision of `evaluate_handshake`. -/
def judge (app : Nat) (msg : HandshakeResponseMessage) : Hub Unit :=
  if isAccepted msg then acceptHandshake app else rejectHandshake

/-- `evaluate_handshake` -/
def evaluateHandshake (app : Nat) (raw : Raw) : Hub (List Message) := do
  let result ← ofExcept (cfg.protocol.decodeHandshake raw)
  judge app result.1
  return result.2

end WebsocketTransport

namespace Connection

variable (cfg : Config)

/-- `headers.update({"Authorization": f"Bearer {token}"})` -/
def setToken (token : String) : Hub Unit :=
  modify fun s =>
    { s with headers := s.headers.set "Authorization" (.str ("Bearer " ++ token)) }

/-- `_refresh_token_maybe` -/
def refreshTokenMaybe (site : AuthSite) : Hub Unit :=
  when cfg.auth do
    let token ← authFunction site
    token.elim (pure ()) setToken

/-- `start` -/
def start : Hub Unit := do
  refreshTokenMaybe cfg .start
  WebsocketTransport.start cfg

/-- `stop` -/
def stop (site : StopSite) : Hub Unit :=
  WebsocketTransport.stop site

end Connection

namespace WebsocketTransport

variable (cfg : Config)

/-- `self.connection.reconnection_handler`, where an attribute of it is used. -/
def reconnectionHandler : Hub ReconnectionHandler := do
  let s ← get
  s.reconnectionHandler.elim (raise .attributeError) pure

/-- `self.connection.reconnection_handler.reconnecting = value` -/
def setReconnecting (value : Bool) : Hub Unit := do
  let _ ← reconnectionHandler
  setHandler fun handler => { handler with reconnecting := value }

/-- `self.connection.reconnection_handler.next()` -/
def nextSleepTime : Hub Int := do
  let handler ← reconnectionHandler
  setHandler fun _ => handler.next.1
  record fun h => { h with exhausted := h.exhausted || !handler.next.2.isOk }
  ofExcept handler.next.2

/-- What `kill` does at once. -/
def killApp (app : Nat) : Hub Unit := do
  let s ← get
  record fun h => { h with interventions := intervene s }
  setApp app fun a => { a with killed := true }

/-- `self._greenlet.kill(block=True, timeout=10)` -/
def killGreenlet : Hub Unit := do
  let s ← get
  s.greenlet.elim (raise .attributeError) fun app => do
    killApp app
    perform (Op.kill app)

/-- `stop` on a websocket that may be closed. -/
def stopLost : Hub Unit :=
  (Connection.stop .reconnect).tryCatch fun e =>
    if e = .connectionClosed then setState .disconnected else raise e

/-- The body of the `try` in `handle_reconnect`. -/
def reconnect : Hub Unit := do
  stopLost
  killGreenlet
  setHandshakeReceived false
  record fun h => { h with restarts := h.restarts ++ [h.accepted.length] }
  Connection.start cfg

/-- Its `except` clause. -/
def deferReconnect (e : Exc) : Hub Unit :=
  if e.isException then do
    let sleepTime ← nextSleepTime
    fork (.deferredReconnect sleepTime)
  else
    raise e

/-- `self._on_reconnect()` -/
def reportReconnect : Hub Unit := do
  record fun h =>
    { h with reconnects := h.reconnects ++ [⟨h.accepted.length, h.acceptedOpen, h.opens⟩] }
  call .onReconnect

/-- `handle_reconnect` -/
def handleReconnect : Hub Unit := do
  let handler ← reconnectionHandler
  let s ← get
  when (!handler.reconnecting && s.onReconnect) reportReconnect
  setReconnecting true
  (reconnect cfg).tryCatch deferReconnect

/-- `self.ws.send` -/
def write (app : Nat) (message : Outgoing) : Hub Unit := do
  record fun h => { h with handed := h.handed ++ [⟨app, message, h.accepted.contains app⟩] }
  (perform (Op.wsSend app message)).tryCatch fun e => do
    setApp app fun a => { a with lost := a.lost || e.isConnectionLost }
    raise e

/-- The body of the `try` in `send`. -/
def transmit (message : Outgoing) : Hub Unit := do
  let app ← ws
  let _ ← ofExcept (cfg.protocol.encode message)
  write app message
  modify fun s => { s with lastMessage := s.now }
  setHandler (·.reset)

/-- A lost connection without a reconnection handler. -/
def reportLost (e : Exc) : Hub Unit := do
  let s ← get
  when s.onClose (call (.onClose .lost))
  raise (.valueError e.str)

/-- The first `except` clause of `send`. -/
def connectionLost (e : Exc) : Hub Unit := do
  setHandshakeReceived false
  setState .disconnected
  let s ← get
  if s.reconnectionHandler.isNone then reportLost e else handleReconnect cfg

/-- `send` -/
def send (message : Outgoing) : Hub Unit :=
  (transmit cfg message).tryCatch fun e =>
    if e.isConnectionLost then connectionLost cfg e else raise e

/-- The body of the `try` in `deferred_reconnect`. -/
def pingLater (sleepTime : Int) : Hub Unit := do
  sleep sleepTime
  let s ← get
  when (!s.connectionAlive) (send cfg (.hub .ping))

/-- Its `except` clause. -/
def pingFailed (e : Exc) : Hub Unit :=
  if e.isException then do
    setReconnecting false
    modify fun s => { s with connectionAlive := false }
  else
    raise e

/-- `deferred_reconnect` -/
def deferredReconnect (sleepTime : Int) : Hub Unit :=
  (pingLater cfg sleepTime).tryCatch pingFailed

/-- `on_open` -/
def onOpen : Hub Unit :=
  send cfg (.handshake cfg.protocol.handshakeMessage)

end WebsocketTransport

namespace ConnectionStateChecker

/-- The body of the loop in `run`. -/
def check (cfg : Config) : Hub Unit := do
  sleep 1
  let s ← get
  when (cfg.keepAliveInterval < s.now - s.lastMessage) (WebsocketTransport.send cfg (.hub .ping))

/-- One round of the loop in `run`: whether there is another one. -/
def run (cfg : Config) : Hub Bool := do
  let s ← get
  if s.running then do
    check cfg
    return true
  else
    return false

end ConnectionStateChecker

end GeventSignalR
