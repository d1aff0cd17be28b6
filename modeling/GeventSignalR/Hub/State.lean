import GeventSignalR.Coop.Prog
import GeventSignalR.Protocol.Base
import GeventSignalR.Transport.Base
import GeventSignalR.Transport.Url

/-!
# The state of a connection

What the greenlets of one connection share, and what they can block on.

* `State` holds the attributes of the `Connection`, its `WebsocketTransport`, the
  `ConnectionStateChecker` and the objects around them.
* `Op` are the calls that can switch greenlets: writes to a websocket, HTTP
  requests, `kill`, `sleep`, locks, and calls of user functions.
* `Activity` are the threads: calls of the public methods, and the greenlets the
  package spawns.

A `WebSocketApp` is known by its number in the order of creation.
-/

namespace GeventSignalR

/-- The arguments of a connection that nothing changes. -/
structure Config where
  url : String
  protocol : HubProtocol
  urllib : Urllib
  /-- `str()`, for the members of negotiate responses. -/
  str : PyStr
  /-- The headers of `with_url`. -/
  headers : Dict
  /-- Whether an `auth_function` is given. -/
  auth : Bool
  skipNegotiation : Bool
  keepAliveInterval : Int
  reconnection : Option ReconnectionPolicy
  /-- `urlsplit` accepts the URL of the hub: otherwise `_get_negotiate_url` raises its
  `ValueError` on every `start`, and nothing else happens. -/
  accepted : skipNegotiation = false → urllib.refusal url = none

/-- What an attribute that should be a function holds. -/
inductive Function where
  /-- The function the constructor put there, which logs a warning. -/
  | default
  /-- A function of the user. -/
  | user (callback : Nat)
  /-- Something that cannot be called. -/
  | notCallable
  deriving DecidableEq, Repr

/-- A `StreamHandler` object. -/
structure StreamHandler where
  event : String
  invocationId : String
  nextCallback : Function
  completeCallback : Function
  errorCallback : Function
  deriving DecidableEq, Repr

/-- An element of `stream_handlers`. -/
inductive Handler where
  /-- A `StreamHandler`, by its number in the order of creation. -/
  | stream (object : Nat) (invocationId : String)
  /-- An `InvocationHandler`. -/
  | invocation (invocationId : String) (completeCallback : Nat)
  deriving DecidableEq, Repr

namespace Handler

/-- `handler.invocation_id`. -/
def invocationId : Handler → String
  | stream _ invocationId => invocationId
  | invocation invocationId _ => invocationId

/-- `isinstance(handler, StreamHandler)`. -/
def isStream : Handler → Bool
  | stream .. => true
  | invocation .. => false

end Handler

/-- A `Subject`. -/
structure Subject where
  /-- Whether a `send` has set `connection` and `target`. -/
  target : Option Value
  invocationId : String
  /-- Whether a greenlet holds `lock`. -/
  locked : Bool

/-- The `arguments` of `Connection.send`. -/
inductive Arguments where
  | list (items : List Value)
  | subject (subject : Nat)
  /-- Anything else. -/
  | other

/-- `isinstance(arguments, list | Subject)` -/
def Arguments.isListOrSubject : Arguments → Bool
  | list _ => true
  | subject _ => true
  | other => false

/-- The argument of `StreamHandler.subscribe`: something that is no dictionary, or the
values of its three keys where they are present. -/
inductive SubscribeCallback where
  | other
  | dict (next complete error : Option Function)

/-- The calls of public methods, and the greenlets that are spawned. -/
inductive Activity where
  -- methods of `Connection`
  | start
  | stop
  | send (method : Value) (arguments : Arguments) (onInvocation : Option Nat)
      (invocationId : Option String) (uuid : String)
  | stream (event : String) (eventParams : Value) (uuid : String)
  | on (event : String) (callback : Nat)
  | onOpen (registered : Bool)
  | onClose (registered : Bool)
  | onReconnect (registered : Bool)
  | onError (registered : Bool)
  -- methods of `StreamHandler` and `Subject`
  | subscribe (object : Nat) (callbacks : SubscribeCallback)
  | newSubject (uuid : String)
  | next (subject : Nat) (item : Value)
  | complete (subject : Nat)
  -- greenlets
  | runForever (app : Nat)
  | checkerRun
  | deferredReconnect (sleepTime : Int)
  -- time passes
  | clock (seconds : Nat)

namespace Activity

/-- A call of `Connection.start`. -/
def isStart : Activity → Bool
  | start => true
  | _ => false

/-- A call of `Connection.stop`. -/
def isStop : Activity → Bool
  | stop => true
  | _ => false

end Activity

/-- A `WebSocketApp` with the greenlet that runs its `run_forever`. -/
structure App where
  url : String
  /-- The dictionary that `connection.headers` was: its number in the order of creation. -/
  header : Nat
  /-- `run_forever` has begun. -/
  started : Bool
  /-- Its open event has been delivered. -/
  opened : Bool
  /-- No more events are delivered: it has failed, was closed, or its greenlet is being
  killed. -/
  silent : Bool
  /-- A write has failed because the connection is lost. -/
  lost : Bool
  /-- `close()` was called. -/
  closing : Bool
  /-- `close()` has returned. -/
  closed : Bool
  /-- `kill()` was called on the greenlet. -/
  killed : Bool
  /-- The greenlet has ended. -/
  ended : Bool
  /-- `handle_reconnect` has created it, and not a `start()` of the user. -/
  restarted : Bool

/-- It was created by `handle_reconnect`, and its open, error or close event has not been
delivered. -/
def App.isPending (app : App) : Bool :=
  app.restarted && !app.opened && !app.silent && !app.ended

/-- The websocket was created at a time when `handshake_received` was as given, as
many older greenlets were unfinished, and `stop()` was in force. -/
structure Creation where
  handshakeReceived : Bool
  unfinished : Nat
  stopped : Bool
  deriving DecidableEq, Repr

/-- A greenlet killed the greenlet of a websocket, or created a websocket, at a time when
a websocket was pending, or none was. -/
structure Intervention where
  greenlet : Activity
  pending : Bool

/-- `on_reconnect` was called behind so many accepted handshake responses, of which as many
found an `on_open` callback registered, and behind so many calls of `on_open`. -/
structure Reconnection where
  accepted : Nat
  acceptedOpen : Nat
  opens : Nat
  deriving DecidableEq, Repr

/-- A message was handed to `WebSocketApp.send` at a time when a handshake response
without error had been evaluated on the websocket, or had not. -/
structure Handed where
  app : Nat
  message : Outgoing
  accepted : Bool

/-- A call took the lock of a subject, at a time when its `target` was as given. -/
structure Turn where
  subject : Nat
  call : Activity
  target : Option Value

/-- A message for the handlers, when its handlers are selected, or a registration. -/
inductive TableEvent where
  | registered (handler : Handler)
  | dispatched (message : Message)

/-- A call of a handler's callback. -/
inductive HandlerCall where
  | next (handler : Handler) (item : Value)
  | complete (handler : Handler) (message : Message)
  | error (handler : Handler) (message : Message)

/-- What has happened so far.  No code reads these variables; they are here for
statements about runs. -/
structure History where
  /-- The greenlet that runs. -/
  current : Activity
  /-- The circumstances in which each websocket was created. -/
  creations : List Creation
  /-- The kills and creations. -/
  interventions : List Intervention
  /-- The messages handed to a websocket. -/
  handed : List Handed
  /-- The messages that arrived, with the websocket, `handshake_received` and the
  state at that time. -/
  received : List (Nat × Bool × ConnectionState)
  /-- The websockets on which a handshake response without error was evaluated. -/
  accepted : List Nat
  /-- The number of those while an `on_open` callback was registered. -/
  acceptedOpen : Nat
  /-- The number of calls of the `on_open` callback. -/
  opens : Nat
  /-- The last handshake response had no error, and `stop()` has not stopped the
  transport since. -/
  established : Bool
  /-- The number of accepted responses before each `start()` of `handle_reconnect`. -/
  restarts : List Nat
  /-- The circumstances of each call of the `on_reconnect` callback. -/
  reconnects : List Reconnection
  /-- `next` of the reconnection handler has raised, and no response was accepted since. -/
  exhausted : Bool
  /-- `state` and `handshake_received` as they would be without the close and error
  events of websockets that another one has replaced. -/
  ownState : ConnectionState
  ownHandshake : Bool
  /-- The user's last `stop()` has returned or raised, and no `start()` was called since. -/
  stopped : Bool
  /-- The state was set to `connected` while `stopped`. -/
  revived : Bool
  /-- The invocation ids of the calls of `send` and `stream`. -/
  ids : List String
  table : List TableEvent
  /-- The calls of the handlers' callbacks, with what was called. -/
  calls : List (Function × HandlerCall)
  /-- The calls that took the lock of a subject. -/
  turns : List Turn
  /-- The messages that subjects handed to the transport. -/
  streamed : List (Nat × Message)

/-- The history before anything has happened. -/
def History.new : History where
  current := .start
  creations := []
  interventions := []
  handed := []
  received := []
  accepted := []
  acceptedOpen := 0
  opens := 0
  established := false
  restarts := []
  reconnects := []
  exhausted := false
  ownState := .disconnected
  ownHandshake := false
  stopped := false
  revived := false
  ids := []
  table := []
  calls := []
  turns := []
  streamed := []

/-- What the greenlets of a connection share. -/
structure State where
  /-- `headers`, which tokens are written into. -/
  headers : Dict
  /-- The dictionaries that `headers` was before, in the order of creation.  Only websockets
  hold them. -/
  oldHeaders : List Dict
  handlers : List (String × Nat)
  streamHandlers : List Handler
  /-- Whether the user has registered the callbacks. -/
  onError : Bool
  onOpen : Bool
  onClose : Bool
  onReconnect : Bool
  reconnectionHandler : Option ReconnectionHandler
  /-- `_ws` and `_greenlet` of the transport. -/
  ws : Option Nat
  greenlet : Option Nat
  /-- `url` of the transport. -/
  url : String
  handshakeReceived : Bool
  state : ConnectionState
  connectionAlive : Bool
  /-- `running` and `last_message` of the connection checker. -/
  running : Bool
  lastMessage : Int
  /-- The objects that were created. -/
  streams : List StreamHandler
  subjects : List Subject
  apps : List App
  /-- `time()`. -/
  now : Int
  history : History

/-- The constructors of `Connection` and `WebsocketTransport`. -/
def State.new (cfg : Config) : State where
  headers := cfg.headers
  oldHeaders := []
  handlers := []
  streamHandlers := []
  onError := false
  onOpen := false
  onClose := false
  onReconnect := false
  reconnectionHandler := cfg.reconnection.map ReconnectionHandler.new
  ws := none
  greenlet := none
  url := cfg.url
  handshakeReceived := false
  state := .disconnected
  connectionAlive := false
  running := false
  lastMessage := 0
  streams := []
  subjects := []
  apps := []
  now := 0
  history := .new

/-- The headers that a websocket sends when it connects: those of the dictionary it was given,
as they are then. -/
def State.headersOf (s : State) (app : App) : Dict :=
  s.oldHeaders.getD app.header s.headers

/-- Where the `on_close` callback is called. -/
inductive CloseSite where
  /-- `on_close`, called by a websocket -/
  | closed (app : Nat)
  /-- `on_socket_error`, called by a websocket that is over, or goes on -/
  | failed (app : Nat) (isOver : Bool)
  /-- `on_socket_error`, called by `evaluate_handshake` -/
  | rejected
  /-- `send` -/
  | lost
  deriving DecidableEq, Repr

/-- A call of a user function. -/
inductive Callback where
  | onOpen
  | onClose (site : CloseSite)
  | onReconnect
  | onError (message : Message)
  | event (callback : Nat) (arguments : Value)
  | handler (callback : Nat) (call : HandlerCall)

/-- Who calls `stop()`. -/
inductive StopSite where
  | user
  | reconnect
  | rejected
  | closeMessage
  deriving DecidableEq, Repr

/-- Who calls the `auth_function`. -/
inductive AuthSite where
  | start
  | send
  deriving DecidableEq, Repr

/-- The calls that can switch greenlets. -/
inductive Op where
  /-- `WebSocketApp.send` -/
  | wsSend (app : Nat) (message : Outgoing)
  /-- `WebSocketApp.close` -/
  | wsClose (app : Nat) (site : StopSite)
  /-- `requests.post` -/
  | post (url : String) (headers : Dict)
  /-- `kill(block=True, timeout=10)` on the greenlet of a websocket -/
  | kill (app : Nat)
  /-- `gevent.sleep` -/
  | sleep (seconds : Int)
  | auth (site : AuthSite)
  | callback (callback : Callback)
  /-- Entering `with self.lock` -/
  | acquire (subject : Nat)
  /-- `run_forever` waiting for what its websocket does next -/
  | event (app : Nat)

/-- What a websocket does. -/
inductive WsEvent where
  | opened
  | message (raw : Raw)
  | failed (e : Exc)
  | closed

/-- What an operation returns. -/
abbrev Op.Result : Op → Type
  | .post .. => Response
  | .auth .. => Option String
  | .event .. => WsEvent
  | _ => Unit

/-- Code of the package, run by a greenlet. -/
abbrev Hub (α : Type) : Type :=
  Coop.Prog State Exc Op Op.Result Activity α

end GeventSignalR
