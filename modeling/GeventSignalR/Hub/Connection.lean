import GeventSignalR.Transport.Websocket

/-!
# The connection

The methods of `Connection`, `StreamHandler` and `Subject`.

* `Connection.onMessage` passes a batch of messages to the handlers.
* `Connection.send` and `Connection.stream` register a handler and write a message.
* `Subject` writes the messages of a client stream, under its lock.
-/

namespace GeventSignalR

open Coop Coop.Prog

namespace Function

/-- Call an attribute that should be a function. -/
def apply (f : Function) (handlerCall : HandlerCall) : Hub Unit := do
  record fun h => { h with calls := h.calls ++ [(f, handlerCall)] }
  match f with
  | .default => pure ()
  | .user callback => call (.handler callback handlerCall)
  | .notCallable => raise .typeError

end Function

namespace StreamHandler

/-- `StreamHandler(event, invocation_id)` -/
def new (event invocationId : String) : StreamHandler :=
  ⟨event, invocationId, .default, .default, .default⟩

/-- `subscribe`: the handler afterwards.  Of the three functions only the first is
checked. -/
def subscribe (handler : StreamHandler) : SubscribeCallback → Except Exc StreamHandler
  | .other => .error .typeError
  | .dict (some next) (some complete) (some error) =>
      if next = .notCallable then
        .error (.valueError "Suscribe callbacks must be functions")
      else
        .ok { handler with
          nextCallback := next
          completeCallback := complete
          errorCallback := error }
  | .dict _ _ _ => .error (.keyError "subscribe object must be a dict like")

end StreamHandler

namespace Connection

variable (cfg : Config)

/-! ## Receiving -/

/-- `h.invocation_id == message.invocation_id` -/
def matchesId (invocationId : Value) (handler : Handler) : Bool :=
  invocationId.eqStr handler.invocationId

/-- The handlers of an id, at the time a message for them is dispatched. -/
def selectHandlers (message : Message) (select : Handler → Bool) : Hub (List Handler) := do
  record fun h => { h with table := h.table ++ [.dispatched message] }
  let s ← get
  return s.streamHandlers.filter select

/-- The attribute of a `StreamHandler` object. -/
def streamCallback (object : Nat) (member : StreamHandler → Function) : Hub Function := do
  let s ← get
  s.streams[object]?.elim (raise .attributeError) fun handler => pure (member handler)

/-- `stream_handler.next_callback(item)` -/
def callNext (item : Value) (handler : Handler) : Hub Unit :=
  match handler with
  | .stream object _ => do
      let f ← streamCallback object (·.nextCallback)
      f.apply (.next handler item)
  | .invocation .. => raise .attributeError

/-- `completion_handler.complete_callback(message)` -/
def callComplete (message : Message) (handler : Handler) : Hub Unit :=
  match handler with
  | .stream object _ => do
      let f ← streamCallback object (·.completeCallback)
      f.apply (.complete handler message)
  | .invocation _ callback => (Function.user callback).apply (.complete handler message)

/-- `stream_handler.error_callback(message)` -/
def callError (message : Message) (handler : Handler) : Hub Unit :=
  match handler with
  | .stream object _ => do
      let f ← streamCallback object (·.errorCallback)
      f.apply (.error handler message)
  | .invocation .. => raise .attributeError

/-- Unregister the handlers of an id. -/
def unregister (invocationId : Value) : Hub Unit :=
  modify fun s =>
    { s with streamHandlers := s.streamHandlers.filter fun h => !matchesId invocationId h }

/-- An invocation: the callbacks of `on` for its target. -/
def dispatchInvocation (target arguments : Value) : Hub Unit := do
  let s ← get
  each (s.handlers.filter fun handler => target.eqStr handler.1) fun handler =>
    call (.event handler.2 arguments)

/-- Report the error of a completion. -/
def reportError (message : Message) (error : Value) : Hub Unit :=
  when (!error.isNone) do
    let length ← ofExcept error.len
    let s ← get
    when (length > 0 && s.onError) (call (.onError message))

/-- A completion. -/
def dispatchCompletion (message : Message) (invocationId error : Value) : Hub Unit := do
  reportError message error
  let fired ← selectHandlers message (matchesId invocationId)
  each fired (callComplete message)
  unregister invocationId

/-- A stream item. -/
def dispatchStreamItem (message : Message) (invocationId item : Value) : Hub Unit := do
  let fired ← selectHandlers message fun h => h.isStream && matchesId invocationId h
  each fired (callNext item)

/-- A cancellation. -/
def dispatchCancel (message : Message) (invocationId : Value) : Hub Unit := do
  let fired ← selectHandlers message fun h => h.isStream && matchesId invocationId h
  each fired (callError message)
  unregister invocationId

/-- What happens to a message that does not end the loop. -/
def dispatch (message : Message) : Hub Unit :=
  match message with
  | .invocation _ _ target arguments => dispatchInvocation target arguments
  | .completion _ invocationId _ error => dispatchCompletion message invocationId error
  | .streamItem _ invocationId item => dispatchStreamItem message invocationId item
  | .cancelInvocation _ invocationId => dispatchCancel message invocationId
  -- pings, stream invocations, and the classes no protocol decodes to
  | _ => pure ()

/-- `on_message` -/
def onMessage : List Message → Hub Unit
  | [] => pure ()
  | .close _ :: _ => stop .closeMessage
  | message :: messages => do
      dispatch message
      onMessage messages

/-! ## Sending -/

/-- `on` -/
def on (event : String) (callback : Nat) : Hub Unit :=
  modify fun s => { s with handlers := s.handlers ++ [(event, callback)] }

/-- `self.stream_handlers.append(handler)` -/
def register (handler : Handler) : Hub Unit := do
  record fun h => { h with table := h.table ++ [.registered handler] }
  modify fun s => { s with streamHandlers := s.streamHandlers ++ [handler] }

end Connection

namespace Subject

/-- An attribute that raises before `send` has set it. -/
def errorMessage : String :=
  "subject must be passed as an argument to a send function. hub_connection.send([method], [subject])"

/-- The attributes of a subject. -/
def object (subject : Nat) : Hub Subject := do
  let s ← get
  s.subjects[subject]?.elim (raise .attributeError) pure

/-- Change a subject. -/
def set (subject : Nat) (f : Subject → Subject) : Hub Unit :=
  modify fun s => { s with subjects := s.subjects.modify subject f }

/-- The subject while somebody holds its lock. -/
def lock (object : Subject) : Subject :=
  { object with locked := true }

/-- The subject when the lock is given back. -/
def unlock (object : Subject) : Subject :=
  { object with locked := false }

/-- The lock is taken. -/
def takeLock (subject : Nat) : Hub Unit := do
  set subject lock
  modify fun s => { s with history := { s.history with turns := s.history.turns ++
    [⟨subject, s.history.current, s.subjects[subject]?.bind (·.target)⟩] } }

/-- `with self.lock`.  A lock that is free is taken without waiting. -/
def withLock (subject : Nat) (p : Hub Unit) : Hub Unit := do
  let self ← object subject
  when self.locked (perform (Op.acquire subject))
  takeLock subject
  p.finally_ (set subject unlock)

/-- `self.connection` -/
def connection (subject : Nat) : Hub Unit := do
  let object ← object subject
  when object.target.isNone (raise (.valueError errorMessage))

variable (cfg : Config)

/-- `self.connection.transport.send(message)` -/
def send (subject : Nat) (message : Message) : Hub Unit := do
  record fun h => { h with streamed := h.streamed ++ [(subject, message)] }
  WebsocketTransport.send cfg (.hub message)

/-- `next` -/
def next (subject : Nat) (item : Value) : Hub Unit :=
  withLock subject do
    connection subject
    let object ← object subject
    send cfg subject (.newStreamItem (.str object.invocationId) .none item)

/-- `start` -/
def start (subject : Nat) : Hub Unit :=
  withLock subject do
    connection subject
    let object ← object subject
    send cfg subject (.newInvocationClientStream
      (.list [.str object.invocationId]) .none (object.target.getD .none) (.tuple []))

/-- `complete` -/
def complete (subject : Nat) : Hub Unit :=
  withLock subject do
    connection subject
    let object ← object subject
    send cfg subject (.newCompletionClientStream (.str object.invocationId) .none)

end Subject

namespace Connection

variable (cfg : Config)

/-- The part of `send` for a list of arguments. -/
def sendList (method : Value) (items : List Value) (onInvocation : Option Nat)
    (invocationId : String) : Hub Unit := do
  let s ← get
  onInvocation.elim (pure ()) fun callback => register (.invocation invocationId callback)
  WebsocketTransport.send cfg
    (.hub (.newInvocation (.str invocationId) (.dict s.headers) method (.list items)))

/-- The part of `send` for a subject. -/
def sendSubject (method : Value) (subject : Nat) : Hub Unit := do
  Subject.set subject fun object => { object with target := some method }
  Subject.start cfg subject

/-- `send`.  The `uuid` is the one that `uuid4` returns. -/
def send (method : Value) (arguments : Arguments) (onInvocation : Option Nat)
    (invocationId : Option String) (uuid : String) : Hub Unit := do
  record fun h => { h with ids := h.ids ++ [invocationId.getD uuid] }
  let s ← get
  when (!WebsocketTransport.isRunning s) (raise
    (.hubConnectionError "Cannot connect to SignalR hub. Unable to transmit messages"))
  when (!arguments.isListOrSubject) (raise .typeError)
  refreshTokenMaybe cfg .send
  match arguments with
  | .list items => sendList cfg method items onInvocation (invocationId.getD uuid)
  | .subject subject => sendSubject cfg method subject
  | .other => pure ()

/-- `stream` -/
def stream (event : String) (eventParams : Value) (uuid : String) : Hub Unit := do
  record fun h => { h with ids := h.ids ++ [uuid] }
  let s ← get
  modify fun s => { s with streams := s.streams ++ [StreamHandler.new event uuid] }
  register (.stream s.streams.length uuid)
  WebsocketTransport.send cfg (.hub (.newStreamInvocation (.str uuid)
    (.dict s.headers) (.str event) eventParams))

end Connection

namespace StreamHandler

/-- `subscribe` on the object of a number. -/
def subscribeObject (object : Nat) (callbacks : SubscribeCallback) : Hub Unit := do
  let s ← get
  s.streams[object]?.elim (raise .attributeError) fun handler => do
    let handler ← ofExcept (handler.subscribe callbacks)
    modify fun s => { s with streams := s.streams.set object handler }

end StreamHandler

namespace WebsocketTransport

variable (cfg : Config)

/-- The `on_open` callback, behind a handshake. -/
def reportOpen : Hub Unit := do
  let s ← get
  when s.onOpen do
    setState .connected
    record fun h => { h with opens := h.opens + 1 }
    call .onOpen

/-- What a frame means, depending on whether the handshake was received: a handshake
response, or messages. -/
def interpret (app : Nat) (raw : Raw) (handshakeReceived : Bool) : Hub (List Message) :=
  if !handshakeReceived then do
    let messages ← evaluateHandshake cfg app raw
    reportOpen
    return messages
  else
    ofExcept (cfg.protocol.parseMessages raw)

/-- The messages of a frame. -/
def receive (app : Nat) (raw : Raw) : Hub (List Message) := do
  let s ← get
  record fun h => { h with received := h.received ++ [(app, s.handshakeReceived, s.state)] }
  interpret cfg app raw s.handshakeReceived

/-- `on_message` -/
def onMessage (app : Nat) (raw : Raw) : Hub Unit := do
  let messages ← receive cfg app raw
  Connection.onMessage messages

end WebsocketTransport

end GeventSignalR
