import GeventSignalR.Coop.System
import GeventSignalR.Hub.Connection
import GeventSignalR.Protocol.JsonRoundTrip

/-!
# The greenlets of a connection

The package together with what runs it.

* `WebSocketApp.runForever` is the loop of websocket-client around the callbacks of
  the transport.
* `hub` gives every activity its program, and says what the outside world can do: a
  write succeeds or fails, a request is answered or fails, a user function returns,
  raises or calls the package, a websocket opens, delivers messages and ends.
-/

namespace GeventSignalR

open Coop Coop.Prog

namespace WebSocketApp

variable (cfg : Config)

/-- `_callback`: an exception of a callback of a websocket, which is over or goes on, is
reported to `on_error`. -/
def callback (app : Nat) (isOver : Bool) (p : Hub Unit) : Hub Unit :=
  p.tryCatch fun e =>
    if e.isException then WebsocketTransport.onSocketError (.failed app isOver) else raise e

/-- What `run_forever` waits for. -/
def nextEvent (app : Nat) : Hub WsEvent :=
  perform (Op.event app)

/-- What `run_forever` does about an event: whether it goes on. -/
def handle (app : Nat) : WsEvent → Hub Bool
  | .opened => do
      setApp app fun a => { a with opened := true }
      callback app false (WebsocketTransport.onOpen cfg)
      return true
  | .message raw => do
      callback app false (WebsocketTransport.onMessage cfg app raw)
      return true
  | .failed e => do
      setApp app fun a => { a with silent := true }
      raise e
  | .closed => do
      setApp app fun a => { a with silent := true }
      return false

/-- `handleDisconnect` -/
def disconnect (app : Nat) (e : Exc) : Hub Bool :=
  if e.isException then do
    callback app true (WebsocketTransport.onSocketError (.failed app true))
    return false
  else
    raise e

/-- One round of `run_forever`: whether there is another one. -/
def round (app : Nat) : Hub Bool :=
  (nextEvent app >>= handle cfg app).tryCatch (disconnect app)

/-- `teardown`, after which the greenlet ends. -/
def teardown (app : Nat) : Hub Unit := do
  setApp app fun a => { a with silent := true }
  (callback app true (WebsocketTransport.onClosed app)).finally_
    (setApp app fun a => { a with ended := true })

/-- The end of a round: another one, or the end of the greenlet. -/
def endRound (app : Nat) : Except Exc Bool → Hub Bool
  | .ok true => return true
  | r => do
      teardown app
      ofExcept r

/-- `run_forever`, round by round.  A greenlet that is killed before it starts does
nothing. -/
def runForever (app : Nat) : Hub Bool := do
  let s ← get
  if s.apps[app]?.any fun a => a.killed && !a.started then do
    setApp app fun a => { a with ended := true }
    return false
  else do
    setApp app fun a => { a with started := true }
    let r ← (round cfg app).attempt
    endRound app r

end WebSocketApp

/-- What the outside world answers. -/
inductive Answer where
  | done
  | raised (e : Exc)
  | response (response : Response)
  | token (token : Option String)
  | happened (event : WsEvent)
  /-- The greenlet was killed. -/
  | killed

namespace Hub

/-- The calls of public methods. -/
def isPublic : Activity → Bool
  | .runForever _ | .checkerRun | .deferredReconnect _ => false
  | _ => true

/-- The operations that run code of the user. -/
def isForeign : Op → Bool
  | .callback _ | .auth _ => true
  | _ => false

/-- The greenlet of a thread has been killed. -/
def isKilled (s : State) : Activity → Bool
  | .runForever app => s.apps[app]?.any (·.killed)
  | _ => false

/-- A websocket whose greenlet waits for it can do something. -/
def isPossible (app : App) (event : WsEvent) : Bool :=
  !app.ended && !app.silent &&
    match event with
    | .opened => !app.opened
    | .message _ => app.opened && !app.closed
    | .failed e => e.isException
    | .closed => true

/-- A write that fails because the connection is lost. -/
def isLost : (op : Op) → Except Exc op.Result → Bool
  | .wsSend .., .error e => e.isConnectionLost
  | _, _ => false

/-- What an answer means for a pending operation. -/
def decode (s : State) (root : Activity) : (op : Op) → Answer → Option (Except Exc op.Result)
  | _, .killed => if isKilled s root then some (.error .greenletExit) else none
  | .wsSend .., .done => some (.ok ())
  | .wsSend .., .raised e => if e.isConnectionLost then some (.error e) else none
  | .wsClose .., .done => some (.ok ())
  | .wsClose .., .raised e => if e.isConnectionLost then some (.error e) else none
  | .post .., .response response => some (.ok response)
  | .post .., .raised e => if e.isOSError then some (.error e) else none
  | .kill app, .done =>
      match root with
      -- killing the current greenlet does not return
      | .runForever root => if root = app then none else some (.ok ())
      | _ => some (.ok ())
  | .sleep _, .done => some (.ok ())
  | .auth _, .token token => some (.ok token)
  | .auth _, .raised e => some (.error e)
  | .callback _, .done => some (.ok ())
  | .callback _, .raised e => some (.error e)
  | .acquire subject, .done =>
      if s.subjects[subject]?.any (·.locked) then none else some (.ok ())
  | .event app, .happened event =>
      if s.apps[app]?.any (isPossible · event) then some (.ok event) else none
  | _, _ => none

/-- A call that returns nothing. -/
def once (p : Hub Unit) : Hub Bool := do
  p
  return false

/-- The program of an activity. -/
def body (cfg : Config) : Activity → Hub Bool
  | .start => once do
      record fun h => { h with stopped := false }
      Connection.start cfg
  | .stop => once ((Connection.stop .user).finally_ (record fun h => { h with stopped := true }))
  | .send method arguments onInvocation invocationId uuid =>
      once (Connection.send cfg method arguments onInvocation invocationId uuid)
  | .stream event eventParams uuid => once (Connection.stream cfg event eventParams uuid)
  | .on event callback => once (Connection.on event callback)
  | .onOpen registered => once (modify fun s => { s with onOpen := registered })
  | .onClose registered => once (modify fun s => { s with onClose := registered })
  | .onReconnect registered => once (modify fun s => { s with onReconnect := registered })
  | .onError registered => once (modify fun s => { s with onError := registered })
  | .subscribe object callbacks => once (StreamHandler.subscribeObject object callbacks)
  | .newSubject uuid =>
      once (modify fun s => { s with subjects := s.subjects ++ [⟨none, uuid, false⟩] })
  | .next subject item => once (Subject.next cfg subject item)
  | .complete subject => once (Subject.complete cfg subject)
  | .runForever app => WebSocketApp.runForever cfg app
  | .checkerRun => ConnectionStateChecker.run cfg
  | .deferredReconnect sleepTime => once (WebsocketTransport.deferredReconnect cfg sleepTime)
  | .clock seconds => once (modify fun s => { s with now := s.now + seconds })

/-- The greenlet goes on. -/
def enter (t : Activity) (s : State) : State :=
  { s with history := { s.history with current := t } }

end Hub

/-- The frame of a websocket that its greenlet takes up. -/
def arrived : (op : Op) → Except Exc op.Result → Option Raw
  | .event _, .ok (.message raw) => some raw
  | _, _ => none

/-- A connection with the greenlets that use it. -/
def hub (cfg : Config) : System State Exc Op Op.Result Activity Answer where
  init := State.new cfg
  body := fun t => .write (Hub.enter t) ((Hub.body cfg t).entering (Hub.enter t))
  forkable := Hub.isPublic
  callable := fun op t => Hub.isForeign op && Hub.isPublic t
  decode := Hub.decode

/-- A connection that skips negotiation, so that its `urllib` is not called. -/
def Config.direct (reconnection : Option ReconnectionPolicy) : Config where
  url := "ws://localhost/hub"
  protocol := JsonHubProtocol.protocol JsonText.python
  urllib := ⟨fun _ => none, fun url => ⟨"", "", url, "", ""⟩, (·.path), fun _ => [], fun _ => ""⟩
  str := .plain
  headers := []
  auth := false
  skipNegotiation := true
  keepAliveInterval := 15
  reconnection
  accepted := fun _ => rfl

/-- Nobody outside the package runs a websocket. -/
theorem Hub.ne_runForever_of_arrives {cfg : Config} {t : Activity} (h : (hub cfg).Arrives t)
    (app : Nat) : t ≠ .runForever app := by
  rintro rfl
  rcases h with hfork | ⟨op, hcall⟩
  · cases hfork
  · simp [hub, isPublic] at hcall

/-- A write fails because the connection is lost, or because its greenlet is killed. -/
theorem Hub.possible_write {cfg : Config} {s : State} {app : Nat} {message : Outgoing} {e : Exc}
    (h : (hub cfg).Possible s (.wsSend app message) (.error e)) :
    e.isConnectionLost = true ∨ e = .greenletExit := by
  obtain ⟨root, answer, hdecode⟩ := h
  cases answer with
  | raised e' =>
      simp only [hub, decode] at hdecode
      split_ifs at hdecode with hlost
      cases hdecode
      exact .inl hlost
  | killed =>
      simp only [hub, decode] at hdecode
      split_ifs at hdecode
      cases hdecode
      exact .inr rfl
  | _ => cases hdecode

/-- Waiting for a websocket fails only because the greenlet is killed. -/
theorem Hub.possible_event_error {cfg : Config} {s : State} {app : Nat} {e : Exc}
    (h : (hub cfg).Possible s (.event app) (.error e)) : e = .greenletExit := by
  obtain ⟨root, answer, hdecode⟩ := h
  cases answer with
  | happened event =>
      simp only [hub, decode] at hdecode
      split_ifs at hdecode
      cases hdecode
  | killed =>
      simp only [hub, decode] at hdecode
      split_ifs at hdecode
      cases hdecode
      rfl
  | _ => cases hdecode

/-- What a websocket does when its greenlet waits for it. -/
theorem Hub.possible_event {cfg : Config} {s : State} {app : Nat} {event : WsEvent}
    (h : (hub cfg).Possible s (.event app) (.ok event)) :
    ∃ a, s.apps[app]? = some a ∧ isPossible a event = true := by
  obtain ⟨root, answer, hdecode⟩ := h
  cases answer with
  | happened event' =>
      simp only [hub, decode] at hdecode
      split_ifs at hdecode with hpossible
      cases hdecode
      cases happ : s.apps[app]? with
      | none => simp [happ] at hpossible
      | some a => exact ⟨a, rfl, by simpa [happ] using hpossible⟩
  | killed =>
      simp only [hub, decode] at hdecode
      split_ifs at hdecode
      cases hdecode
  | _ => cases hdecode

end GeventSignalR
