import GeventSignalR.Hub.Service

/-!
# The subscriber of a stream

`stream` writes the request before its caller can `subscribe`, and what arrives in between goes
to the functions of the constructor.

* `Prompt` are the steps on which `subscribe` is called before a message for the stream was
  dispatched.  Callbacks may raise, and any number of greenlets may receive.
* `Promised` is the invariant of the state: every handler has got the calls that are due, from the
  functions that its object holds.
* `Supplied` is the invariant: a handler whose last callback is running has all its calls.
-/

namespace GeventSignalR

open Coop Coop.Prog

/-- The object of a handler. -/
def Handler.object : Handler → Option Nat
  | .stream object _ => some object
  | .invocation .. => none

/-- If it is a call of `subscribe`, no message for the stream was dispatched before. -/
def isPrompt (s : State) : Activity → Bool
  | .subscribe object _ => (handlersOf s.history.table).all fun h =>
      h.object != some object || (s.messagesFor h).all fun message => !h.isAddressed message
  | _ => true

/-- Calls have ids of their own, and no message comes before its subscriber. -/
def Prompt : Cond State Exc Op Op.Result Activity where
  fork := fun _ _ _ => True
  start := fun s _ t => (∀ id ∈ callId t, id ∉ s.history.ids) ∧ isPrompt s t = true
  resume := fun _ _ _ _ _ => True

instance : System.Decides Prompt where
  fork := fun _ _ _ => isTrue trivial
  start := fun _ _ _ => inferInstanceAs (Decidable (_ ∧ _))
  resume := fun _ _ _ _ _ => isTrue trivial

/-- The calls that are due were made. -/
structure Promised (s : State) : Prop extends Roster s where
  live : ∀ h ∈ handlersOf s.history.table, h.isOver (s.messagesFor h) = false →
    h ∈ s.streamHandlers ∧ callsOf h s.history.calls = h.due (s.messagesFor h)
  due : ∀ h ∈ handlersOf s.history.table, h.due (s.messagesFor h) <+: callsOf h s.history.calls
  functions : ∀ c ∈ s.history.calls, functionOf s c.2 = some c.1

/-- The life of a handler is over. -/
def Over (s : State) (h : Handler) : Prop :=
  h ∈ handlersOf s.history.table ∧ h.isOver (s.messagesFor h) = true

/-- The invariant. -/
structure Supplied (s : State) (P : Multiset (Label Op Activity)) : Prop extends Slots s P where
  promised : Promised s
  finished : ∀ l ∈ P, ∀ h, finishing l = some h → Over s h

/-- The same in a greenlet that has called a handler for the last time. -/
def Finished (busy : Option Handler) : HubInv :=
  fun s P => Supplied s P ∧ ∀ h, busy = some h → Over s h

variable {cfg : Config} {t : Activity} {s s' : State} {P : Multiset (Label Op Activity)}
  {l : Label Op Activity} {h : Handler}

/-- What the proof assumes. -/
abbrev prompt (cfg : Config) (t : Activity) : HubRely :=
  (hub cfg).rely Prompt Supplied t

/-! ## Leaves -/

theorem Over.congr (h' : Over s h) (hs : bookView s' = bookView s) : Over s' h := by
  have htable : s'.history.table = s.history.table := congrArg (·.2.2.2.1) hs
  unfold Over State.messagesFor
  rw [htable]
  exact h'

theorem functionOf_congr (hs : s'.streams = s.streams) (call : HandlerCall) :
    functionOf s' call = functionOf s call := by
  unfold functionOf
  rw [hs]

theorem Promised.congr (hP : Promised s) (hs : bookView s' = bookView s) : Promised s' := by
  have hroster := hP.toRoster.congr hs
  simp only [bookView, Prod.mk.injEq] at hs
  obtain ⟨hhandlers, hstreams, -, htable, hcalls⟩ := hs
  have hmessages : ∀ h, s'.messagesFor h = s.messagesFor h := fun h => by
    rw [State.messagesFor, htable]
  refine ⟨hroster, ?_, ?_, ?_⟩
  · intro h hmem hlive
    rw [htable] at hmem
    rw [hmessages] at hlive ⊢
    rw [hhandlers, hcalls]
    exact hP.live h hmem hlive
  · intro h hmem
    rw [htable] at hmem
    rw [hmessages, hcalls]
    exact hP.due h hmem
  · intro c hc
    rw [hcalls] at hc
    rw [functionOf_congr hstreams]
    exact hP.functions c hc

namespace Supplied

theorem congr (hW : Supplied s P) (hs : bookView s' = bookView s) : Supplied s' P :=
  ⟨hW.toSlots.congr hs, hW.promised.congr hs, fun l hl h hh => (hW.finished l hl h hh).congr hs⟩

theorem cons (hW : Supplied s P) (hres : reserved l = none)
    (hfinishing : ∀ h, finishing l = some h → Over s h) : Supplied s (l ::ₘ P) := by
  refine ⟨hW.toSlots.cons hres, hW.promised, ?_⟩
  intro l' hl'
  rcases Multiset.mem_cons.mp hl' with rfl | hl'
  · exact hfinishing
  · exact hW.finished l' hl'

theorem tail (hW : Supplied s (l ::ₘ P)) : Supplied s P :=
  ⟨hW.toSlots.tail, hW.promised, fun l' hl' => hW.finished l' (Multiset.mem_cons_of_mem hl')⟩

end Supplied

theorem supplied_modify {f : State → State} (hf : ∀ s, bookView (f s) = bookView s) :
    Keeps (prompt cfg t) Supplied (modify f : Hub Unit) :=
  Keeps.modify fun s _ h => h.congr (hf s)

/-- An operation that neither waits with an id nor calls a handler for the last time. -/
theorem supplied_perform {op : Op} (hres : reserved (.blocked t op) = none)
    (hfinishing : finishing (.blocked t op) = none) :
    Keeps (prompt cfg t) Supplied (perform op) :=
  Keeps.perform (fun _ _ h => h.cons hres (by simp [hfinishing])) fun _ _ _ h _ => h.tail

theorem supplied_fork (t' : Activity) : Keeps (prompt cfg t) Supplied (fork t' : Hub Unit) :=
  Keeps.fork fun _ _ h => h.cons rfl (by simp [finishing])

theorem supplied_off : OffReceive (prompt cfg t) Supplied where
  congr := fun h hs => h.congr (bookView_eq_of_transport hs)
  perform := fun hop => supplied_perform (reserved_of_isOutside hop) (finishing_of_isOutside hop)
  fork := supplied_fork

theorem finished_off : OffHandlers (prompt cfg t) (Finished none) where
  congr := fun h hs => ⟨h.1.congr (bookView_eq hs), by simp⟩
  perform := fun hop => Keeps.perform
    (fun _ _ h => h.1.cons (reserved_of_isReceiving (isReceiving_of_isDispatching hop))
      (by simp [finishing_of_isDispatching hop])) fun _ _ _ h _ => ⟨h.tail, by simp⟩
  fork := fun _ => Keeps.fork fun _ _ h => ⟨h.1.cons rfl (by simp [finishing]), by simp⟩

/-! ## What a message does -/

/-- A message is dispatched, and the handlers in the table get their calls. -/
theorem Promised.take {message : Message} {made : List (Function × HandlerCall)}
    (hP : Promised s)
    (hmade : ∀ h ∈ s.streamHandlers, callsOf h made = (h.callFor message).toList)
    (hothers : ∀ c ∈ made, c.2.handler ∈ s.streamHandlers ∧ functionOf s c.2 = some c.1) :
    Promised (taking message made s) := by
  have hregistered : handlersOf (taking message made s).history.table =
      handlersOf s.history.table := handlersOf_dispatched
  have hmessages : ∀ h ∈ handlersOf s.history.table,
      (taking message made s).messagesFor h = s.messagesFor h ++ [message] :=
    fun h hmem => messagesBehind_dispatched hmem
  have hcalls : ∀ h, callsOf h (taking message made s).history.calls =
      callsOf h s.history.calls ++ callsOf h made := fun h => callsOf_append _ _
  -- as long as it lives, it gets the call for the message
  have hlive : ∀ h ∈ handlersOf s.history.table, h.isOver (s.messagesFor h) = false →
      callsOf h (taking message made s).history.calls =
        h.due ((taking message made s).messagesFor h) := by
    intro h hmem hover
    obtain ⟨hin, hdone⟩ := hP.live h hmem hover
    rw [hcalls, hmessages h hmem, Handler.due_append, hover, hdone, hmade h hin]
    rfl
  refine ⟨hP.toRoster.take fun c hc => (hothers c hc).1, ?_, ?_, ?_⟩
  · intro h hmem hover
    rw [hregistered] at hmem
    have hbefore : h.isOver (s.messagesFor h) = false := by
      rw [hmessages h hmem, Handler.isOver_append, Bool.or_eq_false_iff] at hover
      exact hover.1
    exact ⟨(hP.live h hmem hbefore).1, hlive h hmem hbefore⟩
  · intro h hmem
    rw [hregistered] at hmem
    cases hover : h.isOver (s.messagesFor h) with
    | false => exact ⟨[], by rw [List.append_nil, hlive h hmem hover]⟩
    | true =>
        rw [hcalls, hmessages h hmem, Handler.due_append, hover, if_pos rfl, List.append_nil]
        exact (hP.due h hmem).trans (List.prefix_append _ _)
  · intro c hc
    rcases List.mem_append.mp hc with hc | hc
    · exact hP.functions c hc
    · exact (hothers c hc).2

/-- The life of a handler stays over. -/
theorem Over.take {message : Message} {made : List (Function × HandlerCall)} (hover : Over s h) :
    Over (taking message made s) h := by
  obtain ⟨hmem, hover⟩ := hover
  have hmessages : (taking message made s).messagesFor h = s.messagesFor h ++ [message] :=
    messagesBehind_dispatched hmem
  refine ⟨?_, ?_⟩
  · show h ∈ handlersOf (s.history.table ++ [.dispatched message])
    rw [handlersOf_dispatched]
    exact hmem
  · rw [hmessages, Handler.isOver_append, hover, Bool.true_or]

/-- A message ends the life of the handlers with its id. -/
theorem Roster.ended (hR : Roster s) {message : Message} {made : List (Function × HandlerCall)}
    (hin : h ∈ s.streamHandlers) (hended : h.isEnded message = true) :
    Over (taking message made s) h := by
  have hmem := hR.listed.subset hin
  have hmessages : (taking message made s).messagesFor h = s.messagesFor h ++ [message] :=
    messagesBehind_dispatched hmem
  refine ⟨?_, ?_⟩
  · show h ∈ handlersOf (s.history.table ++ [.dispatched message])
    rw [handlersOf_dispatched]
    exact hmem
  · rw [hmessages, Handler.isOver_append, hended, Bool.or_true]

theorem Supplied.take {message : Message} {made : List (Function × HandlerCall)}
    (hW : Supplied s P)
    (hmade : ∀ h ∈ s.streamHandlers, callsOf h made = (h.callFor message).toList)
    (hothers : ∀ c ∈ made, c.2.handler ∈ s.streamHandlers ∧ functionOf s c.2 = some c.1) :
    Supplied (taking message made s) P := by
  have hregistered : handlersOf (taking message made s).history.table =
      handlersOf s.history.table := handlersOf_dispatched
  refine ⟨⟨hW.once, ?_⟩, hW.promised.take hmade hothers,
    fun l hl h hh => (hW.finished l hl h hh).take⟩
  rw [hregistered]
  exact hW.free

/-- Handlers whose life is over are unregistered. -/
theorem Supplied.unregister (hW : Supplied s P) {invocationId : Value}
    (hover : ∀ h ∈ handlersOf s.history.table, Connection.matchesId invocationId h = true →
      h.isOver (s.messagesFor h) = true) :
    Supplied { s with
      streamHandlers := s.streamHandlers.filter fun h => !Connection.matchesId invocationId h } P
      := by
  have hP := hW.promised
  refine ⟨⟨hW.once, hW.free⟩, ⟨hP.toRoster.unregister _, ?_, hP.due, hP.functions⟩, hW.finished⟩
  intro h hmem hlive
  obtain ⟨hin, hcalls⟩ := hP.live h hmem hlive
  refine ⟨List.mem_filter.mpr ⟨hin, ?_⟩, hcalls⟩
  cases hmatches : Connection.matchesId invocationId h with
  | false => rfl
  | true =>
      have hend := hover h hmem hmatches
      rw [show h.isOver (s.messagesFor h) = false from hlive] at hend
      cases hend

theorem finished_service : KeepsService (prompt cfg t) Finished where
  off := finished_off
  roster := fun h => h.1.promised.toRoster
  take := fun {busy s P message made} h hmade hothers hbusy =>
    ⟨h.1.take hmade hothers, fun h' hh => by
      obtain ⟨hin, hended⟩ := (hbusy h').mp hh
      exact h.1.promised.toRoster.ended hin hended⟩
  apply := fun {call f s P hist} hfunction hF => by
    unfold Function.apply record
    rw [wp_bind, wp_modify]
    cases f with
    | default => exact ⟨fun _ => hF, fun hraised => absurd rfl hraised⟩
    | notCallable => exact ⟨fun hreturned => (by cases hreturned), fun _ => ⟨hF.1, by simp⟩⟩
    | user callback =>
        show (perform (Op.callback (.handler callback call))).wp _ _ _ _ _
        rw [wp_perform]
        refine ⟨hF.1.cons rfl hF.2, ?_⟩
        intro s P r hW _
        have hover := hW.finished _ (Multiset.mem_cons_self _ P)
        exact ⟨fun _ => ⟨hW.tail, hover⟩, fun _ => ⟨hW.tail, by simp⟩⟩
  drop := fun {h s P invocationId} hF hmatches => by
    obtain ⟨hmem, hover⟩ := hF.2 h rfl
    refine ⟨hF.1.unregister ?_, by simp⟩
    intro other hother hsame
    -- the handler that is dropped is the one whose end was served
    rw [hF.1.promised.toRoster.same hother hmem hsame hmatches]
    exact hover
  dropNone := fun {s P invocationId} hF hnone => by
    refine ⟨hF.1.unregister ?_, by simp⟩
    intro h hmem hmatches
    by_contra hlive
    have hin := (hF.1.promised.live h hmem (by simpa using hlive)).1
    exact List.filter_eq_nil_iff.mp hnone h hin hmatches

theorem supplied_onMessage (app : Nat) (raw : Raw) :
    Keeps (prompt cfg t) Supplied (WebsocketTransport.onMessage cfg app raw) := by
  have hmessages : ∀ messages, Keeps (prompt cfg t) (Finished none)
      (Connection.onMessage messages) := by
    intro messages
    apply Connection.keeps_onMessage finished_service.dispatch
    intro s P hist hF
    exact wp_mono (fun _ _ _ _ h => ⟨h, by simp⟩) (supplied_off.stop (by decide) s P hist hF.1)
  intro s P hist hW
  refine wp_mono (fun _ _ _ _ h => h.1) (WebsocketTransport.keeps_onMessage finished_off.receive
    hmessages s P hist ⟨hW, by simp⟩)

/-! ## The other greenlets -/

theorem supplied_others : KeepsOthers (prompt cfg t) Supplied cfg where
  send := supplied_off.send
  sleep := fun _ => supplied_perform rfl rfl
  acquire := fun _ => supplied_perform rfl rfl
  modify := fun hf => supplied_modify fun s => bookView_eq_of_others (hf s)

/-- A handler is registered, and nothing is due to it yet. -/
theorem Promised.register (hP : Promised s) {handler : Handler}
    (hV : Vacant handler.invocationId s P)
    (hobject : ∀ object invocationId, handler = .stream object invocationId →
      object < s.streams.length) : Promised (registering handler s) := by
  have hregistered : handlersOf (registering handler s).history.table =
      handlersOf s.history.table ++ [handler] := handlersOf_registered
  have hnew := Roster.new hV
  have hold : ∀ h ∈ handlersOf s.history.table,
      (registering handler s).messagesFor h = s.messagesFor h :=
    fun h hmem => messagesBehind_registered hmem
  have hnone : (registering handler s).messagesFor handler = [] := messagesBehind_new hnew
  refine ⟨hP.toRoster.register hV hobject, ?_, ?_, hP.functions⟩
  · intro h hmem hlive
    rw [hregistered] at hmem
    rcases List.mem_append.mp hmem with hmem | hmem
    · rw [hold h hmem] at hlive ⊢
      obtain ⟨hin, hcalls⟩ := hP.live h hmem hlive
      exact ⟨List.mem_append_left _ hin, hcalls⟩
    · rw [List.mem_singleton.mp hmem, hnone]
      exact ⟨List.mem_append_right _ (List.mem_singleton.mpr rfl), hP.toRoster.callsOf_new hnew⟩
  · intro h hmem
    rw [hregistered] at hmem
    rcases List.mem_append.mp hmem with hmem | hmem
    · rw [hold h hmem]
      exact hP.due h hmem
    · rw [List.mem_singleton.mp hmem, hnone]
      exact List.nil_prefix

theorem Over.register {handler : Handler} (hover : Over s h) : Over (registering handler s) h := by
  obtain ⟨hmem, hover⟩ := hover
  refine ⟨?_, ?_⟩
  · show h ∈ handlersOf (s.history.table ++ [.registered handler])
    rw [handlersOf_registered]
    exact List.mem_append_left _ hmem
  · have hold : (registering handler s).messagesFor h = s.messagesFor h :=
      messagesBehind_registered hmem
    rw [hold]
    exact hover

/-- The objects change, but for none that was called. -/
theorem Supplied.streams (hW : Supplied s P) {streams : List StreamHandler}
    (hlength : s.streams.length ≤ streams.length)
    (hsame : ∀ c ∈ s.history.calls, ∀ object, c.2.handler.object = some object →
      streams[object]? = s.streams[object]?) : Supplied { s with streams } P := by
  have hP := hW.promised
  refine ⟨⟨hW.once, hW.free⟩, ⟨hP.toRoster.streams hlength, hP.live, hP.due, ?_⟩, hW.finished⟩
  intro c hc
  have hfunction := hP.functions c hc
  unfold functionOf at hfunction ⊢
  cases hhandler : c.2.handler with
  | invocation invocationId callback =>
      rw [hhandler] at hfunction
      exact hfunction
  | stream object invocationId =>
      rw [hhandler] at hfunction
      show streams[object]?.map _ = _
      rw [hsame c hc object (by rw [hhandler]; rfl)]
      exact hfunction

/-- The object of a handler that was called. -/
theorem Promised.object (hP : Promised s) {c : Function × HandlerCall}
    (hc : c ∈ s.history.calls) {object : Nat} (hobject : c.2.handler.object = some object) :
    object < s.streams.length := by
  have hmem := hP.toRoster.called c hc
  cases hhandler : c.2.handler with
  | invocation invocationId callback =>
      rw [hhandler] at hobject
      cases hobject
  | stream object' invocationId =>
      rw [hhandler] at hobject hmem
      cases hobject
      exact hP.toRoster.objects object invocationId hmem

theorem supplied_registry : KeepsRegistry (prompt cfg t) Supplied cfg where
  roster := fun h => h.promised.toRoster
  slots := fun h => h.toSlots
  congr := Supplied.congr
  ids := fun id h => ⟨⟨h.once, fun l hl other hother =>
      ⟨List.mem_append_left _ (h.free l hl other hother).1, (h.free l hl other hother).2⟩⟩,
    ⟨h.promised.toRoster.ids id, h.promised.live, h.promised.due, h.promised.functions⟩, h.finished⟩
  streams := fun {s P} event uuid h => by
    apply h.streams
    · simp
    · intro c hc object hobject
      exact List.getElem?_append_left (h.promised.object hc hobject)
  register := fun handler h hV hobject =>
    ⟨hV.register, h.promised.register hV hobject, fun l hl h' hh => (h.finished l hl h' hh).register⟩
  block := fun h hslots => by
    refine ⟨hslots, h.promised, ?_⟩
    intro l hl
    rcases Multiset.mem_cons.mp hl with rfl | hl
    · intro h' hh
      cases hh
    · exact h.finished l hl
  resume := fun h => ⟨h.tail, h.toSlots⟩
  send := supplied_off.send
  subject := supplied_others.subject

/-- No message was dispatched for the stream: its object was not called. -/
theorem Promised.uncalled (hP : Promised s) {object : Nat} {callbacks : SubscribeCallback}
    (hprompt : isPrompt s (.subscribe object callbacks) = true) {c : Function × HandlerCall}
    (hc : c ∈ s.history.calls) : c.2.handler.object ≠ some object := by
  intro hobject
  have hmem := hP.toRoster.called c hc
  have hquiet := List.all_eq_true.mp hprompt _ hmem
  have hunaddressed : ∀ message ∈ s.messagesFor c.2.handler,
      c.2.handler.isAddressed message = false := by
    simpa [hobject] using hquiet
  have hlive := Handler.isOver_of_live fun message hmessage =>
    Handler.isEnded_eq_false (hunaddressed message hmessage)
  have hcalls := (hP.live _ hmem hlive).2
  rw [← Handler.due_filter, List.filter_eq_nil_iff.mpr (by simpa using hunaddressed)] at hcalls
  have hcall : c.2 ∈ callsOf c.2.handler s.history.calls :=
    List.mem_filter.mpr ⟨List.mem_map.mpr ⟨c, hc, rfl⟩, by simp⟩
  rw [hcalls] at hcall
  cases hcall

/-- A call of `subscribe` in front of the messages. -/
theorem supplied_subscribe {object : Nat} {callbacks : SubscribeCallback} (hW : Supplied s P)
    (hprompt : isPrompt s (.subscribe object callbacks) = true)
    {hist : List (Logged State Exc Op Op.Result)} :
    (StreamHandler.subscribeObject object callbacks).wp (prompt cfg t)
      (fun _ s P _ => Supplied s P) s P hist := by
  unfold StreamHandler.subscribeObject
  rw [wp_bind, wp_get]
  show (s.streams[object]?.elim _ _ : Hub Unit).wp _ _ _ _ _
  cases hget : s.streams[object]? with
  | none => exact hW
  | some handler =>
      rw [Option.elim_some, wp_bind, wp_ofExcept]
      cases hresult : handler.subscribe callbacks with
      | error e => exact hW
      | ok handler' =>
          apply hW.streams
          · simp
          · intro c hc other hother
            have hne : object ≠ other := by
              rintro rfl
              exact hW.promised.uncalled hprompt hc hother
            exact List.getElem?_set_ne hne

theorem supplied_runForever (app : Nat) :
    Keeps (prompt cfg t) Supplied (WebSocketApp.runForever cfg app) := by
  apply supplied_off.runForever
  · exact fun s P r hW _ => hW.tail
  · exact fun s P hW => hW.cons rfl (by simp [finishing])
  · exact fun raw s P hist hW _ => supplied_onMessage app raw s P hist hW.tail

theorem supplied_body (hW : Supplied s P) (hstart : Prompt.start s P t)
    {hist : List (Logged State Exc Op Op.Result)} :
    (Hub.body cfg t).wp (prompt cfg t) (fun _ s P _ => Supplied s P) s P hist := by
  cases t with
  | start =>
      have hkeeps : Keeps (prompt cfg .start) Supplied (Hub.body cfg .start) :=
        keeps_once (Keeps.bind (supplied_modify fun _ => rfl) fun _ => supplied_off.start)
      exact hkeeps _ _ _ hW
  | stop =>
      have hkeeps : Keeps (prompt cfg .stop) Supplied (Hub.body cfg .stop) :=
        keeps_once (Keeps.finally_ (supplied_off.stop (by decide)) (supplied_modify fun _ => rfl))
      exact hkeeps _ _ _ hW
  | send method arguments onInvocation invocationId uuid =>
      exact wp_once (supplied_registry.wp_send rfl hW (hstart.1 _ rfl))
  | stream event eventParams uuid =>
      exact wp_once (supplied_registry.wp_stream hW (hstart.1 _ rfl))
  | subscribe object callbacks =>
      exact wp_once (supplied_subscribe hW hstart.2)
  | runForever app => exact supplied_runForever app _ _ _ hW
  | _ => exact supplied_others.body rfl _ _ _ hW

theorem supplied_proof : Proof (hub cfg) Prompt Supplied fun _ _ _ _ => True := by
  have henter : KeepsEntering Prompt Supplied :=
    { inv := fun _ _ _ h => h.congr rfl
      start := fun _ _ _ _ h => h
      resume := fun _ _ _ _ _ _ h => h }
  apply Hub.proof henter
  · refine ⟨⟨by simp, by simp⟩, ⟨Roster.init cfg, ?_, ?_, ?_⟩, by simp⟩ <;>
      simp [State.new, History.new, handlersOf]
  · exact fun _ _ _ h _ _ => h.cons rfl (by simp [finishing])
  · intro s P t hW hstart
    exact ends_of_ready (fun _ _ h => h.tail) (wp_mono
      (fun _ _ _ _ h => h.cons rfl (by simp [finishing])) (supplied_body hW.tail hstart))

/-- In every run whose calls of `subscribe` come before the messages for their streams, the calls
for a stream are made with the functions that its object got from `subscribe`: one for every item,
in order, up to the first completion or cancellation, and the one for that message behind them. -/
theorem subscriber_called {w : World State Exc Op Op.Result Activity}
    (h : (hub cfg).Reach Prompt w) (object : Nat) (invocationId : String)
    (hmem : .stream object invocationId ∈ handlersOf w.shared.history.table) :
    ∃ handler, w.shared.streams[object]? = some handler ∧
      (∀ c ∈ w.shared.history.calls, c.2.handler = .stream object invocationId →
        c.1 = handler.functionFor c.2) ∧
      ((∀ message ∈ w.shared.messagesFor (.stream object invocationId),
          (Handler.stream object invocationId).isEnded message = false) →
        callsOf (.stream object invocationId) w.shared.history.calls =
          (w.shared.messagesFor (.stream object invocationId)).filterMap
            (Handler.stream object invocationId).callFor) ∧
      ∀ before last behind,
        w.shared.messagesFor (.stream object invocationId) = before ++ last :: behind →
        (∀ message ∈ before, (Handler.stream object invocationId).isEnded message = false) →
        (Handler.stream object invocationId).isEnded last = true →
          before.filterMap (Handler.stream object invocationId).callFor ++
              ((Handler.stream object invocationId).callFor last).toList <+:
            callsOf (.stream object invocationId) w.shared.history.calls := by
  have hP := (supplied_proof.sound h).holds.promised
  obtain ⟨handler, hget⟩ := hP.toRoster.object hmem
  refine ⟨handler, hget, ?_, ?_, ?_⟩
  · intro c hc hhandler
    have hfunction := hP.functions c hc
    unfold functionOf at hfunction
    rw [hhandler] at hfunction
    have hsame : some (handler.functionFor c.2) = some c.1 := by
      rw [← hfunction]
      show _ = w.shared.streams[object]?.map _
      rw [hget]
      rfl
    exact (Option.some.inj hsame).symm
  · intro hlive
    rw [(hP.live _ hmem (Handler.isOver_of_live hlive)).2, Handler.due_of_live hlive]
  · intro before last behind hsplit hlive hended
    rw [← Handler.due_of_over hlive hended, ← hsplit]
    exact hP.due _ hmem

/-- An item arrives while `stream` is still writing: it goes to the function of the constructor. -/
theorem item_missed :
    ∃ w, (hub (.direct none)).Reach .any w ∧
      w.shared.streams.map (·.nextCallback) = [.user 0] ∧
      w.shared.history.calls = [(.default, .next (.stream 0 "1") (.int 7))] := by
  have h := (hub (.direct none)).reach_after [.fork .start, .start 0, .start 1,
    .answer 1 (.happened .opened), .answer 1 .done, .start 1,
    .answer 1 (.happened (.message (.text "\x7b\x7d\x1e"))), .start 1,
    .fork (.stream "Counter" .none "1"), .start 2,
    .answer 1 (.happened (.message
      (.text "\x7b\"type\": 2, \"invocationId\": \"1\", \"item\": 7\x7d\x1e"))),
    .answer 2 .done,
    .fork (.subscribe 0 (.dict (some (.user 0)) (some (.user 1)) (some (.user 2)))), .start 3]
    .start rfl
  exact ⟨_, h, rfl, rfl⟩

/-- The same items behind `subscribe`. -/
theorem subscriber_called_item :
    ∃ w, (hub (.direct none)).Reach Prompt w ∧
      w.shared.history.calls = [(.user 0, .next (.stream 0 "1") (.int 7))] ∧
      ∃ handler, w.shared.streams[0]? = some handler ∧
        ∀ c ∈ w.shared.history.calls, c.2.handler = .stream 0 "1" →
          c.1 = handler.functionFor c.2 := by
  have h := (hub (.direct none)).reach_within Prompt [.fork .start, .start 0, .start 1,
    .answer 1 (.happened .opened), .answer 1 .done, .start 1,
    .answer 1 (.happened (.message (.text "\x7b\x7d\x1e"))), .start 1,
    .fork (.stream "Counter" .none "1"), .start 2, .answer 2 .done,
    .fork (.subscribe 0 (.dict (some (.user 0)) (some (.user 1)) (some (.user 2)))), .start 3,
    .answer 1 (.happened (.message
      (.text "\x7b\"type\": 2, \"invocationId\": \"1\", \"item\": 7\x7d\x1e")))] .start rfl
  have hmem : Handler.stream 0 "1" ∈ [Handler.stream 0 "1"] := List.mem_singleton.mpr rfl
  obtain ⟨handler, hget, hfunctions, -⟩ := subscriber_called h 0 "1" hmem
  exact ⟨_, h, rfl, handler, hget, hfunctions⟩

end GeventSignalR
