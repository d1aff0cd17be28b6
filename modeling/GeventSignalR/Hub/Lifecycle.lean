import GeventSignalR.Hub.Callable
import GeventSignalR.Hub.Service

/-!
# Exactly once

Handlers are registered by calls of `send` and `stream` in any number of greenlets, while one
greenlet dispatches what arrives and unregisters those whose life is over.

* `Regular` are the steps with new ids, with callbacks that return, and with one greenlet inside
  `on_message`.
* `Booked` relates the table to the messages: a handler has got the calls that are due, and is
  registered until its life is over.
* `Ledger` is the invariant, `Held` what it says to the greenlet inside `on_message`.
-/

namespace GeventSignalR

open Coop Coop.Prog

/-- A position inside `on_message`. -/
def inReceive : Label Op Activity → Bool
  | .ready _ => false
  | .blocked _ op => isReceiving op

/-- The callback of a handler does not return. -/
def isRaising : (op : Op) → Except Exc op.Result → Bool
  | .callback (.handler ..), .error _ => true
  | _, _ => false

/-- Calls have ids of their own, callbacks of handlers are functions that return, and a greenlet
takes up a frame while no other one is inside `on_message`. -/
def Regular : Cond State Exc Op Op.Result Activity where
  fork := fun _ _ _ => True
  start := fun s _ t => (∀ id ∈ callId t, id ∉ s.history.ids) ∧ t.isSound = true
  resume := fun _ P _ op r =>
    isRaising op r = false ∧ ((arrived op r).isSome = true → ∀ l ∈ P, inReceive l = false)

instance : System.Decides Regular where
  fork := fun _ _ _ => isTrue trivial
  start := fun _ _ _ => inferInstanceAs (Decidable (_ ∧ _))
  resume := fun _ P _ _ _ =>
    inferInstanceAs (Decidable (_ ∧ (_ → ∀ l ∈ P, inReceive l = false)))

/-- The table and the calls, while the last callback of some handlers has not returned. -/
structure Booked (busy : Handler → Prop) (s : State) : Prop extends Roster s where
  member : ∀ h ∈ handlersOf s.history.table,
    (h ∈ s.streamHandlers ↔ h.isOver (s.messagesFor h) = false ∨ busy h)
  busy : ∀ h, busy h → h ∈ handlersOf s.history.table ∧ h.isOver (s.messagesFor h) = true
  calls : ∀ h ∈ handlersOf s.history.table, callsOf h s.history.calls = h.due (s.messagesFor h)
  functions : ∀ handler ∈ s.streams, handler.isCallable = true

/-- The invariant. -/
structure Ledger (s : State) (P : Multiset (Label Op Activity)) : Prop extends Slots s P where
  booked : Booked (fun h => ∃ l ∈ P, finishing l = some h) s
  single : P.countP (inReceive ·) ≤ 1

/-- The same in the greenlet inside `on_message`, which may be about to unregister a handler. -/
structure Held (busy : Option Handler) (s : State) (P : Multiset (Label Op Activity)) : Prop
    extends Slots s P where
  booked : Booked (fun h => busy = some h) s
  quiet : ∀ l ∈ P, inReceive l = false

variable {cfg : Config} {t : Activity} {s s' : State} {P : Multiset (Label Op Activity)}
  {l : Label Op Activity} {h : Handler}

/-- What the proof assumes. -/
abbrev regular (cfg : Config) (t : Activity) : HubRely :=
  (hub cfg).rely Regular Ledger t

/-! ## Positions -/

theorem finishing_eq_none (hl : inReceive l = false) : finishing l = none := by
  cases l with
  | ready t => rfl
  | blocked t op =>
      cases op with
      | callback callback =>
          cases callback with
          | handler f call => cases hl
          | _ => rfl
      | _ => rfl

theorem reserved_eq_none (hl : inReceive l = true) : reserved l = none := by
  cases l with
  | ready t => rfl
  | blocked t op =>
      cases op with
      | auth site => cases hl
      | _ => rfl

theorem Booked.congr_busy {busy busy' : Handler → Prop} (h : Booked busy s)
    (hbusy : ∀ h, busy' h ↔ busy h) : Booked busy' s where
  toRoster := h.toRoster
  member := fun handler hmem => by
    rw [hbusy]
    exact h.member handler hmem
  busy := fun handler hb => h.busy handler ((hbusy handler).mp hb)
  calls := h.calls
  functions := h.functions

namespace Ledger

theorem cons (hL : Ledger s P) (hl : inReceive l = false) (hres : reserved l = none) :
    Ledger s (l ::ₘ P) where
  toSlots := hL.toSlots.cons hres
  booked := by
    apply hL.booked.congr_busy
    intro h
    simp [finishing_eq_none hl]
  single := by
    rw [Multiset.countP_cons_of_neg _ (by simp [hl])]
    exact hL.single

theorem tail (hL : Ledger s (l ::ₘ P)) (hl : inReceive l = false) : Ledger s P where
  toSlots := hL.toSlots.tail
  booked := by
    apply hL.booked.congr_busy
    intro h
    simp [finishing_eq_none hl]
  single := by
    have hsingle := hL.single
    rwa [Multiset.countP_cons_of_neg _ (by simp [hl])] at hsingle

/-- The greenlet inside `on_message` goes on: no other one is there. -/
theorem held (hL : Ledger s (l ::ₘ P)) (hl : inReceive l = true) : Held (finishing l) s P := by
  have hquiet : ∀ l' ∈ P, inReceive l' = false := by
    have hsingle := hL.single
    rw [Multiset.countP_cons, if_pos hl] at hsingle
    have hzero : P.countP (inReceive ·) = 0 := by omega
    simpa using Multiset.countP_eq_zero.mp hzero
  refine ⟨hL.toSlots.tail, ?_, hquiet⟩
  apply hL.booked.congr_busy
  intro h
  constructor
  · exact fun hbusy => ⟨l, Multiset.mem_cons_self l P, hbusy⟩
  · rintro ⟨l', hl', hbusy⟩
    rcases Multiset.mem_cons.mp hl' with rfl | hl'
    · exact hbusy
    · rw [finishing_eq_none (hquiet l' hl')] at hbusy
      cases hbusy

/-- A greenlet enters `on_message`. -/
theorem enters (hL : Ledger s P) (hquiet : ∀ l ∈ P, inReceive l = false) : Held none s P := by
  refine ⟨hL.toSlots, ?_, hquiet⟩
  apply hL.booked.congr_busy
  intro h
  constructor
  · intro hbusy
    cases hbusy
  · rintro ⟨l, hl, hbusy⟩
    rw [finishing_eq_none (hquiet l hl)] at hbusy
    cases hbusy

end Ledger

namespace Held

variable {busy : Option Handler}

/-- It waits for a callback. -/
theorem waits (hH : Held (finishing l) s P) (hl : inReceive l = true) : Ledger s (l ::ₘ P) where
  toSlots := hH.toSlots.cons (reserved_eq_none hl)
  booked := by
    apply hH.booked.congr_busy
    intro h
    constructor
    · rintro ⟨l', hl', hbusy⟩
      rcases Multiset.mem_cons.mp hl' with rfl | hl'
      · exact hbusy
      · rw [finishing_eq_none (hH.quiet l' hl')] at hbusy
        cases hbusy
    · exact fun hbusy => ⟨l, Multiset.mem_cons_self l P, hbusy⟩
  single := by
    rw [Multiset.countP_cons, if_pos hl]
    have hzero : P.countP (inReceive ·) = 0 := by
      rw [Multiset.countP_eq_zero]
      exact fun l hl => by simp [hH.quiet l hl]
    omega

/-- It leaves `on_message`. -/
theorem leaves (hH : Held none s P) : Ledger s P where
  toSlots := hH.toSlots
  booked := by
    apply hH.booked.congr_busy
    intro h
    constructor
    · rintro ⟨l, hl, hbusy⟩
      rw [finishing_eq_none (hH.quiet l hl)] at hbusy
      cases hbusy
    · intro hbusy
      cases hbusy
  single := by
    have hzero : P.countP (inReceive ·) = 0 := by
      rw [Multiset.countP_eq_zero]
      exact fun l hl => by simp [hH.quiet l hl]
    omega

end Held

/-! ## Leaves -/

theorem Booked.congr {busy : Handler → Prop} (h : Booked busy s) (hs : bookView s' = bookView s) :
    Booked busy s' := by
  have hroster := h.toRoster.congr hs
  simp only [bookView, Prod.mk.injEq] at hs
  obtain ⟨hhandlers, hstreams, -, htable, hcalls⟩ := hs
  have hmessages : ∀ h, s'.messagesFor h = s.messagesFor h := fun h => by
    rw [State.messagesFor, htable]
  refine ⟨hroster, ?_, ?_, ?_, ?_⟩
  · intro handler hmem
    rw [htable] at hmem
    rw [hmessages, hhandlers]
    exact h.member handler hmem
  · intro handler hbusy
    rw [hmessages, htable]
    exact h.busy handler hbusy
  · intro handler hmem
    rw [htable] at hmem
    rw [hmessages, hcalls]
    exact h.calls handler hmem
  · rw [hstreams]
    exact h.functions

theorem Ledger.congr (h : Ledger s P) (hs : bookView s' = bookView s) : Ledger s' P :=
  ⟨h.toSlots.congr hs, h.booked.congr hs, h.single⟩

theorem Held.congr {busy : Option Handler} (h : Held busy s P) (hs : bookView s' = bookView s) :
    Held busy s' P :=
  ⟨h.toSlots.congr hs, h.booked.congr hs, h.quiet⟩

theorem ledger_modify {f : State → State} (hf : ∀ s, bookView (f s) = bookView s) :
    Keeps (regular cfg t) Ledger (modify f : Hub Unit) :=
  Keeps.modify fun s _ h => h.congr (hf s)

theorem ledger_perform {op : Op} (hop : isOutside op = true) :
    Keeps (regular cfg t) Ledger (perform op) := by
  have hreceive : inReceive (.blocked t op) = false := isReceiving_of_isOutside hop
  have hreserved : reserved (.blocked t op) = none := reserved_of_isOutside hop
  exact Keeps.perform (fun _ _ h => h.cons hreceive hreserved) fun _ _ _ h _ => h.tail hreceive

theorem ledger_off : OffReceive (regular cfg t) Ledger where
  congr := fun h hs => h.congr (bookView_eq_of_transport hs)
  perform := ledger_perform
  fork := fun _ => Keeps.fork fun _ _ h => h.cons rfl rfl

/-- An operation inside `on_message`. -/
theorem held_perform {op : Op} (hop : isReceiving op = true) :
    Keeps (regular cfg t) (Held (finishing (.blocked t op))) (perform op) :=
  Keeps.perform (fun _ _ h => h.waits hop) fun _ _ _ h _ => h.held hop

theorem held_off : OffHandlers (regular cfg t) (Held none) where
  congr := fun h hs => h.congr (bookView_eq hs)
  perform := fun {op} hop => by
    have hkeeps : Keeps (regular cfg t) (Held (finishing (.blocked t op))) (perform op) :=
      held_perform (isReceiving_of_isDispatching hop)
    rwa [finishing_of_isDispatching hop] at hkeeps
  fork := fun _ => Keeps.fork fun _ _ h => ⟨h.toSlots.cons rfl, h.booked, fun l hl => by
    rcases Multiset.mem_cons.mp hl with rfl | hl
    · rfl
    · exact h.quiet l hl⟩

/-! ## The greenlet inside `on_message` -/

namespace Held

/-- The handlers in the table get the calls that the message asks for. -/
theorem take {message : Message} {made : List (Function × HandlerCall)} {busy : Option Handler}
    (hH : Held none s P)
    (hmade : ∀ h ∈ s.streamHandlers, callsOf h made = (h.callFor message).toList)
    (hothers : ∀ c ∈ made, c.2.handler ∈ s.streamHandlers)
    (hbusy : ∀ h, busy = some h ↔ h ∈ s.streamHandlers ∧ h.isEnded message = true) :
    Held busy (taking message made s) P := by
  have hB := hH.booked
  have hregistered : handlersOf (taking message made s).history.table =
      handlersOf s.history.table := handlersOf_dispatched
  have hmessages : ∀ h ∈ handlersOf s.history.table,
      (taking message made s).messagesFor h = s.messagesFor h ++ [message] :=
    fun h hmem => messagesBehind_dispatched hmem
  have hlisted : ∀ h ∈ s.streamHandlers, h ∈ handlersOf s.history.table :=
    fun h hmem => hB.listed.subset hmem
  have hmember : ∀ h ∈ handlersOf s.history.table,
      (h ∈ s.streamHandlers ↔ h.isOver (s.messagesFor h) = false) := by
    intro h hmem
    rw [hB.member h hmem]
    simp
  -- who is free, who is a member, who is busy and which calls are due
  refine ⟨⟨hH.once, ?_⟩, ⟨hB.toRoster.take hothers, ?_, ?_, ?_, hB.functions⟩, hH.quiet⟩
  · rw [hregistered]
    exact hH.free
  · intro h hmem
    rw [hregistered] at hmem
    show h ∈ s.streamHandlers ↔ _
    rw [hmessages h hmem, Handler.isOver_append, Bool.or_eq_false_iff, hbusy]
    constructor
    · intro hin
      cases hended : h.isEnded message with
      | true => exact .inr ⟨hin, rfl⟩
      | false => exact .inl ⟨(hmember h hmem).mp hin, rfl⟩
    · rintro (⟨hover, -⟩ | ⟨hin, -⟩)
      · exact (hmember h hmem).mpr hover
      · exact hin
  · intro h hb
    obtain ⟨hin, hended⟩ := (hbusy h).mp hb
    rw [hregistered, hmessages h (hlisted h hin), Handler.isOver_append, hended]
    exact ⟨hlisted h hin, Bool.or_true _⟩
  · intro h hmem
    rw [hregistered] at hmem
    rw [hmessages h hmem, Handler.due_append]
    show callsOf h (s.history.calls ++ made) = _
    rw [callsOf_append, hB.calls h hmem]
    cases hover : h.isOver (s.messagesFor h) with
    | false => rw [hmade h ((hmember h hmem).mpr hover)]; rfl
    | true =>
        have hnone : callsOf h made = [] := by
          simp only [callsOf, List.filter_eq_nil_iff, List.mem_map, decide_eq_true_eq]
          rintro call ⟨c, hc, rfl⟩ hsame
          have hin := hothers c hc
          rw [hsame, hmember h hmem, hover] at hin
          cases hin
        rw [hnone]
        rfl

variable {invocationId : Value}

/-- A handler whose life is over is unregistered. -/
theorem drop (hH : Held (some h) s P) (hmatches : Connection.matchesId invocationId h = true) :
    Held none { s with
      streamHandlers := s.streamHandlers.filter fun h => !Connection.matchesId invocationId h } P
      := by
  have hB := hH.booked
  obtain ⟨hregistered, hover⟩ := hB.busy h rfl
  refine ⟨⟨hH.once, hH.free⟩, ?_, hH.quiet⟩
  refine ⟨hB.toRoster.unregister _, ?_, ?_, hB.calls, hB.functions⟩
  · intro other hmem
    rw [List.mem_filter, hB.member other hmem]
    constructor
    · rintro ⟨hin | hin, hother⟩
      · exact .inl hin
      · cases hin
        simp [hmatches] at hother
    · rintro (hin | hin)
      · refine ⟨.inl hin, ?_⟩
        by_contra hother
        have hsame : other = h := hB.same hmem hregistered (by simpa using hother) hmatches
        have hboth : h.isOver (s.messagesFor h) = false := hsame ▸ hin
        rw [hover] at hboth
        cases hboth
      · cases hin
  · intro other hother
    cases hother

/-- A message without a registered handler unregisters none. -/
theorem dropNone (hH : Held none s P)
    (hnone : s.streamHandlers.filter (Connection.matchesId invocationId) = []) :
    Held none { s with
      streamHandlers := s.streamHandlers.filter fun h => !Connection.matchesId invocationId h } P
      := by
  apply hH.congr
  have hall : s.streamHandlers.filter (fun h => !Connection.matchesId invocationId h) =
      s.streamHandlers := by
    rw [List.filter_eq_self]
    intro h hmem
    simpa using List.filter_eq_nil_iff.mp hnone h hmem
  simp only [bookView, hall]

end Held

/-- The call of a function returns. -/
theorem held_apply {f : Function} {call : HandlerCall} (hf : f.isCallable = true)
    {hist : List (Logged State Exc Op Op.Result)} (hH : Held call.ending (calling f call s) P) :
    (f.apply call).wp (regular cfg t) (fun r s P _ => r = .ok () ∧ Held call.ending s P)
      s P hist := by
  unfold Function.apply record
  rw [wp_bind, wp_modify]
  cases f with
  | default => exact ⟨rfl, hH⟩
  | notCallable => cases hf
  | user callback =>
      show (perform (Op.callback (.handler callback call))).wp _ _ _ _ _
      rw [wp_perform]
      refine ⟨Held.waits (l := .blocked t (.callback (.handler callback call))) hH rfl, ?_⟩
      intro s P r hL hres
      refine ⟨?_, hL.held rfl⟩
      rcases r with e | _
      · have hreturns := hres.1.1
        cases hreturns
      · rfl

theorem StreamHandler.isCallable_functionFor {handler : StreamHandler}
    (h : handler.isCallable = true) (call : HandlerCall) :
    (handler.functionFor call).isCallable = true := by
  simp only [StreamHandler.isCallable, Bool.and_eq_true] at h
  cases call with
  | next _ _ => exact h.1.1
  | complete _ _ => exact h.1.2
  | error _ _ => exact h.2

/-- What is called is a function. -/
theorem Booked.isCallable {busy : Handler → Prop} (hB : Booked busy s) {call : HandlerCall}
    {f : Function} (hf : functionOf s call = some f) : f.isCallable = true := by
  unfold functionOf at hf
  cases hhandler : call.handler with
  | invocation invocationId callback =>
      rw [hhandler] at hf
      have hfunction : Function.user callback = f := Option.some.inj hf
      rw [← hfunction]
      rfl
  | stream object invocationId =>
      rw [hhandler] at hf
      obtain ⟨handler, hget, hfunction⟩ := Option.map_eq_some_iff.mp hf
      rw [← hfunction]
      exact StreamHandler.isCallable_functionFor
        (hB.functions handler (List.mem_of_getElem? hget)) call

theorem held_service : KeepsService (regular cfg t) Held where
  off := held_off
  roster := fun hH => hH.booked.toRoster
  take := fun hH hmade hothers hbusy => hH.take hmade (fun c hc => (hothers c hc).1) hbusy
  apply := fun {call f s P hist} hfunction hH => by
    have hf : f.isCallable = true := hH.booked.isCallable hfunction
    refine wp_mono ?_ (held_apply hf hH)
    rintro r s P hist ⟨rfl, hH⟩
    exact ⟨fun _ => hH, fun hraised => absurd rfl hraised⟩
  drop := fun hH hmatches => hH.drop hmatches
  dropNone := fun hH hnone => hH.dropNone hnone

/-- A batch of messages. -/
theorem held_onMessage (messages : List Message) :
    Leads (regular cfg t) (Held none) Ledger (Connection.onMessage messages) := by
  induction messages with
  | nil => exact fun _ _ _ h => h.leaves
  | cons message messages ih =>
      have hdispatch : Leads (regular cfg t) (Held none) Ledger
          (Connection.dispatch message >>= fun _ => Connection.onMessage messages) :=
        Leads.bind (fun _ _ h => h.leaves) (held_service.dispatch message) fun _ => ih
      cases message with
      | close error =>
          exact Leads.to_keeps (fun _ _ h => h.leaves) (ledger_off.stop (by decide))
      | _ => exact hdispatch

theorem held_receive (app : Nat) (raw : Raw) :
    Leads (regular cfg t) (Held none) Ledger (WebsocketTransport.onMessage cfg app raw) :=
  Leads.bind (fun _ _ h => h.leaves) held_off.receive fun _ => held_onMessage _

/-! ## The greenlets that register -/

/-- The objects change. -/
theorem Ledger.streams (hL : Ledger s P) {streams : List StreamHandler}
    (hlength : s.streams.length ≤ streams.length)
    (hfunctions : ∀ handler ∈ streams, handler.isCallable = true) :
    Ledger { s with streams } P := by
  have hB := hL.booked
  exact ⟨⟨hL.once, hL.free⟩, ⟨hB.toRoster.streams hlength, hB.member, hB.busy, hB.calls,
    hfunctions⟩, hL.single⟩

theorem Booked.register {busy : Handler → Prop} (hB : Booked busy s) {handler : Handler}
    (hV : Vacant handler.invocationId s P)
    (hobject : ∀ object invocationId, handler = .stream object invocationId →
      object < s.streams.length) : Booked busy (registering handler s) := by
  have hregistered : handlersOf (registering handler s).history.table =
      handlersOf s.history.table ++ [handler] := handlersOf_registered
  have hnew := Roster.new hV
  have hold : ∀ h ∈ handlersOf s.history.table,
      (registering handler s).messagesFor h = s.messagesFor h :=
    fun h hmem => messagesBehind_registered hmem
  have hnone : (registering handler s).messagesFor handler = [] := messagesBehind_new hnew
  refine ⟨hB.toRoster.register hV hobject, ?_, ?_, ?_, hB.functions⟩
  · intro h hmem
    rw [hregistered] at hmem
    show h ∈ s.streamHandlers ++ [handler] ↔ _
    rcases List.mem_append.mp hmem with hmem | hmem
    · have hother : h ≠ handler := fun hsame => hnew (hsame ▸ hmem)
      rw [hold h hmem, List.mem_append, List.mem_singleton, or_iff_left hother]
      exact hB.member h hmem
    · rw [List.mem_singleton.mp hmem, hnone]
      simp [Handler.isOver]
  · intro h hbusy
    obtain ⟨hmem, hover⟩ := hB.busy h hbusy
    rw [hregistered, hold h hmem]
    exact ⟨List.mem_append_left _ hmem, hover⟩
  · intro h hmem
    rw [hregistered] at hmem
    rcases List.mem_append.mp hmem with hmem | hmem
    · rw [hold h hmem]
      exact hB.calls h hmem
    · rw [List.mem_singleton.mp hmem, hnone]
      exact hB.toRoster.callsOf_new hnew

theorem ledger_others : KeepsOthers (regular cfg t) Ledger cfg where
  send := ledger_off.send
  sleep := fun _ => ledger_perform rfl
  acquire := fun _ => ledger_perform rfl
  modify := fun hf => ledger_modify fun s => bookView_eq_of_others (hf s)

theorem ledger_registry : KeepsRegistry (regular cfg t) Ledger cfg where
  roster := fun h => h.booked.toRoster
  slots := fun h => h.toSlots
  congr := Ledger.congr
  ids := fun id h => by
    have hB := h.booked
    exact ⟨⟨h.once, fun l hl other hother => ⟨List.mem_append_left _ (h.free l hl other hother).1,
      (h.free l hl other hother).2⟩⟩, ⟨hB.toRoster.ids id, hB.member, hB.busy, hB.calls,
        hB.functions⟩, h.single⟩
  streams := fun {s P} event uuid h => by
    refine h.streams (by simp) ?_
    intro handler hmem
    rcases List.mem_append.mp hmem with hmem | hmem
    · exact h.booked.functions handler hmem
    · rw [List.mem_singleton.mp hmem]
      rfl
  register := fun handler h hV hobject =>
    ⟨hV.register, h.booked.register hV hobject, h.single⟩
  block := fun {s P} h hslots => by
    refine ⟨hslots, ?_, ?_⟩
    · exact h.booked.congr_busy fun h => by simp [finishing]
    · rw [Multiset.countP_cons_of_neg _ (by simp [inReceive, isReceiving])]
      exact h.single
  resume := fun h => ⟨h.tail rfl, h.toSlots⟩
  send := ledger_off.send
  subject := ledger_others.subject

/-- A sound call of `subscribe`. -/
theorem ledger_subscribe {object : Nat} {callbacks : SubscribeCallback}
    (hsound : callbacks.isSound = true) :
    Keeps (regular cfg t) Ledger (StreamHandler.subscribeObject object callbacks) := by
  apply Keeps.get_bind
  intro s P hist hL
  cases hget : s.streams[object]? with
  | none => exact hL
  | some handler =>
      rw [Option.elim_some, wp_bind, wp_ofExcept]
      cases hresult : handler.subscribe callbacks with
      | error e => exact hL
      | ok handler' =>
          refine Ledger.streams hL (by simp) ?_
          intro other hmem
          rcases List.mem_or_eq_of_mem_set hmem with hmem | rfl
          · exact hL.booked.functions other hmem
          · exact StreamHandler.isCallable_of_subscribe hsound hresult

theorem ledger_runForever (app : Nat) :
    Keeps (regular cfg t) Ledger (WebSocketApp.runForever cfg app) := by
  apply ledger_off.runForever
  · exact fun s P r hL _ => hL.tail rfl
  · exact fun s P hL => hL.cons rfl rfl
  · intro raw s P hist hL hres
    have hquiet : ∀ l ∈ P, inReceive l = false := hres.1.2 rfl
    exact held_receive app raw s P hist ((hL.tail rfl).enters hquiet)

/-- The body of a greenlet, from a start that the condition allows. -/
theorem ledger_body (hL : Ledger s P) (hstart : Regular.start s P t)
    {hist : List (Logged State Exc Op Op.Result)} :
    (Hub.body cfg t).wp (regular cfg t) (fun _ s P _ => Ledger s P) s P hist := by
  cases t with
  | start =>
      have hkeeps : Keeps (regular cfg .start) Ledger (Hub.body cfg .start) :=
        keeps_once (Keeps.bind (ledger_modify fun _ => rfl) fun _ => ledger_off.start)
      exact hkeeps _ _ _ hL
  | stop =>
      have hkeeps : Keeps (regular cfg .stop) Ledger (Hub.body cfg .stop) :=
        keeps_once (Keeps.finally_ (ledger_off.stop (by decide)) (ledger_modify fun _ => rfl))
      exact hkeeps _ _ _ hL
  | send method arguments onInvocation invocationId uuid =>
      exact wp_once (ledger_registry.wp_send rfl hL (hstart.1 _ rfl))
  | stream event eventParams uuid =>
      exact wp_once (ledger_registry.wp_stream hL (hstart.1 _ rfl))
  | subscribe object callbacks => exact keeps_once (ledger_subscribe hstart.2) _ _ _ hL
  | runForever app => exact ledger_runForever app _ _ _ hL
  | _ => exact ledger_others.body rfl _ _ _ hL

theorem ledger_proof : Proof (hub cfg) Regular Ledger fun _ _ _ _ => True := by
  have henter : KeepsEntering Regular Ledger :=
    { inv := fun _ _ _ h => h.congr rfl
      start := fun _ _ _ _ h => h
      resume := fun _ _ _ _ _ _ h => h }
  apply Hub.proof henter
  · refine ⟨⟨by simp, by simp⟩, ⟨Roster.init cfg, ?_, ?_, ?_, ?_⟩, by simp⟩ <;>
      simp [State.new, History.new, handlersOf]
  · exact fun _ _ _ h _ _ => h.cons rfl rfl
  · intro s P t hL hstart
    exact ends_of_ready (fun _ _ h => h.tail rfl) (wp_mono (fun _ _ _ _ h => h.cons rfl rfl)
      (ledger_body (hL.tail rfl) hstart))

/-- In every run with distinct ids, callbacks that return and one receiving greenlet: as long as no
message has ended the life of a handler, it is registered and has got the calls for all messages
behind its registration; the first one that ends its life is the last one it gets a call for, and
it is unregistered as soon as that call returns.  Messages for other ids do not matter. -/
theorem handlers_served {w : World State Exc Op Op.Result Activity}
    (h : (hub cfg).Reach Regular w) :
    ∀ handler ∈ handlersOf w.shared.history.table,
      ((∀ message ∈ w.shared.messagesFor handler, handler.isEnded message = false) →
        callsOf handler w.shared.history.calls =
            (w.shared.messagesFor handler).filterMap handler.callFor ∧
          handler ∈ w.shared.streamHandlers) ∧
      (∀ before last behind, w.shared.messagesFor handler = before ++ last :: behind →
        (∀ message ∈ before, handler.isEnded message = false) → handler.isEnded last = true →
          callsOf handler w.shared.history.calls =
              before.filterMap handler.callFor ++ (handler.callFor last).toList ∧
            ((∀ l ∈ w.labels, finishing l ≠ some handler) →
              handler ∉ w.shared.streamHandlers)) ∧
      callsOf handler w.shared.history.calls =
        handler.due ((w.shared.messagesFor handler).filter handler.isAddressed) := by
  have hB := (ledger_proof.sound h).holds.booked
  intro handler hmem
  have hcalls := hB.calls handler hmem
  have hmember := hB.member handler hmem
  refine ⟨?_, ?_, ?_⟩
  · intro hlive
    rw [hcalls, hmember]
    exact ⟨Handler.due_of_live hlive, .inl (Handler.isOver_of_live hlive)⟩
  · intro before last behind hsplit hlive hended
    have hover : handler.isOver (w.shared.messagesFor handler) = true := by
      simp [hsplit, Handler.isOver, hended]
    rw [hcalls]
    constructor
    · rw [hsplit]
      exact Handler.due_of_over hlive hended
    · intro hquiet hin
      rcases hmember.mp hin with hlives | ⟨l, hl, hfinishing⟩
      · rw [hover] at hlives
        cases hlives
      · exact hquiet l hl hfinishing
  · rw [hcalls, Handler.due_filter]

/-- A stream with an item and a completion. -/
theorem handlers_served_stream :
    ∃ w, (hub (.direct none)).Reach Regular w ∧
      handlersOf w.shared.history.table = [.stream 0 "1"] ∧
      w.shared.history.calls.length = 2 ∧
      callsOf (.stream 0 "1") w.shared.history.calls = Handler.due (.stream 0 "1")
        ((w.shared.messagesFor (.stream 0 "1")).filter (Handler.stream 0 "1").isAddressed) := by
  have h := (hub (.direct none)).reach_within Regular [.fork .start, .start 0, .start 1,
    .answer 1 (.happened .opened), .answer 1 .done, .start 1,
    .answer 1 (.happened (.message (.text "\x7b\x7d\x1e"))), .start 1,
    .fork (.stream "Counter" .none "1"), .start 2, .answer 2 .done,
    .answer 1 (.happened (.message
      (.text "\x7b\"type\": 2, \"invocationId\": \"1\", \"item\": 7\x7d\x1e"))), .start 1,
    .answer 1 (.happened (.message
      (.text "\x7b\"type\": 3, \"invocationId\": \"1\"\x7d\x1e")))] .start rfl
  have hmem : Handler.stream 0 "1" ∈ [Handler.stream 0 "1"] := List.mem_singleton.mpr rfl
  exact ⟨_, h, rfl, rfl, (handlers_served h _ hmem).2.2⟩

end GeventSignalR
