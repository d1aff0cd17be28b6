import GeventSignalR.Hub.HandlerLife

/-!
# Registrations

Calls of `send` and `stream` in any number of greenlets register handlers under ids of their own.

* `Roster` relates the table to the registrations: their ids are different, and what was called is
  registered.
* `Slots` are the ids of the calls that have not registered their handler yet, because they wait
  for the `auth_function`; `Vacant` is such an id to the call itself.
* `KeepsRegistry` are the steps of these calls.
-/

namespace GeventSignalR

open Coop Coop.Prog

/-- The invocation id of a call. -/
def callId : Activity → Option String
  | .send _ _ _ invocationId uuid => some (invocationId.getD uuid)
  | .stream _ _ uuid => some uuid
  | _ => none

/-- The id of a call that has not registered its handler yet. -/
def reserved : Label Op Activity → Option String
  | .blocked t (.auth .send) => callId t
  | _ => none

/-- A handler is registered. -/
def registering (handler : Handler) (s : State) : State :=
  { s with
    streamHandlers := s.streamHandlers ++ [handler]
    history := { s.history with table := s.history.table ++ [.registered handler] } }

/-- What the table, the registrations and the calls have to do with each other. -/
structure Roster (s : State) : Prop where
  unique : ((handlersOf s.history.table).map Handler.invocationId).Nodup
  known : ∀ h ∈ handlersOf s.history.table, h.invocationId ∈ s.history.ids
  listed : s.streamHandlers.Sublist (handlersOf s.history.table)
  called : ∀ c ∈ s.history.calls, c.2.handler ∈ handlersOf s.history.table
  objects : ∀ object invocationId, .stream object invocationId ∈ handlersOf s.history.table →
    object < s.streams.length

/-- The ids of these calls are different, and no handler has them. -/
structure Slots (s : State) (P : Multiset (Label Op Activity)) : Prop where
  once : ∀ id, P.countP (reserved · = some id) ≤ 1
  free : ∀ l ∈ P, ∀ id, reserved l = some id →
    id ∈ s.history.ids ∧ ∀ h ∈ handlersOf s.history.table, h.invocationId ≠ id

/-- An id of a call that has not registered anything. -/
structure Vacant (id : String) (s : State) (P : Multiset (Label Op Activity)) : Prop
    extends Slots s P where
  taken : id ∈ s.history.ids
  alone : ∀ l ∈ P, reserved l ≠ some id
  unused : ∀ h ∈ handlersOf s.history.table, h.invocationId ≠ id

/-- What these properties read of the state. -/
def bookView (s : State) : List Handler × List StreamHandler × List String × List TableEvent ×
    List (Function × HandlerCall) :=
  (s.streamHandlers, s.streams, s.history.ids, s.history.table, s.history.calls)

variable {cfg : Config} {t : Activity} {s s' : State} {P : Multiset (Label Op Activity)}
  {l : Label Op Activity} {h : Handler} {id : String}

theorem bookView_eq_of_transport (hs : offTransport s' = offTransport s) :
    bookView s' = bookView s := by
  have hview : ∀ s, bookView s = bookView (offTransport s) := fun _ => rfl
  rw [hview s', hs, ← hview]

theorem bookView_eq (hs : offReceive s' = offReceive s) : bookView s' = bookView s := by
  have hview : ∀ s, bookView s = bookView (offReceive s) := fun _ => rfl
  rw [hview s', hs, ← hview]

theorem bookView_eq_of_others (hs : offOthers s' = offOthers s) : bookView s' = bookView s := by
  have hview : ∀ s, bookView s = bookView (offOthers s) := fun _ => rfl
  rw [hview s', hs, ← hview]

theorem reserved_of_isOutside {op : Op} (hop : isOutside op = true) :
    reserved (.blocked t op) = none := by
  cases op with
  | auth site => cases site <;> first | rfl | cases hop
  | _ => rfl

theorem reserved_of_isReceiving {op : Op} (hop : isReceiving op = true) :
    reserved (.blocked t op) = none := by
  cases op with
  | auth site => cases hop
  | _ => rfl

/-! ## The ids of calls -/

namespace Slots

theorem cons (hs : Slots s P) (hl : reserved l = none) : Slots s (l ::ₘ P) := by
  constructor
  · intro id
    rw [Multiset.countP_cons_of_neg _ (by simp [hl])]
    exact hs.once id
  · intro l' hl' id hid
    rcases Multiset.mem_cons.mp hl' with rfl | hl'
    · rw [hl] at hid
      cases hid
    · exact hs.free l' hl' id hid

theorem tail (hs : Slots s (l ::ₘ P)) : Slots s P where
  once := fun id => (Multiset.countP_le_of_le _ (Multiset.le_cons_self P l)).trans (hs.once id)
  free := fun l' hl' => hs.free l' (Multiset.mem_cons_of_mem hl')

theorem congr (h : Slots s P) (hs : bookView s' = bookView s) : Slots s' P where
  once := h.once
  free := by
    rw [show s'.history.ids = s.history.ids from congrArg (·.2.2.1) hs,
      show s'.history.table = s.history.table from congrArg (·.2.2.2.1) hs]
    exact h.free

/-- A new call takes its id. -/
theorem take (hs : Slots s P) (hR : Roster s) (hid : id ∉ s.history.ids) :
    Vacant id { s with history := { s.history with ids := s.history.ids ++ [id] } } P := by
  refine ⟨⟨hs.once, ?_⟩, by simp, ?_, ?_⟩
  · intro l hl other hother
    exact ⟨List.mem_append_left _ (hs.free l hl other hother).1, (hs.free l hl other hother).2⟩
  · intro l hl hsame
    exact hid (hs.free l hl id hsame).1
  · rintro h hmem rfl
    exact hid (hR.known h hmem)

/-- The id is still the call's own. -/
theorem returns (hs : Slots s (.blocked t (.auth .send) ::ₘ P)) (ht : callId t = some id) :
    Vacant id s P := by
  have hmine : reserved (.blocked t (.auth .send)) = some id := ht
  have hfree := hs.free _ (Multiset.mem_cons_self _ P) id hmine
  have honce := hs.once id
  rw [Multiset.countP_cons, if_pos hmine] at honce
  have hzero : P.countP (reserved · = some id) = 0 := by omega
  exact ⟨hs.tail, hfree.1, Multiset.countP_eq_zero.mp hzero, hfree.2⟩

end Slots

namespace Vacant

theorem congr (hV : Vacant id s P) (hs : bookView s' = bookView s) : Vacant id s' P := by
  refine ⟨hV.toSlots.congr hs, ?_, hV.alone, ?_⟩
  · rw [show s'.history.ids = s.history.ids from congrArg (·.2.2.1) hs]
    exact hV.taken
  · rw [show s'.history.table = s.history.table from congrArg (·.2.2.2.1) hs]
    exact hV.unused

/-- A call that waits for its `auth_function`. -/
theorem waits (hV : Vacant id s P) (ht : callId t = some id) :
    Slots s (.blocked t (.auth .send) ::ₘ P) := by
  constructor
  · intro other
    rw [Multiset.countP_cons]
    by_cases hsame : other = id
    · have hzero : P.countP (reserved · = some other) = 0 := by
        rw [Multiset.countP_eq_zero]
        exact fun l hl => hsame ▸ hV.alone l hl
      split_ifs <;> omega
    · have hother : reserved (.blocked t (.auth .send)) ≠ some other := by
        show callId t ≠ some other
        rw [ht]
        simpa using Ne.symm hsame
      rw [if_neg hother]
      exact hV.once other
  · intro l hl other hother
    rcases Multiset.mem_cons.mp hl with rfl | hl
    · have hsame : id = other := by
        have hid : callId t = some other := hother
        rwa [ht, Option.some.injEq] at hid
      rw [← hsame]
      exact ⟨hV.taken, hV.unused⟩
    · exact hV.free l hl other hother

/-- Its handler is registered. -/
theorem register {handler : Handler} (hV : Vacant handler.invocationId s P) :
    Slots (registering handler s) P := by
  refine ⟨hV.once, ?_⟩
  intro l hl id hid
  refine ⟨(hV.free l hl id hid).1, ?_⟩
  intro h hmem
  have hall : h ∈ handlersOf s.history.table ++ [handler] := handlersOf_registered ▸ hmem
  rcases List.mem_append.mp hall with hmem | hmem
  · exact (hV.free l hl id hid).2 h hmem
  · rw [List.mem_singleton.mp hmem]
    rintro rfl
    exact hV.alone l hl hid

end Vacant

/-! ## The table -/

/-- At most one element has the property, where those that have it agree in something that no
two elements share. -/
theorem filter_eq_nil_or_singleton {α β : Type} {xs : List α} {f : α → β} {p : α → Bool}
    (hnodup : (xs.map f).Nodup)
    (hp : ∀ a ∈ xs, ∀ b ∈ xs, p a = true → p b = true → f a = f b) :
    xs.filter p = [] ∨ ∃ a ∈ xs, p a = true ∧ xs.filter p = [a] := by
  induction xs with
  | nil => exact .inl rfl
  | cons x xs ih =>
      rw [List.map_cons, List.nodup_cons] at hnodup
      cases hx : p x with
      | true =>
          have hnone : xs.filter p = [] := by
            rw [List.filter_eq_nil_iff]
            intro y hy hpy
            have hsame := hp x (List.mem_cons_self ..) y (List.mem_cons_of_mem _ hy) hx hpy
            exact hnodup.1 (hsame ▸ List.mem_map_of_mem hy)
          exact .inr ⟨x, List.mem_cons_self .., hx, by rw [List.filter_cons_of_pos hx, hnone]⟩
      | false =>
          have hrest := ih hnodup.2 fun a ha b hb =>
            hp a (List.mem_cons_of_mem _ ha) b (List.mem_cons_of_mem _ hb)
          rw [List.filter_cons_of_neg (by simp [hx])]
          rcases hrest with hnone | ⟨a, ha, hpa, hone⟩
          · exact .inl hnone
          · exact .inr ⟨a, List.mem_cons_of_mem _ ha, hpa, hone⟩

namespace Roster

variable {invocationId : Value}

theorem init (cfg : Config) : Roster (State.new cfg) := by
  constructor <;> simp [State.new, History.new, handlersOf]

theorem congr (hR : Roster s) (hs : bookView s' = bookView s) : Roster s' := by
  simp only [bookView, Prod.mk.injEq] at hs
  obtain ⟨hhandlers, hstreams, hids, htable, hcalls⟩ := hs
  constructor
  · rw [htable]
    exact hR.unique
  · rw [htable, hids]
    exact hR.known
  · rw [htable, hhandlers]
    exact hR.listed
  · rw [hcalls, htable]
    exact hR.called
  · rw [htable, hstreams]
    exact hR.objects

theorem nodup (hR : Roster s) : (s.streamHandlers.map Handler.invocationId).Nodup :=
  hR.unique.sublist (hR.listed.map _)

/-- A message is for one of the handlers in the table, or for none. -/
theorem fired (hR : Roster s) {p : Handler → Bool}
    (hp : ∀ h, p h = true → Connection.matchesId invocationId h = true) :
    s.streamHandlers.filter p = [] ∨
      ∃ h ∈ s.streamHandlers, p h = true ∧ s.streamHandlers.filter p = [h] :=
  filter_eq_nil_or_singleton hR.nodup fun a _ b _ ha hb =>
    Dict.eqStr_unique (hp a ha) (hp b hb)

/-- Handlers with one id are the same. -/
theorem same (hR : Roster s) {h h' : Handler} (hmem : h ∈ handlersOf s.history.table)
    (hmem' : h' ∈ handlersOf s.history.table)
    (hmatches : Connection.matchesId invocationId h = true)
    (hmatches' : Connection.matchesId invocationId h' = true) : h = h' :=
  List.inj_on_of_nodup_map hR.unique hmem hmem' (Dict.eqStr_unique hmatches hmatches')

/-- The object of a handler in the table. -/
theorem object (hR : Roster s) {object : Nat} {invocationId : String}
    (hmem : .stream object invocationId ∈ handlersOf s.history.table) :
    ∃ handler, s.streams[object]? = some handler :=
  ⟨_, List.getElem?_eq_getElem (hR.objects object invocationId hmem)⟩

/-- What is called for a handler in the table. -/
theorem functionOf (hR : Roster s) {call : HandlerCall}
    (hmem : call.handler ∈ handlersOf s.history.table) : ∃ f, functionOf s call = some f := by
  unfold GeventSignalR.functionOf
  cases hhandler : call.handler with
  | invocation invocationId callback => exact ⟨_, rfl⟩
  | stream object invocationId =>
      rw [hhandler] at hmem
      obtain ⟨handler, hget⟩ := hR.object hmem
      exact ⟨_, congrArg (Option.map _) hget⟩

theorem ids (hR : Roster s) (id : String) :
    Roster { s with history := { s.history with ids := s.history.ids ++ [id] } } :=
  ⟨hR.unique, fun h hmem => List.mem_append_left _ (hR.known h hmem), hR.listed, hR.called,
    hR.objects⟩

theorem streams (hR : Roster s) {streams : List StreamHandler}
    (hlength : s.streams.length ≤ streams.length) : Roster { s with streams } :=
  ⟨hR.unique, hR.known, hR.listed, hR.called,
    fun object invocationId hmem => (hR.objects object invocationId hmem).trans_le hlength⟩

theorem register (hR : Roster s) {handler : Handler} (hV : Vacant handler.invocationId s P)
    (hobject : ∀ object invocationId, handler = .stream object invocationId →
      object < s.streams.length) : Roster (registering handler s) := by
  have hregistered : handlersOf (registering handler s).history.table =
      handlersOf s.history.table ++ [handler] := handlersOf_registered
  constructor
  · rw [hregistered, List.map_append, List.nodup_append]
    refine ⟨hR.unique, by simp, ?_⟩
    intro id hid other hother
    obtain ⟨h, hmem, rfl⟩ := List.mem_map.mp hid
    rw [List.map_singleton, List.mem_singleton] at hother
    rw [hother]
    exact hV.unused h hmem
  · intro h hmem
    rw [hregistered] at hmem
    rcases List.mem_append.mp hmem with hmem | hmem
    · exact hR.known h hmem
    · rw [List.mem_singleton.mp hmem]
      exact hV.taken
  · rw [hregistered]
    exact hR.listed.append (List.Sublist.refl _)
  · intro c hc
    rw [hregistered]
    exact List.mem_append_left _ (hR.called c hc)
  · intro object invocationId hmem
    rw [hregistered] at hmem
    rcases List.mem_append.mp hmem with hmem | hmem
    · exact hR.objects object invocationId hmem
    · exact hobject object invocationId (List.mem_singleton.mp hmem).symm

/-- A handler with an unused id has not been registered before. -/
theorem new {handler : Handler} (hV : Vacant handler.invocationId s P) :
    handler ∉ handlersOf s.history.table :=
  fun hmem => hV.unused handler hmem rfl

/-- Nothing was called for it. -/
theorem callsOf_new (hR : Roster s) (hnew : h ∉ handlersOf s.history.table) :
    callsOf h s.history.calls = [] := by
  simp only [callsOf, List.filter_eq_nil_iff, List.mem_map, decide_eq_true_eq]
  rintro call ⟨c, hc, rfl⟩ rfl
  exact hnew (hR.called c hc)

/-- A message is dispatched, with calls for handlers in the table. -/
theorem take (hR : Roster s) {message : Message} {made : List (Function × HandlerCall)}
    (hmade : ∀ c ∈ made, c.2.handler ∈ s.streamHandlers) : Roster (taking message made s) := by
  have hregistered : handlersOf (taking message made s).history.table =
      handlersOf s.history.table := handlersOf_dispatched
  constructor
  · rw [hregistered]
    exact hR.unique
  · rw [hregistered]
    exact hR.known
  · rw [hregistered]
    exact hR.listed
  · intro c hc
    rw [hregistered]
    rcases List.mem_append.mp hc with hc | hc
    · exact hR.called c hc
    · exact hR.listed.subset (hmade c hc)
  · rw [hregistered]
    exact hR.objects

theorem unregister (hR : Roster s) (p : Handler → Bool) :
    Roster { s with streamHandlers := s.streamHandlers.filter p } :=
  ⟨hR.unique, hR.known, (List.filter_sublist ..).trans hR.listed, hR.called, hR.objects⟩

end Roster

/-! ## Calls of `send` and `stream` -/

/-- What the steps of a call do to a property, in which the table and the ids are as they
should be. -/
structure KeepsRegistry (R : HubRely) (I : HubInv) (cfg : Config) : Prop where
  roster : ∀ {s P}, I s P → Roster s
  slots : ∀ {s P}, I s P → Slots s P
  congr : ∀ {s s' P}, I s P → bookView s' = bookView s → I s' P
  ids : ∀ {s P} (id : String), I s P →
    I { s with history := { s.history with ids := s.history.ids ++ [id] } } P
  streams : ∀ {s P} (event uuid : String), I s P →
    I { s with streams := s.streams ++ [StreamHandler.new event uuid] } P
  register : ∀ {s P} (handler : Handler), I s P → Vacant handler.invocationId s P →
    (∀ object invocationId, handler = .stream object invocationId → object < s.streams.length) →
      I (registering handler s) P
  block : ∀ {s P}, I s P → Slots s (.blocked R.me (.auth .send) ::ₘ P) →
    R.inv s (.blocked R.me (.auth .send) ::ₘ P)
  resume : ∀ {s P}, R.inv s (.blocked R.me (.auth .send) ::ₘ P) →
    I s P ∧ Slots s (.blocked R.me (.auth .send) ::ₘ P)
  send : ∀ message, Keeps R I (WebsocketTransport.send cfg message)
  subject : Subject.KeepsSubject R I cfg

namespace KeepsRegistry

variable {R : HubRely} {I : HubInv} {hist : List (Logged State Exc Op Op.Result)}

/-- A call of `send` with a new id. -/
theorem wp_send (hkeeps : KeepsRegistry R I cfg) {method : Value} {arguments : Arguments}
    {onInvocation : Option Nat} {invocationId : Option String} {uuid : String}
    (hme : callId R.me = some (invocationId.getD uuid)) (hI : I s P)
    (hid : invocationId.getD uuid ∉ s.history.ids) :
    (Connection.send cfg method arguments onInvocation invocationId uuid).wp R
      (fun _ s P _ => I s P) s P hist := by
  -- until the handler is registered, its id must stay free across the token request
  let J : HubInv := fun s P => I s P ∧ Vacant (invocationId.getD uuid) s P
  have hweak : ∀ s P, J s P → I s P := fun _ _ h => h.1
  have hrefresh : Keeps R J (Connection.refreshTokenMaybe cfg .send) :=
    Connection.keeps_refreshTokenMaybe
      (Keeps.perform (fun _ _ h => hkeeps.block h.1 (h.2.waits hme)) fun _ _ _ h _ =>
        ⟨(hkeeps.resume h).1, (hkeeps.resume h).2.returns hme⟩)
      fun _ => Keeps.modify fun _ _ h => ⟨hkeeps.congr h.1 rfl, h.2.congr rfl⟩
  have hregister : Leads R J I (onInvocation.elim (pure ()) fun callback =>
      Connection.register (.invocation (invocationId.getD uuid) callback) : Hub Unit) := by
    cases onInvocation with
    | none => exact fun s P hist h => h.1
    | some callback =>
        intro s P hist h
        exact hkeeps.register (.invocation _ callback) h.1 h.2 (by simp)
  have hstart : J { s with history := { s.history with
      ids := s.history.ids ++ [invocationId.getD uuid] } } P :=
    ⟨hkeeps.ids _ hI, (hkeeps.slots hI).take (hkeeps.roster hI) hid⟩
  unfold Connection.send record
  rw [wp_bind, wp_modify]
  refine Leads.bind (p := get) hweak .get (fun s => ?_) _ _ _ hstart
  refine Leads.bind hweak (Keeps.when fun _ => .raise _) fun _ =>
    Leads.bind hweak (Keeps.when fun _ => .raise _) fun _ =>
      Leads.bind hweak hrefresh fun _ => ?_
  cases arguments with
  | list items =>
      exact Leads.bind hweak .get fun _ =>
        Leads.bind_keeps hregister fun _ => hkeeps.send _
  | subject subject =>
      exact Leads.to_keeps hweak (Keeps.bind (Keeps.modify fun _ _ h => hkeeps.congr h rfl)
        fun _ => hkeeps.subject.start)
  | other => exact fun s P hist h => h.1

/-- A call of `stream` with a new id. -/
theorem wp_stream (hkeeps : KeepsRegistry R I cfg) {event uuid : String} {eventParams : Value}
    (hI : I s P) (hid : uuid ∉ s.history.ids) :
    (Connection.stream cfg event eventParams uuid).wp R (fun _ s P _ => I s P) s P hist := by
  have hV := (hkeeps.slots hI).take (hkeeps.roster hI) hid
  have hgrown := hkeeps.streams event uuid (hkeeps.ids uuid hI)
  unfold Connection.stream Connection.register record
  simp only [wp_bind, wp_modify, wp_get]
  apply hkeeps.send
  apply hkeeps.register (.stream s.streams.length uuid) hgrown
  · exact ⟨⟨hV.once, hV.free⟩, hV.taken, hV.alone, hV.unused⟩
  · rintro object invocationId ⟨⟩
    simp

end KeepsRegistry

end GeventSignalR
