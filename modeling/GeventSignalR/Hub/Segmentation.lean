import GeventSignalR.Coop.Amid
import GeventSignalR.Hub.System

/-!
# Records and frames

A handshake response and the messages behind it reach `on_message` in frames of any number
of records.  The records in the frame of the response come out of `decode_handshake`, the
others out of `parse_messages`.

* `feed` hands consecutive frames to `on_message`.
* `Related` are the states that the dispatch of messages cannot tell apart.
* `segmentation` says that the grouping does not matter.
-/

namespace GeventSignalR

open Coop Coop.Prog

/-- What the code can read of the state. -/
def visible (s : State) : State :=
  { s with history := .new }

/-- Nothing else can be seen. -/
abbrev Alike (s s' : State) : Prop :=
  visible s = visible s'

/-- None of the three callbacks raises a `TypeError`. -/
structure StreamHandler.IsCallable (handler : StreamHandler) : Prop where
  next : handler.nextCallback ≠ .notCallable
  complete : handler.completeCallback ≠ .notCallable
  error : handler.errorCallback ≠ .notCallable

/-- The handlers are objects that exist. -/
def Exist (s : State) (handlers : List Handler) : Prop :=
  ∀ object invocationId, Handler.stream object invocationId ∈ handlers → object < s.streams.length

/-- The handlers of the table exist, and their callbacks can be called. -/
structure Callable (s : State) : Prop where
  members : ∀ handler ∈ s.streams, handler.IsCallable
  table : Exist s s.streamHandlers

/-- A message that does not end the loop, and whose error, if there is one, has a
length. -/
def IsOrdinary : Message → Prop
  | .close _ => False
  | .completion _ _ _ error => error.isNone = true ∨ ∃ n, error.len = .ok n
  | _ => True

/-- The answers of an environment whose user functions return, see no history and leave
`handshake_received` alone; with them it may call the package. -/
structure Harmless (env : Env State Exc Op Op.Result) : Prop where
  returns : ∀ ops callback s, (env ops (.callback callback) s).1 = .ok ()
  alike : ∀ ops callback s s', Alike s s' →
    Alike (env ops (.callback callback) s).2 (env ops (.callback callback) s').2
  handshakeReceived : ∀ ops callback s,
    (env ops (.callback callback) s).2.handshakeReceived = s.handshakeReceived
  callable : ∀ ops callback s, Callable s → Callable (env ops (.callback callback) s).2
  streams : ∀ ops callback s,
    s.streams.length ≤ (env ops (.callback callback) s).2.streams.length

/-- States behind the handshake that look alike, where the handlers exist that are about to
be called. -/
structure Related (fired : List Handler) (s s' : State) : Prop where
  alike : Alike s s'
  handshakeReceived : s.handshakeReceived = true
  callable : Callable s
  fired : Exist s fired

variable {cfg : Config} {env : Env State Exc Op Op.Result} {fired : List Handler} {s s' : State}

theorem Exist.congr {handlers : List Handler} (h : Exist s handlers)
    (hs : s'.streams = s.streams) : Exist s' handlers := by
  intro object invocationId hmem
  rw [hs]
  exact h object invocationId hmem

/-- A change that depends on no history. -/
theorem alike_map {f : State → State} (hf : ∀ s, visible (f (visible s)) = visible (f s))
    (h : Alike s s') : Alike (f s) (f s') := by
  have hs : visible s = visible s' := h
  rw [Alike, ← hf s, ← hf s', hs]

namespace Related

theorem streams_eq (h : Related fired s s') : s'.streams = s.streams :=
  (congrArg State.streams h.alike).symm

theorem streamHandlers_eq (h : Related fired s s') : s'.streamHandlers = s.streamHandlers :=
  (congrArg State.streamHandlers h.alike).symm

/-- A call of a user function. -/
theorem answer (henv : Harmless env) (h : Related fired s s') (ops : List (Answered Exc Op Op.Result))
    (callback : Callback) :
    Related fired (env ops (.callback callback) s).2 (env ops (.callback callback) s').2 where
  alike := henv.alike ops callback s s' h.alike
  handshakeReceived := (henv.handshakeReceived ops callback s).trans h.handshakeReceived
  callable := henv.callable ops callback s h.callable
  fired := fun object invocationId hmem =>
    Nat.lt_of_lt_of_le (h.fired object invocationId hmem) (henv.streams ops callback s)

end Related

/-! ## The dispatch of a message -/

/-- From related states the program does the same, and leaves related states. -/
abbrev Same (env : Env State Exc Op Op.Result) (fired : List Handler) (p : Hub Unit) : Prop :=
  Agrees env (Related fired) p p fun _ => Related fired

/-- A change of what no handler depends on. -/
theorem same_modify {f : State → State} (hf : ∀ s, visible (f (visible s)) = visible (f s))
    (hreceived : ∀ s, s.handshakeReceived = true → (f s).handshakeReceived = true)
    (hstreams : ∀ s, (f s).streams = s.streams)
    (htable : ∀ s, (f s).streamHandlers ⊆ s.streamHandlers) : Same env fired (modify f) :=
  Agrees.modify fun s _ h =>
    { alike := alike_map hf h.alike
      handshakeReceived := hreceived s h.handshakeReceived
      callable :=
        { members := hstreams s ▸ h.callable.members
          table := fun object invocationId hmem =>
            (h.callable.table.congr (hstreams s)) object invocationId (htable s hmem) }
      fired := h.fired.congr (hstreams s) }

/-- What only the history shows need not be the same. -/
theorem agrees_record (f g : History → History) :
    Agrees env (Related fired) (record f) (record g) fun _ => Related fired :=
  Agrees.modify fun _ _ h =>
    ⟨h.alike, h.handshakeReceived, ⟨h.callable.members, h.callable.table⟩, h.fired⟩

theorem same_call (henv : Harmless env) (callback : Callback) : Same env fired (call callback) :=
  Agrees.perform fun ops s s' h =>
    ⟨(), henv.returns ops callback s, henv.returns ops callback s', h.answer henv ops callback⟩

namespace Connection

/-- The functions that can be called. -/
theorem same_apply (henv : Harmless env) {f : Function} (hf : f ≠ .notCallable)
    (handlerCall : HandlerCall) : Same env fired (f.apply handlerCall) := by
  refine Agrees.bind (agrees_record _ _) fun _ => ?_
  cases f with
  | default => exact Agrees.pure fun _ _ h => h
  | user callback => exact same_call henv _
  | notCallable => exact absurd rfl hf

/-- A callback of a handler that exists. -/
theorem same_streamCallback (henv : Harmless env) {object : Nat} {invocationId : String}
    (hobject : .stream object invocationId ∈ fired) {member : StreamHandler → Function}
    (hmember : ∀ handler : StreamHandler, handler.IsCallable → member handler ≠ .notCallable)
    (handlerCall : HandlerCall) :
    Same env fired (streamCallback object member >>= fun f => f.apply handlerCall) := by
  have hget : Agrees env (Related fired) (streamCallback object member)
      (streamCallback object member)
      fun f s s' => f ≠ .notCallable ∧ Related fired s s' := by
    refine Agrees.get_bind_eq fun s s' h => ?_
    have hlt : object < s.streams.length := h.fired object invocationId hobject
    have hmem : s.streams[object] ∈ s.streams := List.getElem_mem hlt
    rw [h.streams_eq, List.getElem?_eq_getElem hlt]
    refine Agrees.pure ?_
    rintro _ _ ⟨rfl, rfl⟩
    exact ⟨hmember _ (h.callable.members _ hmem), h⟩
  refine Agrees.bind hget fun f tr tr' h => ?_
  exact same_apply henv h.state.1 handlerCall tr tr' ⟨h.state.2, h.ops, h.forks⟩

/-- The selected handlers exist. -/
theorem agrees_selectHandlers (message : Message) (select : Handler → Bool) :
    Agrees env (Related []) (selectHandlers message select) (selectHandlers message select)
      fun fired s s' => (∀ handler ∈ fired, select handler = true) ∧ Related fired s s' := by
  refine Agrees.bind (agrees_record _ _) fun _ => Agrees.get_bind_eq fun s s' h => ?_
  rw [h.streamHandlers_eq]
  refine Agrees.pure ?_
  rintro _ _ ⟨rfl, rfl⟩
  refine ⟨fun handler hhandler => (List.mem_filter.mp hhandler).2, ?_⟩
  exact
    { h with
      fired := fun object invocationId hmem =>
        h.callable.table object invocationId (List.mem_of_mem_filter hmem) }

/-- Selected handlers are called one by one, and are forgotten. -/
theorem agrees_each {select : Handler → Bool} {f : Handler → Hub Unit}
    (hf : ∀ handler ∈ fired, select handler = true → Same env fired (f handler)) :
    Agrees env (fun s s' => (∀ handler ∈ fired, select handler = true) ∧ Related fired s s')
      (each fired f) (each fired f) fun _ => Related [] := by
  intro tr tr' h
  have heach : Same env fired (each fired f) :=
    Agrees.each fun handler hhandler => hf handler hhandler (h.state.1 handler hhandler)
  obtain ⟨a, hleft, hright, hend⟩ := heach tr tr' ⟨h.state.2, h.ops, h.forks⟩
  exact ⟨a, hleft, hright, { hend.state with fired := fun _ _ hmem => by cases hmem }, hend.ops, hend.forks⟩

theorem same_callNext (henv : Harmless env) (item : Value) {handler : Handler}
    (hhandler : handler ∈ fired) (hstream : handler.isStream = true) :
    Same env fired (callNext item handler) := by
  cases handler with
  | stream object invocationId => exact same_streamCallback henv hhandler (fun _ h => h.next) _
  | invocation invocationId callback => cases hstream

theorem same_callComplete (henv : Harmless env) (message : Message) {handler : Handler}
    (hhandler : handler ∈ fired) : Same env fired (callComplete message handler) := by
  cases handler with
  | stream object invocationId =>
      exact same_streamCallback henv hhandler (fun _ h => h.complete) _
  | invocation invocationId callback => exact same_apply henv (by simp) _

theorem same_callError (henv : Harmless env) (message : Message) {handler : Handler}
    (hhandler : handler ∈ fired) (hstream : handler.isStream = true) :
    Same env fired (callError message handler) := by
  cases handler with
  | stream object invocationId => exact same_streamCallback henv hhandler (fun _ h => h.error) _
  | invocation invocationId callback => cases hstream

theorem same_unregister (invocationId : Value) : Same env fired (unregister invocationId) :=
  same_modify (fun _ => rfl) (fun _ h => h) (fun _ => rfl) fun _ => List.filter_subset_self _

theorem same_dispatchInvocation (henv : Harmless env) (target arguments : Value) :
    Same env [] (dispatchInvocation target arguments) := by
  refine Agrees.get_bind fun s s' h => ?_
  have hhandlers : s'.handlers = s.handlers := (congrArg State.handlers h.alike).symm
  rw [hhandlers]
  exact Agrees.each fun handler _ => same_call henv _

theorem same_reportError (henv : Harmless env) (message : Message) {error : Value}
    (herror : error.isNone = true ∨ ∃ n, error.len = .ok n) :
    Same env [] (reportError message error) := by
  refine Agrees.when (fun hsome => ?_) fun _ _ _ h => h
  obtain ⟨n, hlength⟩ := herror.resolve_left (by simpa using hsome)
  have hlen : Agrees env (Related []) (ofExcept error.len : Hub Nat) (ofExcept error.len)
      fun _ => Related [] := Agrees.ofExcept hlength fun _ _ h => h
  refine Agrees.bind hlen fun length => Agrees.get_bind fun s s' h => ?_
  have honError : s'.onError = s.onError := (congrArg State.onError h.alike).symm
  rw [honError]
  exact Agrees.when (fun _ => same_call henv _) fun _ _ _ h => h

theorem same_dispatch (henv : Harmless env) {message : Message} (h : IsOrdinary message) :
    Same env [] (dispatch message) := by
  cases message with
  | invocation headers invocationId target arguments => exact same_dispatchInvocation henv _ _
  | completion headers invocationId result error =>
      exact Agrees.bind (same_reportError henv _ h) fun _ =>
        Agrees.bind (agrees_selectHandlers _ _) fun _ =>
        Agrees.bind (agrees_each fun _ hmem _ => same_callComplete henv _ hmem) fun _ =>
        same_unregister _
  | streamItem headers invocationId item =>
      exact Agrees.bind (agrees_selectHandlers _ _) fun _ =>
        agrees_each fun _ hmem hselect =>
          same_callNext henv _ hmem (Bool.and_eq_true_iff.mp hselect).1
  | cancelInvocation headers invocationId =>
      exact Agrees.bind (agrees_selectHandlers _ _) fun _ =>
        Agrees.bind (agrees_each fun _ hmem hselect =>
          same_callError henv _ hmem (Bool.and_eq_true_iff.mp hselect).1) fun _ =>
        same_unregister _
  | _ => exact Agrees.pure fun _ _ h => h

theorem same_onMessage (henv : Harmless env) {messages : List Message}
    (h : ∀ message ∈ messages, IsOrdinary message) : Same env [] (onMessage messages) := by
  induction messages with
  | nil => exact Agrees.pure fun _ _ h => h
  | cons message messages ih =>
      have hmessage := h message (by simp)
      have hrest := ih fun other hother => h other (by simp [hother])
      cases message with
      | close error => exact hmessage.elim
      | _ => exact Agrees.bind (same_dispatch henv hmessage) fun _ => hrest

/-- The loop over two batches is the loop over one and then the other. -/
theorem amid_onMessage_append {messages : List Message} (rest : List Message)
    (h : ∀ message ∈ messages, IsOrdinary message)
    (tr : Trace State Exc Op Op.Result Activity) :
    (onMessage (messages ++ rest)).amid env tr =
      (do onMessage messages; onMessage rest : Hub Unit).amid env tr := by
  induction messages generalizing tr with
  | nil => rfl
  | cons message messages ih =>
      have hmessage := h message (by simp)
      have hrest := ih fun other hother => h other (by simp [hother])
      have hloop : ∀ messages : List Message, onMessage (message :: messages) =
          (do dispatch message; onMessage messages : Hub Unit) := by
        intro messages
        cases message with
        | close error => exact hmessage.elim
        | _ => rfl
      rw [List.cons_append, hloop, hloop]
      simp only [amid_bind, hrest]
      rcases (dispatch message).amid env tr with ⟨_ | _, tr⟩ <;> rfl

end Connection

/-! ## Frames -/

namespace WebsocketTransport

/-- A websocket delivers frames of records one after another. -/
def feed (cfg : Config) (app : Nat) (groups : List (List String)) : Hub Unit :=
  each groups fun group => onMessage cfg app (.text (JsonHubProtocol.frame group))

/-- An accepted handshake, with the `on_open` callback. -/
def opening (app : Nat) : Hub Unit := do
  acceptHandshake app
  reportOpen

/-- A text that is a handshake response without an error. -/
structure IsHandshake (json : PyJson) (record : String) : Prop where
  loads : ∃ entries : Dict, json.loads record = .ok (.dict entries) ∧
    isAccepted ⟨entries.get "error"⟩ = true
  nonempty : record ≠ ""
  separator : BaseHubProtocol.recordSeparator ∉ record.toList

/-- The two executions return after the same operations, with the same new threads, in
states that look alike. -/
structure Indistinguishable
    (run run' : Except Exc Unit × Trace State Exc Op Op.Result Activity) : Prop where
  returns : run.1 = .ok ()
  returns' : run'.1 = .ok ()
  same : run.2.Same Alike run'.2

/-! ### The handshake -/

/-- States before the handshake that look alike. -/
structure BeforeHandshake (s s' : State) : Prop where
  alike : Alike s s'
  handshakeReceived : s.handshakeReceived = false
  callable : Callable s

theorem same_setState (value : ConnectionState) : Same env fired (setState value) :=
  Agrees.bind (same_modify (fun _ => rfl) (fun _ h => h) (fun _ => rfl)
      fun _ => List.Subset.refl _) fun _ =>
    Agrees.when (fun _ => agrees_record _ _) fun _ _ _ h => h

theorem same_handshakeDone : Same env fired handshakeDone := by
  refine Agrees.get_bind fun s s' h => ?_
  have hhandler : s'.reconnectionHandler = s.reconnectionHandler :=
    (congrArg State.reconnectionHandler h.alike).symm
  have hrunning : s'.running = s.running := (congrArg State.running h.alike).symm
  have hchecker : Same env fired ConnectionStateChecker.start :=
    Agrees.bind (same_modify (fun _ => rfl) (fun _ h => h) (fun _ => rfl)
      fun _ => List.Subset.refl _) fun _ => Agrees.fork fun _ _ h => h
  rw [hhandler, hrunning]
  refine Agrees.when (fun _ => ?_) fun _ _ _ h => h
  exact Agrees.bind (same_modify (fun _ => rfl) (fun _ h => h) (fun _ => rfl)
    fun _ => List.Subset.refl _) fun _ => Agrees.when (fun _ => hchecker) fun _ _ _ h => h

theorem same_reportOpen (henv : Harmless env) : Same env fired reportOpen := by
  refine Agrees.get_bind fun s s' h => ?_
  have honOpen : s'.onOpen = s.onOpen := (congrArg State.onOpen h.alike).symm
  rw [honOpen]
  refine Agrees.when (fun _ => ?_) fun _ _ _ h => h
  exact Agrees.bind (same_setState _) fun _ => Agrees.bind (agrees_record _ _) fun _ =>
    same_call henv _

theorem agrees_opening (henv : Harmless env) (app : Nat) :
    Agrees env BeforeHandshake (opening app) (opening app) fun _ => Related [] := by
  have hreceived : Agrees env BeforeHandshake (setHandshakeReceived true) (setHandshakeReceived true)
      fun _ => Related [] := by
    refine Agrees.modify fun s s' h => ⟨?_, rfl, ⟨h.callable.members, h.callable.table⟩, ?_⟩
    · exact alike_map (f := fun s => { s with handshakeReceived := true }) (fun _ => rfl) h.alike
    · exact fun _ _ hmem => by cases hmem
  have haccept : Agrees env BeforeHandshake (acceptHandshake app) (acceptHandshake app)
      fun _ => Related [] :=
    Agrees.bind hreceived fun _ => Agrees.bind (same_setState _) fun _ =>
      Agrees.get_bind fun _ _ _ => Agrees.bind (agrees_record _ _) fun _ => same_handshakeDone
  exact Agrees.bind haccept fun _ => same_reportOpen henv

/-- Accepting a handshake calls nobody. -/
theorem amid_acceptHandshake (env : Env State Exc Op Op.Result) (app : Nat)
    (tr : Trace State Exc Op Op.Result Activity) :
    ∃ tr', (acceptHandshake app).amid env tr = (.ok (), tr') ∧ tr'.ops = tr.ops ∧
      tr'.state.onOpen = tr.state.onOpen := by
  simp only [acceptHandshake, setHandshakeReceived, setState, record, handshakeDone, setHandler,
    ConnectionStateChecker.start, amid_bind, amid_get, amid_modify, amid_when, amid_fork,
    decide_true, if_true]
  split_ifs <;> exact ⟨_, rfl, rfl, rfl⟩

/-- The first user function that is called is `on_open`, if it is registered. -/
theorem amid_opening (henv : Harmless env) (app : Nat) (s : State) :
    ∃ opened, (opening app).amid env (⟨s, [], []⟩ : Trace State Exc Op Op.Result Activity) =
        (.ok (), opened) ∧
      opened.ops = if s.onOpen then [⟨.callback .onOpen, .ok ()⟩] else [] := by
  obtain ⟨tr, haccept, hops, honOpen⟩ :=
    amid_acceptHandshake env app (⟨s, [], []⟩ : Trace State Exc Op Op.Result Activity)
  simp only [opening, reportOpen, setState, record, call, amid_bind, haccept, amid_get, amid_when,
    amid_modify, decide_true, if_true, amid_perform, honOpen, hops]
  split_ifs
  · rw [henv.returns]
    exact ⟨_, rfl, rfl⟩
  · exact ⟨_, rfl, hops⟩

/-- The frame that begins with the response. -/
theorem agrees_firstFrame {json : PyJson}
    (hprotocol : cfg.protocol = JsonHubProtocol.protocol json) (henv : Harmless env) {app : Nat}
    {response : String} (hresponse : IsHandshake json response) {messages : List Message}
    {records : List String}
    (hrecords : List.Forall₂ (JsonHubProtocol.IsRecord json) messages records)
    (hordinary : ∀ message ∈ messages, IsOrdinary message) :
    Agrees env BeforeHandshake (onMessage cfg app (.text (JsonHubProtocol.frame (response :: records))))
      (do opening app; Connection.onMessage messages) fun _ => Related [] := by
  intro tr tr' h
  obtain ⟨entries, hloads, haccepted⟩ := hresponse.loads
  have hdecode : cfg.protocol.decodeHandshake
      (.text (JsonHubProtocol.frame (response :: records))) =
        .ok (⟨entries.get "error"⟩, messages) := by
    rw [hprotocol]
    exact JsonHubProtocol.decodeHandshake_frame hloads hresponse.nonempty hresponse.separator
      hrecords
  have hleft : (onMessage cfg app (.text (JsonHubProtocol.frame (response :: records)))).amid env
      tr = (do opening app; Connection.onMessage messages : Hub Unit).amid env { tr with
        state := { tr.state with history := { tr.state.history with
          received := tr.state.history.received ++
            [(app, tr.state.handshakeReceived, tr.state.state)] } } } := by
    simp only [onMessage, receive, record, interpret, evaluateHandshake, judge, opening, amid_bind,
      amid_get, amid_modify, h.state.handshakeReceived, Bool.not_false, if_true, hdecode,
      amid_ofExcept, haccepted]
    rcases (acceptHandshake app).amid env _ with ⟨_ | _, next⟩
    · rfl
    · simp only [amid_pure]
      rcases reportOpen.amid env next with ⟨_ | _, _⟩ <;> rfl
  rw [hleft]
  exact Agrees.bind (agrees_opening henv app) (fun _ => Connection.same_onMessage henv hordinary)
    _ tr' ⟨⟨h.state.alike, h.state.handshakeReceived,
      ⟨h.state.callable.members, h.state.callable.table⟩⟩, h.ops, h.forks⟩

/-! ### The frames behind it -/

/-- A frame of messages behind the handshake. -/
theorem agrees_frame {json : PyJson} (hprotocol : cfg.protocol = JsonHubProtocol.protocol json)
    (henv : Harmless env) {app : Nat} {messages : List Message} {records : List String}
    (hrecords : List.Forall₂ (JsonHubProtocol.IsRecord json) messages records)
    (hordinary : ∀ message ∈ messages, IsOrdinary message) :
    Agrees env (Related []) (onMessage cfg app (.text (JsonHubProtocol.frame records)))
      (Connection.onMessage messages) fun _ => Related [] := by
  intro tr tr' h
  have hparse : cfg.protocol.parseMessages (.text (JsonHubProtocol.frame records)) =
      .ok messages := by
    rw [hprotocol]
    exact JsonHubProtocol.parseMessages_frame hrecords
  have hleft : (onMessage cfg app (.text (JsonHubProtocol.frame records))).amid env tr =
      (Connection.onMessage messages).amid env { tr with
        state := { tr.state with history := { tr.state.history with
          received := tr.state.history.received ++
            [(app, tr.state.handshakeReceived, tr.state.state)] } } } := by
    simp only [onMessage, receive, record, interpret, amid_bind, amid_get, amid_modify,
      h.state.handshakeReceived, Bool.not_true, Bool.false_eq_true, if_false, hparse,
      amid_ofExcept]
  rw [hleft]
  have hstate := h.state
  exact Connection.same_onMessage henv hordinary _ tr' ⟨⟨hstate.alike, hstate.handshakeReceived,
    ⟨hstate.callable.members, hstate.callable.table⟩, hstate.fired⟩, h.ops, h.forks⟩

theorem agrees_feed {json : PyJson} (hprotocol : cfg.protocol = JsonHubProtocol.protocol json)
    (henv : Harmless env) {app : Nat} {messages : List Message} {groups : List (List String)}
    (hrecords : List.Forall₂ (JsonHubProtocol.IsRecord json) messages groups.flatten)
    (hordinary : ∀ message ∈ messages, IsOrdinary message) :
    Agrees env (Related []) (feed cfg app groups) (Connection.onMessage messages)
      fun _ => Related [] := by
  induction groups generalizing messages with
  | nil =>
      cases hrecords
      exact Agrees.pure fun _ _ h => h
  | cons group groups ih =>
      have hhead := List.forall₂_take_append _ _ _ hrecords
      have hrest := List.forall₂_drop_append _ _ _ hrecords
      have hmessages := List.take_append_drop group.length messages
      have hordinaryHead : ∀ message ∈ messages.take group.length, IsOrdinary message :=
        fun message hmem => hordinary message (List.mem_of_mem_take hmem)
      intro tr tr' h
      rw [← hmessages, Connection.amid_onMessage_append _ hordinaryHead]
      exact Agrees.bind (agrees_frame hprotocol henv hhead hordinaryHead)
        (fun _ => ih hrest fun message hmem => hordinary message (List.mem_of_mem_drop hmem))
        tr tr' h

theorem agrees_feed_first {json : PyJson}
    (hprotocol : cfg.protocol = JsonHubProtocol.protocol json) (henv : Harmless env) (app : Nat)
    {response : String} (hresponse : IsHandshake json response) {messages : List Message}
    {first : List String} {rest : List (List String)}
    (hrecords : List.Forall₂ (JsonHubProtocol.IsRecord json) messages (first ++ rest.flatten))
    (hordinary : ∀ message ∈ messages, IsOrdinary message) :
    Agrees env BeforeHandshake (feed cfg app ((response :: first) :: rest))
      (do opening app; Connection.onMessage messages) fun _ => Related [] := by
  have hhead := List.forall₂_take_append _ _ _ hrecords
  have hrest := List.forall₂_drop_append _ _ _ hrecords
  have hmessages := List.take_append_drop first.length messages
  have hordinaryHead : ∀ message ∈ messages.take first.length, IsOrdinary message :=
    fun message hmem => hordinary message (List.mem_of_mem_take hmem)
  intro tr tr' h
  have hright : (do opening app; Connection.onMessage messages : Hub Unit).amid env tr' =
      ((do opening app; Connection.onMessage (messages.take first.length) : Hub Unit) >>=
        fun _ => Connection.onMessage (messages.drop first.length)).amid env tr' := by
    conv_lhs => rw [← hmessages]
    simp only [amid_bind, Connection.amid_onMessage_append _ hordinaryHead]
    rcases (opening app).amid env tr' with ⟨_ | _, _⟩ <;> rfl
  rw [hright]
  exact Agrees.bind (agrees_firstFrame hprotocol henv hresponse hhead hordinaryHead)
    (fun _ => agrees_feed hprotocol henv hrest
      fun message hmem => hordinary message (List.mem_of_mem_drop hmem)) tr tr' h

/-- However the records of a connection are grouped into frames, with the handshake response
at the beginning of the first one: the handshake is accepted, `on_open` is called if it is
registered, then the messages are dispatched in order, and any two groupings lead to the
same calls and to states that look alike. -/
theorem segmentation (json : PyJson) (hprotocol : cfg.protocol = JsonHubProtocol.protocol json)
    (henv : Harmless env) (app : Nat) {response : String} (hresponse : IsHandshake json response)
    {messages : List Message} {records : List String}
    (hrecords : List.Forall₂ (JsonHubProtocol.IsRecord json) messages records)
    (hordinary : ∀ message ∈ messages, IsOrdinary message) {s : State}
    (hconnecting : s.state = .connecting ∧ s.handshakeReceived = false) (hcallable : Callable s)
    (first first' : List String) (rest rest' : List (List String))
    (hgroups : first ++ rest.flatten = records) (hgroups' : first' ++ rest'.flatten = records) :
    let fed := fun groups => (feed cfg app groups).amid env
      (⟨s, [], []⟩ : Trace State Exc Op Op.Result Activity)
    ∃ opened, (opening app).amid env ⟨s, [], []⟩ = (.ok (), opened) ∧
      opened.ops = (if s.onOpen then [⟨.callback .onOpen, .ok ()⟩] else []) ∧
      Indistinguishable (fed ((response :: first) :: rest))
        ((Connection.onMessage messages).amid env opened) ∧
      Indistinguishable (fed ((response :: first) :: rest)) (fed ((response :: first') :: rest')) := by
  intro fed
  obtain ⟨opened, hopening, hops⟩ := amid_opening henv app s
  refine ⟨opened, hopening, hops, ?_⟩
  have hopened : (do opening app; Connection.onMessage messages : Hub Unit).amid env ⟨s, [], []⟩ =
      (Connection.onMessage messages).amid env opened := by
    rw [amid_bind, hopening]
  -- both groupings do what one loop over all messages does
  have hfed : ∀ first rest, first ++ rest.flatten = records →
      Indistinguishable (fed ((response :: first) :: rest))
        ((Connection.onMessage messages).amid env opened) := by
    intro first rest hgroups
    rw [← hgroups] at hrecords
    obtain ⟨_, hleft, hright, hsame⟩ := agrees_feed_first hprotocol henv app hresponse
      hrecords hordinary ⟨s, [], []⟩ ⟨s, [], []⟩ ⟨⟨rfl, hconnecting.2, hcallable⟩, rfl, rfl⟩
    rw [hopened] at hright hsame
    exact ⟨hleft, hright, hsame.state.alike, hsame.ops, hsame.forks⟩
  have hone := hfed first rest hgroups
  have hother := hfed first' rest' hgroups'
  exact ⟨hone, hone.returns, hother.returns, hone.same.state.trans hother.same.state.symm,
    hone.same.ops.trans hother.same.ops.symm, hone.same.forks.trans hother.same.forks.symm⟩

/-- User functions that return at once. -/
def quiet : Env State Exc Op Op.Result :=
  fun _ op s =>
    match op with
    | .callback _ => (.ok (), s)
    | _ => (.error .osError, s)

theorem quiet_harmless : Harmless quiet where
  returns := fun _ _ _ => rfl
  alike := fun _ _ _ _ h => h
  handshakeReceived := fun _ _ _ => rfl
  callable := fun _ _ _ h => h
  streams := fun _ _ _ => le_refl _

/-- A connection that waits for its handshake response, with two callbacks. -/
def listening : State :=
  { State.new (.direct none) with
    state := .connecting
    onOpen := true
    handlers := [("Notify", 1)] }

/-- It has no handlers. -/
theorem listening_callable : Callable listening := by
  constructor
  · intro handler hmem
    cases hmem
  · intro object invocationId hmem
    cases hmem

/-- An invocation and a ping, in the frame of the handshake response and behind it. -/
theorem segmentation_notify :
    Indistinguishable
      ((feed (.direct none) 0 [["\x7b\x7d",
        "\x7b\"type\": 1, \"target\": \"Notify\", \"arguments\": [42]\x7d"],
        ["\x7b\"type\": 6\x7d"]]).amid quiet ⟨listening, [], []⟩)
      ((feed (.direct none) 0 [["\x7b\x7d"],
        ["\x7b\"type\": 1, \"target\": \"Notify\", \"arguments\": [42]\x7d",
        "\x7b\"type\": 6\x7d"]]).amid quiet ⟨listening, [], []⟩) := by
  have hresponse : IsHandshake JsonText.python "\x7b\x7d" :=
    ⟨⟨[], rfl, rfl⟩, by decide, by decide⟩
  have hnotify : JsonHubProtocol.IsRecord JsonText.python
      (.newInvocation .none .none (.str "Notify") (.list [.int 42]))
      "\x7b\"type\": 1, \"target\": \"Notify\", \"arguments\": [42]\x7d" :=
    ⟨⟨_, rfl, by decide, rfl⟩, by decide, by decide⟩
  have hping : JsonHubProtocol.IsRecord JsonText.python .ping "\x7b\"type\": 6\x7d" :=
    ⟨⟨_, rfl, by decide, rfl⟩, by decide, by decide⟩
  have hordinary : ∀ message ∈
      [.newInvocation .none .none (.str "Notify") (.list [.int 42]), Message.ping],
      IsOrdinary message := by
    simp [IsOrdinary, Message.newInvocation]
  have hprotocol : (Config.direct none).protocol = JsonHubProtocol.protocol JsonText.python := rfl
  obtain ⟨_, _, _, _, h⟩ := segmentation JsonText.python hprotocol quiet_harmless 0 hresponse
    (.cons hnotify (.cons hping .nil)) hordinary ⟨rfl, rfl⟩ listening_callable
    ["\x7b\"type\": 1, \"target\": \"Notify\", \"arguments\": [42]\x7d"] []
    [["\x7b\"type\": 6\x7d"]]
    [["\x7b\"type\": 1, \"target\": \"Notify\", \"arguments\": [42]\x7d",
      "\x7b\"type\": 6\x7d"]] rfl rfl
  exact h

end WebsocketTransport

end GeventSignalR
