import GeventSignalR.Hub.FailedSend

/-!
# Callbacks that raise

`Connection.on_message` calls the user's callbacks in the middle of its loop, and nothing in
the package catches what they raise.

* `Dispatched` is a message all of whose callbacks returned, and whose handlers were then
  unregistered; `Interrupted` is one of whose callbacks raised.
* `returns_dispatch_iff` and `raises_dispatch_iff`: these are the two ends of a dispatch.
* `onMessage_raising`: a batch is dispatched message by message, up to the first one that is
  interrupted, and from there on nothing of it happens.
-/

namespace GeventSignalR

open Coop Coop.Prog

variable {env : Env State Exc Op Op.Result}

/-- How far a greenlet has come. -/
abbrev Progress : Type :=
  Trace State Exc Op Op.Result Activity

/-! ## The batch -/

namespace Message

/-- The message ends the loop. -/
def isClose : Message → Bool
  | close _ => true
  | _ => false

/-- The id of the call that the message finishes. -/
def finished : Message → Option Value
  | completion _ invocationId _ _ => some invocationId
  | cancelInvocation _ invocationId => some invocationId
  | _ => none

end Message

namespace Connection

/-- The messages before the first `Close`. -/
def beforeClose (messages : List Message) : List Message :=
  messages.takeWhile fun message => !message.isClose

/-- What the loop ends with. -/
def closing (messages : List Message) : Hub Unit :=
  when (messages.any Message.isClose) (stop .closeMessage)

/-! ## A message and its callbacks -/

/-- What comes before the handlers of a message. -/
def report (message : Message) : Hub Unit :=
  match message with
  | .completion _ _ _ error => reportError message error
  | _ => pure ()

/-- The state when the handlers of a message are selected. -/
def selected (message : Message) (s : State) : State :=
  match message with
  | .completion .. | .streamItem .. | .cancelInvocation .. =>
      { s with history := { s.history with table := s.history.table ++ [.dispatched message] } }
  | _ => s

/-- The calls of all matching handlers, in the order of their registration. -/
def callbacks (message : Message) (s : State) : List (Hub Unit) :=
  match message with
  | .invocation _ _ target arguments =>
      (s.handlers.filter fun handler => target.eqStr handler.1).map fun handler =>
        call (.event handler.2 arguments)
  | .completion _ invocationId _ _ =>
      (s.streamHandlers.filter (matchesId invocationId)).map (callComplete message)
  | .streamItem _ invocationId item =>
      (s.streamHandlers.filter fun h => h.isStream && matchesId invocationId h).map (callNext item)
  | .cancelInvocation _ invocationId =>
      (s.streamHandlers.filter fun h => h.isStream && matchesId invocationId h).map
        (callError message)
  | _ => []

/-- The state when the handlers of a finished call are unregistered. -/
def settled (message : Message) (s : State) : State :=
  message.finished.elim s fun invocationId =>
    { s with streamHandlers := s.streamHandlers.filter fun h => !matchesId invocationId h }

/-- All callbacks for the message are called one after the other, and return.  Then the
handlers of its call are unregistered, if it finishes the call. -/
def Dispatched (env : Env State Exc Op Op.Result) (message : Message) (tr tr' : Progress) : Prop :=
  ∃ mid last, (report message).Returns env tr mid ∧
    InTurn (Returns env) (callbacks message mid.state)
      { mid with state := selected message mid.state } last ∧
    tr' = { last with state := settled message last.state }

/-- Something raises on the way: the report of an error, or a callback behind others that
have returned. -/
def Interrupted (env : Env State Exc Op Op.Result) (message : Message) (e : Exc)
    (tr tr' : Progress) : Prop :=
  (report message).Raises env e tr tr' ∨
    ∃ mid front callback back last, (report message).Returns env tr mid ∧
      callbacks message mid.state = front ++ callback :: back ∧
      InTurn (Returns env) front { mid with state := selected message mid.state } last ∧
      callback.Raises env e last tr'

/-! ## The two ends of a dispatch -/

/-- The calls of all matching handlers, and what follows them. -/
def callAll (message : Message) : Hub Unit := do
  let s ← get
  modify (selected message)
  each (callbacks message s) id
  modify (settled message)

theorem each_map {γ δ : Type} (xs : List γ) (f : γ → δ) (g : δ → Hub Unit) :
    each (xs.map f) g = each xs fun x => g (f x) := by
  induction xs with
  | nil => rfl
  | cons x xs ih =>
      show ((g (f x)).bind fun _ => each (xs.map f) g) = _
      rw [ih]
      rfl

theorem amid_bind_modify_id (p : Hub Unit) (tr : Progress) :
    (p >>= fun _ => modify fun s => s).amid env tr = p.amid env tr := by
  rw [amid_bind]
  rcases p.amid env tr with ⟨e | ⟨⟩, tr'⟩ <;> rfl

/-- Whatever the message, its dispatch has the same parts. -/
theorem amid_dispatch (message : Message) (tr : Progress) :
    (dispatch message).amid env tr = (report message >>= fun _ => callAll message).amid env tr := by
  cases message with
  | invocation headers invocationId target arguments =>
      have hparts : (callAll (.invocation headers invocationId target arguments)).amid env tr =
          (each ((tr.state.handlers.filter fun handler => target.eqStr handler.1).map fun handler =>
            call (.event handler.2 arguments)) id >>= fun _ => modify fun s => s).amid env tr := rfl
      show (dispatchInvocation target arguments).amid env tr = (callAll _).amid env tr
      rw [hparts, amid_bind_modify_id, each_map]
      rfl
  | completion headers invocationId result error =>
      show (reportError _ error >>= fun _ => _).amid env tr =
        (reportError _ error >>= fun _ => _).amid env tr
      rw [amid_bind, amid_bind]
      rcases (reportError _ error).amid env tr with ⟨e | ⟨⟩, mid⟩
      · rfl
      · show _ = (each (List.map _ _) id >>= fun _ => _).amid env _
        rw [each_map]
        rfl
  | streamItem headers invocationId item =>
      show _ = (each (List.map _ _) id >>= fun _ => modify fun s => s).amid env _
      rw [amid_bind_modify_id, each_map]
      rfl
  | cancelInvocation headers invocationId =>
      show _ = (each (List.map _ _) id >>= fun _ => _).amid env _
      rw [each_map]
      rfl
  | _ => rfl

variable {message : Message} {tr tr' : Progress} {e : Exc}

/-- A dispatch returns when all callbacks did. -/
theorem returns_dispatch_iff :
    (dispatch message).Returns env tr tr' ↔ Dispatched env message tr tr' := by
  have hparts : (dispatch message).Returns env tr tr' ↔
      (report message >>= fun _ => callAll message).Returns env tr tr' := by
    unfold Returns
    rw [amid_dispatch]
  have hcalls : ∀ mid, (callAll message).Returns env mid tr' ↔
      ∃ last, InTurn (Returns env) (callbacks message mid.state)
        { mid with state := selected message mid.state } last ∧
          tr' = { last with state := settled message last.state } := by
    intro mid
    show (each (callbacks message mid.state) id >>= fun _ => modify (settled message)).Returns env
      { mid with state := selected message mid.state } tr' ↔ _
    rw [returns_bind_iff]
    constructor
    · rintro ⟨last, hcallbacks, hsettled⟩
      rw [returns_each_iff, List.map_id] at hcallbacks
      cases hsettled
      exact ⟨last, hcallbacks, rfl⟩
    · rintro ⟨last, hcallbacks, rfl⟩
      refine ⟨last, ?_, rfl⟩
      rw [returns_each_iff, List.map_id]
      exact hcallbacks
  rw [hparts, returns_bind_iff]
  constructor
  · rintro ⟨mid, hreport, hrest⟩
    obtain ⟨last, hcallbacks, hsettled⟩ := (hcalls mid).mp hrest
    exact ⟨mid, last, hreport, hcallbacks, hsettled⟩
  · rintro ⟨mid, last, hreport, hcallbacks, hsettled⟩
    exact ⟨mid, hreport, (hcalls mid).mpr ⟨last, hcallbacks, hsettled⟩⟩

/-- It raises when one of them did, or the report before them. -/
theorem raises_dispatch_iff :
    (dispatch message).Raises env e tr tr' ↔ Interrupted env message e tr tr' := by
  have hparts : (dispatch message).Raises env e tr tr' ↔
      (report message >>= fun _ => callAll message).Raises env e tr tr' := by
    unfold Raises
    rw [amid_dispatch]
  have hcalls : ∀ mid, (callAll message).Raises env e mid tr' ↔
      ∃ front callback back last, callbacks message mid.state = front ++ callback :: back ∧
        InTurn (Returns env) front { mid with state := selected message mid.state } last ∧
          callback.Raises env e last tr' := by
    intro mid
    show (each (callbacks message mid.state) id >>= fun _ => modify (settled message)).Raises env e
      { mid with state := selected message mid.state } tr' ↔ _
    rw [raises_bind_iff, raises_each_iff, List.map_id]
    constructor
    · rintro (hraises | ⟨last, -, hsettled⟩)
      · exact hraises
      -- to unregister handlers does not raise
      · cases hsettled
    · exact .inl
  rw [hparts, raises_bind_iff]
  apply or_congr Iff.rfl
  constructor
  · rintro ⟨mid, hreport, hrest⟩
    obtain ⟨front, callback, back, last, hsplit, hfront, hraises⟩ := (hcalls mid).mp hrest
    exact ⟨mid, front, callback, back, last, hreport, hsplit, hfront, hraises⟩
  · rintro ⟨mid, front, callback, back, last, hreport, hsplit, hfront, hraises⟩
    exact ⟨mid, hreport, (hcalls mid).mpr ⟨front, callback, back, last, hsplit, hfront, hraises⟩⟩

/-! ## The loop -/

theorem onMessage_cons {message : Message} {messages : List Message}
    (h : message.isClose = false) : onMessage (message :: messages) =
      (dispatch message >>= fun _ => onMessage messages) := by
  cases message with
  | close error => cases h
  | _ => rfl

theorem beforeClose_cons {message : Message} {messages : List Message}
    (h : message.isClose = false) :
    beforeClose (message :: messages) = message :: beforeClose messages := by
  simp [beforeClose, h]

theorem closing_cons {message : Message} {messages : List Message}
    (h : message.isClose = false) : closing (message :: messages) = closing messages := by
  simp [closing, h]

variable (env) in
/-- The loop goes through all messages before the first `Close`, or ends at the first one that
is interrupted. -/
theorem amid_onMessage (messages : List Message) (tr : Progress) :
    (∃ last, InTurn (Dispatched env) (beforeClose messages) tr last ∧
      (onMessage messages).amid env tr = (closing messages).amid env last) ∨
    ∃ front message back last e tr', beforeClose messages = front ++ message :: back ∧
      InTurn (Dispatched env) front tr last ∧ Interrupted env message e last tr' ∧
      (onMessage messages).amid env tr = (.error e, tr') := by
  induction messages generalizing tr with
  | nil => exact .inl ⟨tr, .nil, rfl⟩
  | cons message messages ih =>
      cases hclose : message.isClose with
      | true =>
          cases message with
          | close error => exact .inl ⟨tr, .nil, rfl⟩
          | _ => cases hclose
      | false =>
          rw [onMessage_cons hclose, beforeClose_cons hclose, closing_cons hclose, amid_bind]
          obtain ⟨mid, hreturns | ⟨e, hraises⟩⟩ := returns_or_raises env (dispatch message) tr
          · have hdispatched := returns_dispatch_iff.mp hreturns
            rw [Returns] at hreturns
            rw [hreturns]
            rcases ih mid with ⟨last, hturn, hend⟩ |
              ⟨front, other, back, last, e, tr', hsplit, hturn, hraises, hend⟩
            · exact .inl ⟨last, .cons hdispatched hturn, hend⟩
            · exact .inr ⟨message :: front, other, back, last, e, tr', by rw [hsplit]; rfl,
                .cons hdispatched hturn, hraises, hend⟩
          · have hinterrupted := raises_dispatch_iff.mp hraises
            rw [Raises] at hraises
            rw [hraises]
            exact .inr ⟨[], message, beforeClose messages, tr, e, mid, rfl, .nil, hinterrupted, rfl⟩

end Connection

/-! ## The table -/

namespace Connection

theorem spares_streamCallback (object : Nat) (member : StreamHandler → Function) :
    SparesTable (streamCallback object member) :=
  Spares.bind Spares.get fun _ => Spares.elim (Spares.raise _) fun _ => Spares.pure _

theorem spares_apply (f : Function) (handlerCall : HandlerCall) :
    SparesTable (f.apply handlerCall) := by
  cases f with
  | default => exact Spares.bind (Spares.modify fun _ => rfl) fun _ => Spares.pure _
  | user callback => exact Spares.bind (Spares.modify fun _ => rfl) fun _ => Spares.perform _
  | notCallable => exact Spares.bind (Spares.modify fun _ => rfl) fun _ => Spares.raise _

theorem spares_callNext (item : Value) (handler : Handler) : SparesTable (callNext item handler) := by
  cases handler with
  | stream object invocationId =>
      exact Spares.bind (spares_streamCallback _ _) fun _ => spares_apply _ _
  | invocation invocationId callback => exact Spares.raise _

theorem spares_callComplete (message : Message) (handler : Handler) :
    SparesTable (callComplete message handler) := by
  cases handler with
  | stream object invocationId =>
      exact Spares.bind (spares_streamCallback _ _) fun _ => spares_apply _ _
  | invocation invocationId callback => exact spares_apply _ _

theorem spares_callError (message : Message) (handler : Handler) :
    SparesTable (callError message handler) := by
  cases handler with
  | stream object invocationId =>
      exact Spares.bind (spares_streamCallback _ _) fun _ => spares_apply _ _
  | invocation invocationId callback => exact Spares.raise _

theorem spares_report (message : Message) : SparesTable (report message) := by
  cases message with
  | completion headers invocationId result error =>
      exact Spares.when (Spares.bind (Spares.ofExcept _) fun _ => Spares.bind Spares.get fun _ =>
        Spares.when (Spares.perform _))
  | _ => exact Spares.pure _

/-- No callback for a message changes the table itself. -/
theorem spares_callbacks (message : Message) (s : State) :
    ∀ callback ∈ callbacks message s, SparesTable callback := by
  intro callback hmem
  cases message with
  | invocation headers invocationId target arguments =>
      obtain ⟨handler, -, rfl⟩ := List.mem_map.mp hmem
      exact Spares.perform _
  | completion headers invocationId result error =>
      obtain ⟨handler, -, rfl⟩ := List.mem_map.mp hmem
      exact spares_callComplete _ handler
  | streamItem headers invocationId item =>
      obtain ⟨handler, -, rfl⟩ := List.mem_map.mp hmem
      exact spares_callNext _ handler
  | cancelInvocation headers invocationId =>
      obtain ⟨handler, -, rfl⟩ := List.mem_map.mp hmem
      exact spares_callError _ handler
  | _ => cases hmem

theorem selected_streamHandlers (message : Message) (s : State) :
    (selected message s).streamHandlers = s.streamHandlers := by
  cases message <;> rfl

end Connection

namespace TableEffects

variable (effects : TableEffects env) {tr tr' : Progress}

/-- No handler in the table has the id. -/
def Absent (invocationId : Value) (table : List Handler) : Prop :=
  ∀ handler ∈ table, Connection.matchesId invocationId handler = false

/-- Nobody else registers a handler under the id. -/
def Withholds (invocationId : Value) : Prop :=
  ∀ c, Absent invocationId (effects.new c)

variable {effects} in
theorem Withholds.acted {invocationId : Value} (h : effects.Withholds invocationId)
    (performed : List (Performed State Exc Op Op.Result)) {table : List Handler}
    (habsent : Absent invocationId table) : Absent invocationId (effects.acted performed table) := by
  induction performed generalizing table with
  | nil => exact habsent
  | cons c performed ih =>
      apply ih
      intro handler hmem
      rcases List.mem_append.mp hmem with hold | hnew
      · exact habsent handler (List.mem_filter.mp hold).1
      · exact h c handler hnew

/-- While a program leaves the table alone, no handler with the id appears. -/
theorem Withholds.amid {effects : TableEffects env} {invocationId : Value}
    (h : effects.Withholds invocationId) {α : Type} {p : Hub α} (hp : SparesTable p)
    (habsent : Absent invocationId tr.state.streamHandlers) :
    Absent invocationId (p.amid env tr).2.state.streamHandlers := by
  have hunnoticed : effects.Unnoticed p tr := effects.unnoticed_of_spares hp
  rw [hunnoticed]
  exact h.acted _ habsent

/-- The handlers of a finished call are unregistered. -/
def Unregistered (dealt : List Message) (table : List Handler) : Prop :=
  ∀ message ∈ dealt, ∀ invocationId, message.finished = some invocationId →
    effects.Withholds invocationId → Absent invocationId table

/-- Where the program raises, it has left the table to the others. -/
def Abandons {α : Type} (p : Hub α) : Prop :=
  ∀ tr e tr', p.Raises env e tr tr' → effects.Unnoticed p tr

theorem abandons_of_spares {α : Type} {p : Hub α} (hp : SparesTable p) : effects.Abandons p :=
  fun _ _ _ _ => effects.unnoticed_of_spares hp

theorem abandons_bind {α : Type} {p : Hub α} {f : α → Hub Unit} (hp : SparesTable p)
    (hf : ∀ a, effects.Abandons (f a)) : effects.Abandons (p >>= f) := by
  intro tr e tr' hraises
  rcases hrun : p.amid env tr with ⟨e' | a, mid⟩
  · exact effects.unnoticed_bind_error hp hrun
  · have hrest : (f a).Raises env e mid tr' := by
      rw [Raises, amid_bind, hrun] at hraises
      exact hraises
    exact (effects.unnoticed_bind_iff hp hrun).mpr (hf a mid e tr' hrest)

/-- To unregister handlers does not raise. -/
theorem abandons_unregister (invocationId : Value) :
    effects.Abandons (Connection.unregister invocationId) := by
  intro tr e tr' hraises
  cases hraises

/-- A dispatch that raises leaves its handlers where they are. -/
theorem abandons_dispatch (message : Message) : effects.Abandons (Connection.dispatch message) := by
  have hselect : ∀ select, SparesTable (Connection.selectHandlers message select) := fun _ =>
    Spares.bind (Spares.modify fun _ => rfl) fun _ => Spares.bind Spares.get fun _ => Spares.pure _
  cases message with
  | invocation headers invocationId target arguments =>
      exact effects.abandons_of_spares
        (Spares.bind Spares.get fun _ => Spares.each fun _ => Spares.perform _)
  | completion headers invocationId result error =>
      exact effects.abandons_bind (Connection.spares_report (.completion headers invocationId result
        error)) fun _ => effects.abandons_bind (hselect _) fun _ =>
          effects.abandons_bind (Spares.each (Connection.spares_callComplete _)) fun _ =>
            effects.abandons_unregister _
  | streamItem headers invocationId item =>
      exact effects.abandons_of_spares
        (Spares.bind (hselect _) fun _ => Spares.each (Connection.spares_callNext _))
  | cancelInvocation headers invocationId =>
      exact effects.abandons_bind (hselect _) fun _ =>
        effects.abandons_bind (Spares.each (Connection.spares_callError _)) fun _ =>
          effects.abandons_unregister _
  | _ => exact effects.abandons_of_spares (Spares.pure _)

/-- A handler that nobody unregisters is still there. -/
theorem mem_acted {performed : List (Performed State Exc Op Op.Result)} {handler : Handler}
    {table : List Handler} (hkept : ¬effects.Withdraws performed handler) (hmem : handler ∈ table) :
    handler ∈ effects.acted performed table := by
  obtain ⟨front, back, rfl⟩ := List.append_of_mem hmem
  obtain ⟨front', back', -, hwith⟩ := effects.acted_kept hkept front back
  rw [hwith]
  simp

/-! ## What a dispatch does to the table -/

variable {effects} {message : Message} {invocationId : Value}

theorem absent_settled {s : State} (h : Absent invocationId s.streamHandlers) :
    Absent invocationId (Connection.settled message s).streamHandlers := by
  unfold Connection.settled
  cases message.finished with
  | none => exact h
  | some other => exact fun handler hmem => h handler (List.mem_filter.mp hmem).1

/-- A message that is dispatched makes no handler appear. -/
theorem Withholds.dispatched (h : effects.Withholds invocationId)
    (hturn : Connection.Dispatched env message tr tr')
    (habsent : Absent invocationId tr.state.streamHandlers) :
    Absent invocationId tr'.state.streamHandlers := by
  obtain ⟨mid, last, hreport, hcallbacks, rfl⟩ := hturn
  have hmid : Absent invocationId mid.state.streamHandlers := by
    have hkept := h.amid (Connection.spares_report message) habsent
    rw [hreport] at hkept
    exact hkept
  have hlast : Absent invocationId last.state.streamHandlers := by
    apply hcallbacks.keeps (P := fun t => Absent invocationId t.state.streamHandlers)
    · intro callback hmem t t' hreturns ht
      have hkept := h.amid (Connection.spares_callbacks message _ callback hmem) ht
      rw [hreturns] at hkept
      exact hkept
    · show Absent invocationId (Connection.selected message mid.state).streamHandlers
      rw [Connection.selected_streamHandlers]
      exact hmid
  exact absent_settled hlast

/-- One that finishes a call unregisters its handlers. -/
theorem absent_dispatched (hfinished : message.finished = some invocationId)
    (hturn : Connection.Dispatched env message tr tr') :
    Absent invocationId tr'.state.streamHandlers := by
  obtain ⟨mid, last, -, -, rfl⟩ := hturn
  intro handler hmem
  rw [Connection.settled, hfinished] at hmem
  simpa using (List.mem_filter.mp hmem).2

/-- Behind messages that are dispatched one after the other, all calls that they finish are
unregistered. -/
theorem unregistered_inTurn {messages : List Message}
    (hturn : InTurn (Connection.Dispatched env) messages tr tr') :
    effects.Unregistered messages tr'.state.streamHandlers := by
  intro message hmem invocationId hfinished hwithholds
  exact hturn.establishes (P := fun t => Absent invocationId t.state.streamHandlers)
    (fun _ _ _ _ hother => hwithholds.dispatched hother) hmem
    fun _ _ hdispatched => absent_dispatched hfinished hdispatched

/-- They stay so while others act on the table. -/
theorem Unregistered.acted {dealt : List Message} {table : List Handler}
    (h : effects.Unregistered dealt table)
    (performed : List (Performed State Exc Op Op.Result)) :
    effects.Unregistered dealt (effects.acted performed table) :=
  fun message hmem invocationId hfinished hwithholds =>
    hwithholds.acted performed (h message hmem invocationId hfinished hwithholds)

end TableEffects

/-! ## Batches -/

namespace Connection

/-- A batch is dispatched message by message.  Either all messages before the first `Close` are
dispatched to all their handlers, and the calls they finish are unregistered; or this is so for
the messages before one of whose callbacks something is raised: that exception leaves
`on_message`, the handlers of this message stay registered, and no later message is dispatched. -/
theorem onMessage_raising (effects : TableEffects env) (messages : List Message) (tr : Progress) :
    (∃ last, InTurn (Dispatched env) (beforeClose messages) tr last ∧
      (onMessage messages).amid env tr = (closing messages).amid env last ∧
      effects.Unregistered (beforeClose messages)
        ((onMessage messages).amid env tr).2.state.streamHandlers) ∨
    ∃ front message back last e tr', beforeClose messages = front ++ message :: back ∧
      InTurn (Dispatched env) front tr last ∧ Interrupted env message e last tr' ∧
      (onMessage messages).amid env tr = (.error e, tr') ∧
      effects.Unregistered front tr'.state.streamHandlers ∧
      ∀ handler ∈ last.state.streamHandlers,
        ¬effects.Withdraws ((dispatch message).performed env last) handler →
          handler ∈ tr'.state.streamHandlers := by
  rcases amid_onMessage env messages tr with ⟨last, hturn, hend⟩ |
    ⟨front, message, back, last, e, tr', hsplit, hturn, hinterrupted, hend⟩
  · left
    refine ⟨last, hturn, hend, ?_⟩
    have hclosing : effects.Unnoticed (closing messages) last :=
      effects.unnoticed_of_spares (Spares.when (WebsocketTransport.spares_stop _))
    rw [hend, hclosing]
    exact (TableEffects.unregistered_inTurn hturn).acted _
  · right
    refine ⟨front, message, back, last, e, tr', hsplit, hturn, hinterrupted, hend, ?_⟩
    have hraises : (dispatch message).Raises env e last tr' := raises_dispatch_iff.mpr hinterrupted
    have htable : tr'.state.streamHandlers = effects.acted
        ((dispatch message).performed env last) last.state.streamHandlers := by
      have hleft : effects.Unnoticed (dispatch message) last :=
        effects.abandons_dispatch message last e tr' hraises
      rw [TableEffects.Unnoticed, hraises] at hleft
      exact hleft
    rw [htable]
    constructor
    · exact (TableEffects.unregistered_inTurn hturn).acted _
    · exact fun handler hmem hkept => effects.mem_acted hkept hmem

/-- The callback of a finished call raises: its handler stays registered, and the event that
comes with it in the batch is lost. -/
theorem completion_left_registered :
    ∃ tr', (onMessage [.completion .none (.str "7") .none .none,
        .invocation .none .none (.str "news") (.list [])]).amid
          (fun _ _ s => (.error (.exception "no disk space"), s))
          (⟨{ State.new (.direct none) with
              handlers := [("news", 1)]
              streamHandlers := [.invocation "7" 0] }, [], []⟩ : Progress) =
        (.error (.exception "no disk space"), tr') ∧
      tr'.state.streamHandlers = [.invocation "7" 0] ∧
      tr'.ops = [⟨.callback (.handler 0 (.complete (.invocation "7" 0)
        (.completion .none (.str "7") .none .none))), .error (.exception "no disk space")⟩] :=
  ⟨_, rfl, rfl, rfl⟩

end Connection

end GeventSignalR
