import GeventSignalR.Coop.Spares
import GeventSignalR.Hub.System

/-!
# Sends that fail

`Connection.send` and `Connection.stream` register a handler and pass the message on to the
transport.  When the transport raises, the handler stays.

* `TableEffects` are what other greenlets do to the table while a call is at work: they
  unregister handlers and register new ones.
* `without` is the table as these effects alone leave it.
* `Request.unnoticed_call_iff` says when a call leaves the table so.
-/

namespace GeventSignalR

open Coop Coop.Prog

variable {cfg : Config} {env : Env State Exc Op Op.Result}

/-! ## The transport and the table -/

/-- The program registers and unregisters nothing. -/
abbrev SparesTable {α : Type} (p : Hub α) : Prop :=
  p.Spares State.streamHandlers

namespace WebsocketTransport

theorem spares_setState (value : ConnectionState) : SparesTable (setState value) :=
  Spares.bind (Spares.modify fun _ => rfl) fun _ => Spares.when (Spares.modify fun _ => rfl)

theorem spares_closeWs (site : StopSite) : SparesTable (closeWs site) :=
  Spares.bind Spares.get fun _ => Spares.elim (Spares.pure _) fun _ =>
    Spares.bind (Spares.modify fun _ => rfl) fun _ =>
      Spares.bind (Spares.perform _) fun _ => Spares.modify fun _ => rfl

theorem spares_stop (site : StopSite) : SparesTable (stop site) :=
  Spares.bind Spares.get fun _ => Spares.when <|
    Spares.bind (Spares.modify fun _ => rfl) fun _ => Spares.bind (spares_closeWs site) fun _ =>
      Spares.bind (spares_setState _) fun _ => Spares.modify fun _ => rfl

theorem spares_negotiate : SparesTable (negotiate cfg) :=
  Spares.bind Spares.get fun _ => Spares.bind (Spares.perform _) fun _ =>
    Spares.bind Spares.get fun _ => Spares.bind (Spares.ofExcept _) fun _ =>
      Spares.modify fun _ => rfl

theorem spares_createApp : SparesTable createApp :=
  Spares.bind Spares.get fun _ => Spares.bind (Spares.modify fun _ => rfl) fun _ =>
    Spares.bind (Spares.modify fun _ => rfl) fun _ => Spares.bind (Spares.fork _) fun _ =>
      Spares.modify fun _ => rfl

theorem spares_start : SparesTable (start cfg) :=
  Spares.bind (Spares.when spares_negotiate) fun _ => Spares.bind Spares.get fun _ =>
    Spares.when (Spares.bind (spares_setState _) fun _ => spares_createApp)

end WebsocketTransport

namespace Connection

theorem spares_refreshTokenMaybe (site : AuthSite) : SparesTable (refreshTokenMaybe cfg site) :=
  Spares.when (Spares.bind (Spares.perform _) fun _ =>
    Spares.elim (Spares.pure _) fun _ => Spares.modify fun _ => rfl)

theorem spares_start : SparesTable (start cfg) :=
  Spares.bind (spares_refreshTokenMaybe _) fun _ => WebsocketTransport.spares_start

end Connection

namespace WebsocketTransport

theorem spares_reconnectionHandler : SparesTable reconnectionHandler :=
  Spares.bind Spares.get fun _ => Spares.elim (Spares.raise _) fun _ => Spares.pure _

theorem spares_setHandler (f : ReconnectionHandler → ReconnectionHandler) :
    SparesTable (setHandler f) :=
  Spares.modify fun _ => rfl

theorem spares_reconnect : SparesTable (reconnect cfg) := by
  have hstop : SparesTable stopLost :=
    Spares.tryCatch (spares_stop _) fun _ => Spares.ite (spares_setState _) (Spares.raise _)
  have hkill : SparesTable killGreenlet :=
    Spares.bind Spares.get fun _ => Spares.elim (Spares.raise _) fun _ =>
      Spares.bind (Spares.bind Spares.get fun _ =>
        Spares.bind (Spares.modify fun _ => rfl) fun _ => Spares.modify fun _ => rfl) fun _ =>
          Spares.perform _
  exact Spares.bind hstop fun _ => Spares.bind hkill fun _ =>
    Spares.bind (Spares.modify fun _ => rfl) fun _ =>
      Spares.bind (Spares.modify fun _ => rfl) fun _ => Connection.spares_start

theorem spares_deferReconnect (e : Exc) : SparesTable (deferReconnect e) := by
  have hnext : SparesTable nextSleepTime :=
    Spares.bind spares_reconnectionHandler fun _ => Spares.bind (spares_setHandler _) fun _ =>
      Spares.bind (Spares.modify fun _ => rfl) fun _ => Spares.ofExcept _
  exact Spares.ite (Spares.bind hnext fun _ => Spares.fork _) (Spares.raise _)

theorem spares_handleReconnect : SparesTable (handleReconnect cfg) := by
  have hreport : SparesTable reportReconnect :=
    Spares.bind (Spares.modify fun _ => rfl) fun _ => Spares.perform _
  have hset : SparesTable (setReconnecting true) :=
    Spares.bind spares_reconnectionHandler fun _ => spares_setHandler _
  exact Spares.bind spares_reconnectionHandler fun _ => Spares.bind Spares.get fun _ =>
    Spares.bind (Spares.when hreport) fun _ => Spares.bind hset fun _ =>
      Spares.tryCatch spares_reconnect spares_deferReconnect

theorem spares_transmit (message : Outgoing) : SparesTable (transmit cfg message) := by
  have hws : SparesTable ws :=
    Spares.bind Spares.get fun _ => Spares.elim (Spares.raise _) fun _ => Spares.pure _
  have hwrite : ∀ app, SparesTable (write app message) := fun app =>
    Spares.bind (Spares.modify fun _ => rfl) fun _ =>
      Spares.tryCatch (Spares.perform _) fun _ =>
        Spares.bind (Spares.modify fun _ => rfl) fun _ => Spares.raise _
  exact Spares.bind hws fun app => Spares.bind (Spares.ofExcept _) fun _ =>
    Spares.bind (hwrite app) fun _ => Spares.bind (Spares.modify fun _ => rfl) fun _ =>
      spares_setHandler _

/-- Whatever becomes of a message, the transport leaves the table to other greenlets. -/
theorem spares_send (message : Outgoing) : SparesTable (send cfg message) := by
  have hreport : ∀ e, SparesTable (reportLost e) := fun e =>
    Spares.bind Spares.get fun _ => Spares.bind (Spares.when (Spares.perform _)) fun _ =>
      Spares.raise _
  have hlost : ∀ e, SparesTable (connectionLost cfg e) := fun e =>
    Spares.bind (Spares.modify fun _ => rfl) fun _ => Spares.bind (spares_setState _) fun _ =>
      Spares.bind Spares.get fun _ => Spares.ite (hreport e) spares_handleReconnect
  exact Spares.tryCatch (spares_transmit message) fun e => Spares.ite (hlost e) (Spares.raise _)

end WebsocketTransport

/-! ## What other greenlets do to the table -/

/-- Whatever other greenlets do while an operation is pending, they leave some of the
handlers in the table, and register some. -/
structure TableEffects (env : Env State Exc Op Op.Result) where
  keep : Performed State Exc Op Op.Result → Handler → Bool
  new : Performed State Exc Op Op.Result → List Handler
  acts : ∀ ops op s, (env ops op s).2.streamHandlers =
    s.streamHandlers.filter (keep ⟨ops, op, s⟩) ++ new ⟨ops, op, s⟩

/-- Every environment has such effects: at worst it replaces the whole table. -/
instance : Inhabited (TableEffects env) where
  default :=
    { keep := fun _ _ => false
      new := fun c => (env c.ops c.op c.state).2.streamHandlers
      acts := fun _ _ _ => by simp }

namespace TableEffects

/-- What they do to a table during one operation. -/
def act (effects : TableEffects env) (c : Performed State Exc Op Op.Result)
    (table : List Handler) : List Handler :=
  table.filter (effects.keep c) ++ effects.new c

/-- What they do during some operations. -/
def acted (effects : TableEffects env) (performed : List (Performed State Exc Op Op.Result))
    (table : List Handler) : List Handler :=
  performed.foldl (fun table c => effects.act c table) table

/-- They unregister the handler during one of the operations. -/
def Withdraws (effects : TableEffects env) (performed : List (Performed State Exc Op Op.Result))
    (handler : Handler) : Prop :=
  ∃ c ∈ performed, effects.keep c handler = false

variable (effects : TableEffects env) {performed : List (Performed State Exc Op Op.Result)}
  {handler : Handler}

theorem acted_append (performed' : List (Performed State Exc Op Op.Result)) (table : List Handler) :
    effects.acted (performed ++ performed') table =
      effects.acted performed' (effects.acted performed table) :=
  List.foldl_append

/-- A handler that nobody unregisters stays in its place. -/
theorem acted_kept (h : ¬effects.Withdraws performed handler) (front back : List Handler) :
    ∃ front' back', effects.acted performed (front ++ back) = front' ++ back' ∧
      effects.acted performed (front ++ handler :: back) = front' ++ handler :: back' := by
  induction performed generalizing front back with
  | nil => exact ⟨front, back, rfl, rfl⟩
  | cons c performed ih =>
      have hkeep : effects.keep c handler = true := by
        by_contra hdrop
        exact h ⟨c, by simp, by simpa using hdrop⟩
      have hrest : ¬effects.Withdraws performed handler := by
        rintro ⟨c', hc', hdrop⟩
        exact h ⟨c', by simp [hc'], hdrop⟩
      obtain ⟨front', back', hwithout, hwith⟩ := ih hrest (front.filter (effects.keep c))
        (back.filter (effects.keep c) ++ effects.new c)
      refine ⟨front', back', ?_, ?_⟩
      · rw [← hwithout]
        simp [acted, act]
      · rw [← hwith]
        simp [acted, act, hkeep]

/-- One that somebody unregisters leaves no trace. -/
theorem acted_withdrawn (h : effects.Withdraws performed handler) (front back : List Handler) :
    effects.acted performed (front ++ handler :: back) = effects.acted performed (front ++ back) := by
  induction performed generalizing front back with
  | nil =>
      obtain ⟨c, hc, -⟩ := h
      cases hc
  | cons c performed ih =>
      cases hkeep : effects.keep c handler with
      | false => simp [acted, act, hkeep]
      | true =>
          have hrest : effects.Withdraws performed handler := by
            obtain ⟨c', hc', hdrop⟩ := h
            rcases List.mem_cons.mp hc' with rfl | hc'
            · rw [hkeep] at hdrop
              cases hdrop
            · exact ⟨c', hc', hdrop⟩
          have hact := ih hrest (front.filter (effects.keep c))
            (back.filter (effects.keep c) ++ effects.new c)
          simpa [acted, act, hkeep] using hact

/-- The table shows that the handler was registered, unless somebody has unregistered it. -/
theorem acted_registered_iff (table : List Handler) :
    effects.acted performed (table ++ [handler]) = effects.acted performed table ↔
      effects.Withdraws performed handler := by
  constructor
  · intro hsame
    by_contra hkept
    obtain ⟨front, back, hwithout, hwith⟩ := effects.acted_kept hkept table []
    rw [List.append_nil] at hwithout
    rw [hwith, hwithout] at hsame
    simpa using congrArg List.length hsame
  · intro hdrop
    simpa using effects.acted_withdrawn hdrop table []

/-- The program leaves the table as the effects on it do. -/
def Unnoticed (effects : TableEffects env) {α : Type} (p : Hub α)
    (tr : Trace State Exc Op Op.Result Activity) : Prop :=
  (p.amid env tr).2.state.streamHandlers =
    effects.acted (p.performed env tr) tr.state.streamHandlers

variable {α : Type} {tr tr' : Trace State Exc Op Op.Result Activity}

theorem unnoticed_of_spares {p : Hub α} (hp : SparesTable p) : effects.Unnoticed p tr := by
  have hact : ∀ ops op s, (env ops op s).2.streamHandlers =
      effects.act ⟨ops, op, s⟩ s.streamHandlers := effects.acts
  exact hp.amid hact

/-- What a program does before it registers does not matter. -/
theorem unnoticed_bind_iff {p : Hub α} {f : α → Hub Unit} (hp : SparesTable p) {a : α}
    (h : p.amid env tr = (.ok a, tr')) :
    effects.Unnoticed (p >>= f) tr ↔ effects.Unnoticed (f a) tr' := by
  have hfront : tr'.state.streamHandlers =
      effects.acted (p.performed env tr) tr.state.streamHandlers := by
    have hspares : effects.Unnoticed p tr := effects.unnoticed_of_spares hp
    rw [Unnoticed, h] at hspares
    exact hspares
  have hend : (p >>= f).amid env tr = (f a).amid env tr' := by rw [amid_bind, h]
  rw [Unnoticed, Unnoticed, hend, performed_bind_ok h, acted_append, hfront]

/-- Where it raises, it registers nothing. -/
theorem unnoticed_bind_error {p : Hub α} {f : α → Hub Unit} (hp : SparesTable p) {e : Exc}
    (h : p.amid env tr = (.error e, tr')) : effects.Unnoticed (p >>= f) tr := by
  have hspares : effects.Unnoticed p tr := effects.unnoticed_of_spares hp
  have hend : (p >>= f).amid env tr = (.error e, tr') := by rw [amid_bind, h]
  rw [Unnoticed, h] at hspares
  rw [Unnoticed, hend, performed_bind_error h]
  exact hspares

/-- A registration, and a program that leaves the table to the others. -/
theorem unnoticed_register_iff {p : Hub Unit} (hp : SparesTable p) :
    effects.Unnoticed (Connection.register handler >>= fun _ => p) tr ↔
      effects.Withdraws ((Connection.register handler >>= fun _ => p).performed env tr) handler := by
  have hrest : effects.Unnoticed p ((Connection.register handler).amid env tr).2 :=
    effects.unnoticed_of_spares hp
  rw [← effects.acted_registered_iff tr.state.streamHandlers]
  constructor
  · intro hsame
    exact hrest.symm.trans hsame
  · intro hsame
    exact hrest.trans hsame

end TableEffects

/-! ## The calls -/

/-- A call that registers a handler for the answer to its message. -/
inductive Request where
  /-- `Connection.send` of a list -/
  | send (method : Value) (items : List Value) (onInvocation : Option Nat)
      (invocationId : Option String) (uuid : String)
  /-- `Connection.stream` -/
  | stream (event : String) (eventParams : Value) (uuid : String)

namespace Request

/-- The call. -/
def call (cfg : Config) : Request → Hub Unit
  | send method items onInvocation invocationId uuid =>
      Connection.send cfg method (.list items) onInvocation invocationId uuid
  | stream event eventParams uuid => Connection.stream cfg event eventParams uuid

/-- The handler for the answer. -/
def handler (s : State) : Request → Option Handler
  | send _ _ onInvocation invocationId uuid =>
      onInvocation.map (.invocation (invocationId.getD uuid))
  | stream _ _ uuid => some (.stream s.streams.length uuid)

/-- The state when the id of the call is known. -/
def noted (s : State) (id : String) : State :=
  { s with history := { s.history with ids := s.history.ids ++ [id] } }

/-- `send` has its own reasons to raise: the connection is not running, or the
`auth_function` raises.  `stream` has none. -/
def Refused (cfg : Config) (env : Env State Exc Op Op.Result) (s : State) : Request → Prop
  | send _ _ _ invocationId uuid =>
      WebsocketTransport.isRunning s = false ∨ cfg.auth = true ∧
        ∃ e, (env [] (.auth .send) (noted s (invocationId.getD uuid))).1 = .error e
  | stream .. => False

/-- The number of operations before the handler is registered. -/
def checks (cfg : Config) : Request → Nat
  | send .. => if cfg.auth then 1 else 0
  | stream .. => 0

variable (effects : TableEffects env) {s : State} {request : Request} {e : Exc}

/-- Somebody unregisters the handler of the call while its message is with the transport. -/
def Withdrawn (cfg : Config) (request : Request) (s : State) : Prop :=
  ∀ handler, request.handler s = some handler →
    effects.Withdraws (((request.call cfg).performed env ⟨s, [], []⟩).drop (request.checks cfg))
      handler

/-- A `stream` registers its handler at once. -/
theorem unnoticed_stream_iff (event : String) (eventParams : Value) (uuid : String) :
    effects.Unnoticed ((Request.stream event eventParams uuid).call cfg)
        (⟨s, [], []⟩ : Trace State Exc Op Op.Result Activity) ↔
      Withdrawn effects cfg (.stream event eventParams uuid) s := by
  have hspares : SparesTable (WebsocketTransport.send cfg (.hub (.newStreamInvocation (.str uuid)
      (.dict s.headers) (.str event) eventParams))) := WebsocketTransport.spares_send _
  have hregister : effects.Unnoticed ((Request.stream event eventParams uuid).call cfg)
      (⟨s, [], []⟩ : Trace State Exc Op Op.Result Activity) ↔
        effects.Withdraws (((Request.stream event eventParams uuid).call cfg).performed env
          ⟨s, [], []⟩) (.stream s.streams.length uuid) :=
    effects.unnoticed_register_iff hspares
  constructor
  · intro hsame handler hhandler
    cases hhandler
    exact hregister.mp hsame
  · intro hdrop
    exact hregister.mpr (hdrop _ rfl)

/-- A `send` registers the handler, if there is one, behind its checks. -/
theorem unnoticed_sendList_iff {method : Value} {items : List Value} {onInvocation : Option Nat}
    {invocationId : String} {tr : Trace State Exc Op Op.Result Activity} :
    effects.Unnoticed (Connection.sendList cfg method items onInvocation invocationId) tr ↔
      ∀ callback, onInvocation = some callback → effects.Withdraws
        ((Connection.sendList cfg method items onInvocation invocationId).performed env tr)
          (.invocation invocationId callback) := by
  have hspares : SparesTable (WebsocketTransport.send cfg (.hub (.newInvocation
      (.str invocationId) (.dict tr.state.headers) method (.list items)))) :=
    WebsocketTransport.spares_send _
  cases onInvocation with
  | none =>
      have hsent : effects.Unnoticed (WebsocketTransport.send cfg (.hub (.newInvocation
          (.str invocationId) (.dict tr.state.headers) method (.list items)))) tr :=
        effects.unnoticed_of_spares hspares
      have hsame : effects.Unnoticed (Connection.sendList cfg method items none invocationId) tr :=
        hsent
      simp [hsame]
  | some callback =>
      have hregister : effects.Unnoticed
          (Connection.sendList cfg method items (some callback) invocationId) tr ↔
            effects.Withdraws ((Connection.sendList cfg method items (some callback)
              invocationId).performed env tr) (.invocation invocationId callback) :=
        effects.unnoticed_register_iff hspares
      simpa using hregister

variable (cfg env) in
/-- The `auth_function` is the only operation before. -/
theorem performed_refreshTokenMaybe (s : State) :
    ((Connection.refreshTokenMaybe cfg .send).performed env
      (⟨s, [], []⟩ : Trace State Exc Op Op.Result Activity)).length = if cfg.auth then 1 else 0 := by
  unfold Connection.refreshTokenMaybe
  cases cfg.auth with
  | false => rfl
  | true =>
      show ((authFunction .send >>= fun token => token.elim (pure ()) Connection.setToken).performed
        env (⟨s, [], []⟩ : Trace State Exc Op Op.Result Activity)).length = 1
      rcases hanswer : env [] (.auth .send) s with ⟨e | token, s'⟩
      · have hfails : (authFunction .send).amid env
            (⟨s, [], []⟩ : Trace State Exc Op Op.Result Activity) =
              (.error e, ⟨s', [⟨.auth .send, .error e⟩], []⟩) := by
          simp [authFunction, hanswer]
        rw [performed_bind_error hfails, authFunction, performed_perform]
        rfl
      · have hreturns : (authFunction .send).amid env
            (⟨s, [], []⟩ : Trace State Exc Op Op.Result Activity) =
              (.ok token, ⟨s', [⟨.auth .send, .ok token⟩], []⟩) := by
          simp [authFunction, hanswer]
        rw [performed_bind_ok hreturns, authFunction, performed_perform]
        cases token <;> rfl

variable (cfg env) in
/-- It decides whether the call goes on. -/
theorem amid_refreshTokenMaybe_error_iff (s : State) :
    (∃ e tr, (Connection.refreshTokenMaybe cfg .send).amid env
        (⟨s, [], []⟩ : Trace State Exc Op Op.Result Activity) = (.error e, tr)) ↔
      cfg.auth = true ∧ ∃ e, (env [] (.auth .send) s).1 = .error e := by
  unfold Connection.refreshTokenMaybe
  cases cfg.auth with
  | false => simp
  | true =>
      rcases hanswer : env [] (.auth .send) s with ⟨e | token, s'⟩
      · simp [authFunction, hanswer]
      · cases token <;> simp [authFunction, hanswer, Connection.setToken]

variable (cfg env) in
/-- What a `send` does when the connection is running. -/
theorem call_send_running (method : Value) (items : List Value) (onInvocation : Option Nat)
    (invocationId : Option String) (uuid : String)
    (hrunning : WebsocketTransport.isRunning s = true) :
    ((Request.send method items onInvocation invocationId uuid).call cfg).amid env
        (⟨s, [], []⟩ : Trace State Exc Op Op.Result Activity) =
      (Connection.refreshTokenMaybe cfg .send >>= fun _ => Connection.sendList cfg method items
        onInvocation (invocationId.getD uuid)).amid env
          ⟨noted s (invocationId.getD uuid), [], []⟩ ∧
    ((Request.send method items onInvocation invocationId uuid).call cfg).performed env
        (⟨s, [], []⟩ : Trace State Exc Op Op.Result Activity) =
      (Connection.refreshTokenMaybe cfg .send >>= fun _ => Connection.sendList cfg method items
        onInvocation (invocationId.getD uuid)).performed env
          ⟨noted s (invocationId.getD uuid), [], []⟩ := by
  constructor
  · show (when (!WebsocketTransport.isRunning s) (raise _) >>= fun _ =>
      Connection.refreshTokenMaybe cfg .send >>= fun _ => Connection.sendList cfg method items
        onInvocation (invocationId.getD uuid)).amid env _ = _
    rw [hrunning]
    rfl
  · show (when (!WebsocketTransport.isRunning s) (raise _) >>= fun _ =>
      Connection.refreshTokenMaybe cfg .send >>= fun _ => Connection.sendList cfg method items
        onInvocation (invocationId.getD uuid)).performed env _ = _
    rw [hrunning]
    rfl

theorem unnoticed_send_iff {method : Value} {items : List Value} {onInvocation : Option Nat}
    {invocationId : Option String} {uuid : String} :
    effects.Unnoticed ((Request.send method items onInvocation invocationId uuid).call cfg)
        (⟨s, [], []⟩ : Trace State Exc Op Op.Result Activity) ↔
      Refused cfg env s (.send method items onInvocation invocationId uuid) ∨
        Withdrawn effects cfg (.send method items onInvocation invocationId uuid) s := by
  cases hrunning : WebsocketTransport.isRunning s with
  | false =>
      have hraise : effects.Unnoticed (when (!WebsocketTransport.isRunning s) (raise
          (.hubConnectionError "Cannot connect to SignalR hub. Unable to transmit messages")) >>=
            fun _ => Connection.refreshTokenMaybe cfg .send >>= fun _ => Connection.sendList cfg
              method items onInvocation (invocationId.getD uuid))
          (⟨noted s (invocationId.getD uuid), [], []⟩ :
            Trace State Exc Op Op.Result Activity) := by
        rw [hrunning]
        rfl
      exact iff_of_true hraise (.inl (.inl hrunning))
  | true =>
      obtain ⟨hamid, hperformed⟩ := call_send_running cfg env method items onInvocation
        invocationId uuid hrunning
      -- what comes before the token request leaves the table alone
      have hsame : effects.Unnoticed
          ((Request.send method items onInvocation invocationId uuid).call cfg) ⟨s, [], []⟩ ↔
            effects.Unnoticed (Connection.refreshTokenMaybe cfg .send >>= fun _ =>
              Connection.sendList cfg method items onInvocation (invocationId.getD uuid))
                (⟨noted s (invocationId.getD uuid), [], []⟩ :
                  Trace State Exc Op Op.Result Activity) := by
        rw [TableEffects.Unnoticed, TableEffects.Unnoticed, hamid, hperformed]
        rfl
      have hrefresh : SparesTable (Connection.refreshTokenMaybe cfg .send) :=
        Connection.spares_refreshTokenMaybe _
      have hdecided := amid_refreshTokenMaybe_error_iff cfg env (noted s (invocationId.getD uuid))
      have hlength := performed_refreshTokenMaybe cfg env (noted s (invocationId.getD uuid))
      rw [hsame]
      rcases hrun : (Connection.refreshTokenMaybe cfg .send).amid env
          (⟨noted s (invocationId.getD uuid), [], []⟩ : Trace State Exc Op Op.Result Activity)
        with ⟨e | _, tr⟩
      · have hrefused : Refused cfg env s (.send method items onInvocation invocationId uuid) :=
          .inr (hdecided.mp ⟨e, tr, hrun⟩)
        exact iff_of_true (effects.unnoticed_bind_error hrefresh hrun) (.inl hrefused)
      · have hgoesOn : ¬Refused cfg env s (.send method items onInvocation invocationId uuid) := by
          rintro (hdown | hraises)
          · rw [hrunning] at hdown
            cases hdown
          · obtain ⟨e, tr', hraise⟩ := hdecided.mpr hraises
            rw [hrun] at hraise
            cases hraise
        rw [effects.unnoticed_bind_iff hrefresh hrun, or_iff_right hgoesOn, unnoticed_sendList_iff]
        unfold Withdrawn
        rw [hperformed, performed_bind_ok hrun, checks, ← hlength, List.drop_left]
        cases onInvocation with
        | none => simp [handler]
        | some callback => simp [handler]

/-- A call that registers a handler for the answer to its message leaves the table as other
greenlets make it exactly when it raises before the handler is registered, has no callback
to register, or somebody unregisters the handler before it ends; elsewhere the handler is
in the table, whether the message was sent or not. -/
theorem unnoticed_call_iff :
    effects.Unnoticed (request.call cfg) (⟨s, [], []⟩ : Trace State Exc Op Op.Result Activity) ↔
      request.Refused cfg env s ∨ request.Withdrawn effects cfg s := by
  cases request with
  | send method items onInvocation invocationId uuid => exact unnoticed_send_iff effects
  | stream event eventParams uuid =>
      rw [unnoticed_stream_iff]
      simp [Refused]

end Request

/-- A `stream` on a connection that was never started raises, and its handler stays. -/
theorem failed_stream_registered :
    ∃ w, (hub (.direct none)).Reach .any w ∧
      w.ended.map (·.result) = [.error (.valueError "no websocket.WebSocketApp running")] ∧
      w.shared.history.handed.length = 0 ∧ w.shared.streamHandlers = [.stream 0 "7"] := by
  have h := (hub (.direct none)).reach_after [.fork (.stream "Counter" .none "7"), .start 0]
    .start rfl
  exact ⟨_, h, rfl, rfl, rfl⟩

end GeventSignalR
