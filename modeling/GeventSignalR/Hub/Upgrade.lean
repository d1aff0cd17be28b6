import GeventSignalR.Hub.Keeps
import GeventSignalR.Transport.Renegotiation

/-!
# Upgrade requests

What the websockets of a run are created with.

* `OffRefresh` is a property of the URL and the headers of the connection and its websockets,
  which everything keeps but `_refresh_token_maybe` and `start`, and `OffUpgrade` one that minds no
  token.
* `urls_reach`: every URL in a run is one that some sequence of responses leads to.
-/

namespace GeventSignalR

open Coop Coop.Prog WebsocketTransport

/-- What the state says about upgrade requests. -/
def upgradeView (s : State) : String × Dict × List Dict × List (String × Nat) :=
  (s.url, s.headers, s.oldHeaders, s.apps.map fun app => (app.url, app.header))

/-- A negotiate request. -/
def isPost : Op → Bool
  | .post .. => true
  | _ => false

/-- A response leaves the dictionaries of the websockets alone. -/
theorem headersOf_replaced {s : State} (url : String) (headers : Option Dict) {app : App}
    (h : app.header ≤ s.oldHeaders.length) :
    State.headersOf { s with
        url
        headers := headers.getD s.headers
        oldHeaders := replaced s headers } app = s.headersOf app ∧
      app.header ≤ (replaced s headers).length := by
  cases headers with
  | none => exact ⟨rfl, h⟩
  | some headers =>
      have hreplaced : replaced s (some headers) = s.oldHeaders ++ [s.headers] := rfl
      refine ⟨?_, by rw [hreplaced, List.length_append]; omega⟩
      unfold State.headersOf
      rw [hreplaced]
      rcases Nat.lt_or_eq_of_le h with hlt | heq
      · simp [List.getD, List.getElem?_append_left hlt, List.getElem?_eq_getElem hlt]
      · simp [heq]

/-- A token is written into the dictionary of the connection, which a websocket may have. -/
theorem headersOf_cases (s : State) (app : App) :
    (∀ headers, State.headersOf { s with headers } app = s.headersOf app) ∨
      ∀ headers, State.headersOf { s with headers } app = headers := by
  unfold State.headersOf
  cases hget : s.oldHeaders[app.header]? with
  | some old => exact .inl fun headers => by simp [List.getD, hget]
  | none => exact .inr fun headers => by simp [List.getD, hget]

/-- A property that everything keeps but `_refresh_token_maybe` and `start`, which are shown to keep
it. -/
structure OffRefresh (R : HubRely) (I : HubInv) (cfg : Config) : Prop where
  congr : ∀ {s s' P}, I s P → upgradeView s' = upgradeView s → I s' P
  perform : ∀ {op}, isPost op = false → Keeps R I (perform op : Hub op.Result)
  fork : ∀ t, Keeps R I (fork t : Hub Unit)
  refresh : ∀ site, Keeps R I (Connection.refreshTokenMaybe cfg site)
  start : Keeps R I (WebsocketTransport.start cfg)

/-- A property that everything keeps but tokens and `start`, which are shown to keep it. -/
structure OffUpgrade (R : HubRely) (I : HubInv) (cfg : Config) : Prop where
  congr : ∀ {s s' P}, I s P → upgradeView s' = upgradeView s → I s' P
  perform : ∀ {op}, isPost op = false → Keeps R I (perform op : Hub op.Result)
  fork : ∀ t, Keeps R I (fork t : Hub Unit)
  token : ∀ token, Keeps R I (Connection.setToken token)
  start : Keeps R I (WebsocketTransport.start cfg)

namespace OffRefresh

variable {R : HubRely} {I : HubInv} {cfg : Config}

theorem modify (hoff : OffRefresh R I cfg) {f : State → State}
    (hf : ∀ s, upgradeView (f s) = upgradeView s) : Keeps R I (Prog.modify f : Hub Unit) :=
  Keeps.modify fun s _ h => hoff.congr h (hf s)

theorem setApp (hoff : OffRefresh R I cfg) {app : Nat} {f : App → App}
    (hf : ∀ a, ((f a).url, (f a).header) = (a.url, a.header)) :
    Keeps R I (GeventSignalR.setApp app f) :=
  hoff.modify fun s => by
    simp only [upgradeView]
    rw [map_modify (g := fun a => (a.url, a.header)) hf]

theorem setState (hoff : OffRefresh R I cfg) (value : ConnectionState) :
    Keeps R I (setState value) :=
  Keeps.bind (hoff.modify fun _ => rfl) fun _ => Keeps.when fun _ => hoff.modify fun _ => rfl

theorem stop (hoff : OffRefresh R I cfg) (site : StopSite) : Keeps R I (stop site) :=
  keeps_stop (hoff.modify fun _ => rfl)
    (keeps_closeWs (fun _ => hoff.setApp fun _ => rfl) (fun _ => hoff.perform rfl)
      fun _ => hoff.setApp fun _ => rfl)
    (hoff.setState _) (hoff.modify fun _ => rfl)

theorem send (hoff : OffRefresh R I cfg) (message : Outgoing) :
    Keeps R I (WebsocketTransport.send cfg message) := by
  have hhandler : ∀ f, Keeps R I (setHandler f) := fun _ => hoff.modify fun _ => rfl
  have hkill : Keeps R I killGreenlet :=
    keeps_killGreenlet (fun _ => keeps_killApp (fun _ => hoff.modify fun _ => rfl)
      (hoff.setApp fun _ => rfl)) fun _ => hoff.perform rfl
  have hreconnect : Keeps R I (reconnect cfg) :=
    keeps_reconnect (keeps_stopLost (hoff.stop _) (hoff.setState _)) hkill
      (hoff.modify fun _ => rfl) (hoff.modify fun _ => rfl)
      (Connection.keeps_start (hoff.refresh _) hoff.start)
  have hrestart : Keeps R I (handleReconnect cfg) :=
    keeps_handleReconnect (keeps_reportReconnect (hoff.modify fun _ => rfl) (hoff.perform rfl))
      (keeps_setReconnecting hhandler) hreconnect fun _ => keeps_deferReconnect
        (keeps_nextSleepTime hhandler fun _ => hoff.modify fun _ => rfl) fun _ => hoff.fork _
  apply keeps_send
  · exact keeps_transmit (fun _ => keeps_write (hoff.modify fun _ => rfl) (hoff.perform rfl)
      fun _ => hoff.setApp fun _ => rfl) (hoff.modify fun _ => rfl) hhandler
  · exact fun _ => keeps_connectionLost (hoff.modify fun _ => rfl) (hoff.setState _)
      (hoff.perform rfl) hrestart

theorem onSocketError (hoff : OffRefresh R I cfg) (site : CloseSite) :
    Keeps R I (onSocketError site) :=
  keeps_onSocketError (keeps_reportEnd (hoff.modify fun _ => rfl) (hoff.setState _))
    (hoff.perform rfl)

theorem callback (hoff : OffRefresh R I cfg) {app : Nat} {isOver : Bool} {p : Hub Unit}
    (hp : Keeps R I p) : Keeps R I (WebSocketApp.callback app isOver p) :=
  WebSocketApp.keeps_callback hp (hoff.onSocketError _)

theorem receive (hoff : OffRefresh R I cfg) {app : Nat} {raw : Raw} :
    Keeps R I (receive cfg app raw) := by
  have hdone : Keeps R I handshakeDone :=
    keeps_handshakeDone (fun _ => hoff.modify fun _ => rfl)
      (Keeps.bind (hoff.modify fun _ => rfl) fun _ => hoff.fork _)
  have haccept : Keeps R I (acceptHandshake app) :=
    Keeps.bind (hoff.modify fun _ => rfl) fun _ => Keeps.bind (hoff.setState _) fun _ =>
      Keeps.bind .get fun _ => Keeps.bind (hoff.modify fun _ => rfl) fun _ => hdone
  have hreject : Keeps R I rejectHandshake :=
    keeps_rejectHandshake (hoff.modify fun _ => rfl) (hoff.onSocketError _) (hoff.stop _)
      (hoff.setState _)
  have hinterpret : ∀ received, Keeps R I (interpret cfg app raw received) := by
    intro received
    apply Keeps.ite
    · intro _
      apply Keeps.bind (keeps_evaluateHandshake fun _ => keeps_judge haccept hreject)
      intro messages
      exact Keeps.bind (keeps_reportOpen (hoff.setState _) (hoff.modify fun _ => rfl)
        (hoff.perform rfl)) fun _ => .pure _
    · exact fun _ => .ofExcept _
  exact Keeps.bind .get fun _ => Keeps.bind (hoff.modify fun _ => rfl) fun _ => hinterpret _

theorem runForever (hoff : OffRefresh R I cfg) {app : Nat} :
    Keeps R I (WebSocketApp.runForever cfg app) := by
  have hdispatch : Connection.KeepsDispatch R I :=
    { calls := ⟨fun _ => hoff.modify fun _ => rfl, fun _ _ => hoff.perform rfl⟩
      dispatched := fun _ => hoff.modify fun _ => rfl
      unregister := fun _ => hoff.modify fun _ => rfl
      event := fun _ _ => hoff.perform rfl
      error := fun _ => hoff.perform rfl }
  have hmessage : ∀ raw, Keeps R I (WebsocketTransport.onMessage cfg app raw) := fun _ =>
    keeps_onMessage hoff.receive fun _ =>
      Connection.keeps_onMessage (fun _ => Connection.keeps_dispatch hdispatch) (hoff.stop _)
  have hhandle : ∀ event, Keeps R I (WebSocketApp.handle cfg app event) := by
    intro event
    cases event with
    | opened =>
        exact Keeps.bind (hoff.setApp fun _ => rfl) fun _ =>
          Keeps.bind (hoff.callback (hoff.send _)) fun _ => .pure _
    | message raw => exact Keeps.bind (hoff.callback (hmessage raw)) fun _ => .pure _
    | failed e => exact Keeps.bind (hoff.setApp fun _ => rfl) fun _ => .raise _
    | closed => exact Keeps.bind (hoff.setApp fun _ => rfl) fun _ => .pure _
  have hdisconnect : ∀ e, Keeps R I (WebSocketApp.disconnect app e) := fun _ =>
    Keeps.ite (fun _ => Keeps.bind (hoff.callback (hoff.onSocketError _)) fun _ => .pure _)
      fun _ => .raise _
  have hround : Keeps R I (WebSocketApp.round cfg app) :=
    Keeps.tryCatch (Keeps.bind (hoff.perform rfl) hhandle) hdisconnect
  have hclosed : Keeps R I (onClosed app) :=
    keeps_onClosed (keeps_reportEnd (hoff.modify fun _ => rfl) (hoff.setState _)) (hoff.perform rfl)
  exact WebSocketApp.keeps_runForever (hoff.setApp fun _ => rfl) (hoff.setApp fun _ => rfl) hround
    (WebSocketApp.keeps_teardown (hoff.setApp fun _ => rfl) (hoff.callback hclosed)
      (hoff.setApp fun _ => rfl))

/-- Every thread keeps the property. -/
theorem body (hoff : OffRefresh R I cfg) (t : Activity) : Keeps R I (Hub.body cfg t) := by
  have hothers : KeepsOthers R I cfg :=
    { send := hoff.send
      sleep := fun _ => hoff.perform rfl
      acquire := fun _ => hoff.perform rfl
      modify := fun {f} hf => hoff.modify fun s =>
        show upgradeView (offOthers (f s)) = upgradeView (offOthers s) from
          congrArg upgradeView (hf s) }
  have hregister : ∀ handler, Keeps R I (Connection.register handler) := fun _ =>
    Connection.keeps_register (hoff.modify fun _ => rfl) (hoff.modify fun _ => rfl)
  cases t with
  | start =>
      exact keeps_once (Keeps.bind (hoff.modify fun _ => rfl) fun _ =>
        Connection.keeps_start (hoff.refresh _) hoff.start)
  | stop => exact keeps_once (Keeps.finally_ (hoff.stop _) (hoff.modify fun _ => rfl))
  | send method arguments onInvocation invocationId uuid =>
      exact keeps_once (Connection.keeps_send (hoff.modify fun _ => rfl) (hoff.refresh _)
        (fun _ _ => Connection.keeps_sendList hregister fun _ _ => hoff.send _)
        fun _ _ => Keeps.bind (hoff.modify fun _ => rfl) fun _ => hothers.subject.start)
  | stream event eventParams uuid =>
      exact keeps_once (Connection.keeps_stream (hoff.modify fun _ => rfl)
        (hoff.modify fun _ => rfl) hregister fun _ _ => hoff.send _)
  | subscribe object callbacks =>
      exact keeps_once (StreamHandler.keeps_subscribeObject fun _ => hoff.modify fun _ => rfl)
  | runForever app => exact hoff.runForever
  | _ => exact hothers.body rfl

end OffRefresh

namespace OffUpgrade

variable {R : HubRely} {I : HubInv} {cfg : Config}

/-- Whatever token the `auth_function` returns. -/
theorem toOffRefresh (hoff : OffUpgrade R I cfg) : OffRefresh R I cfg where
  congr := hoff.congr
  perform := hoff.perform
  fork := hoff.fork
  refresh := fun _ => Connection.keeps_refreshTokenMaybe (hoff.perform rfl) hoff.token
  start := hoff.start

theorem body (hoff : OffUpgrade R I cfg) (t : Activity) : Keeps R I (Hub.body cfg t) :=
  hoff.toOffRefresh.body t

end OffUpgrade

/-! ## The URLs of a run -/

/-- The URL is that of the hub behind some responses that were not refused. -/
def Negotiated (cfg : Config) (url : String) (responses : List Response) : Prop :=
  (∀ response ∈ responses, negotiation response ≠ .refused) ∧
    urlAfter cfg.urllib cfg.str cfg.url responses = .ok url

/-- The transport has such a URL, and so have the websockets, with a response of their own where
negotiation is not skipped. -/
structure Routed (cfg : Config) (s : State) : Prop where
  url : ∃ responses, Negotiated cfg s.url responses
  apps : ∀ app ∈ s.apps, ∃ responses, Negotiated cfg app.url responses ∧
    (cfg.skipNegotiation = false → responses ≠ [])

/-- The invariant. -/
abbrev RoutedInv (cfg : Config) : HubInv :=
  fun s _ => Routed cfg s

/-- What the proof assumes. -/
abbrev routed (cfg : Config) (t : Activity) : HubRely :=
  (hub cfg).rely .any (RoutedInv cfg) t

variable {cfg : Config} {t : Activity} {s s' : State} {P : Multiset (Label Op Activity)}

theorem Negotiated.concat {url : String} {responses : List Response}
    (h : Negotiated cfg url responses) {last : Response} {result : String × Option Dict}
    (hlast : WebsocketTransport.negotiated cfg.urllib cfg.str url last = .ok result) :
    Negotiated cfg result.1 (responses ++ [last]) := by
  constructor
  · intro response hmem
    rcases List.mem_append.mp hmem with hmem | hmem
    · exact h.1 response hmem
    · rw [List.mem_singleton.mp hmem]
      exact (negotiated_ok hlast).1.ne_refused
  · exact urlAfter_ok h.2 hlast

theorem Routed.congr (h : Routed cfg s) (hs : upgradeView s' = upgradeView s) : Routed cfg s' := by
  simp only [upgradeView, Prod.mk.injEq] at hs
  obtain ⟨hurl, -, -, happs⟩ := hs
  constructor
  · rw [hurl]
    exact h.url
  · intro app happ
    have hmem : (app.url, app.header) ∈ s'.apps.map fun app => (app.url, app.header) :=
      List.mem_map.mpr ⟨app, happ, rfl⟩
    rw [happs] at hmem
    obtain ⟨old, hold, hsame⟩ := List.mem_map.mp hmem
    have hurl' : old.url = app.url := congrArg Prod.fst hsame
    rw [← hurl']
    exact h.apps old hold

/-- A response is taken. -/
theorem Routed.negotiated (h : Routed cfg s) {response : Response} {result : String × Option Dict}
    (hresult : WebsocketTransport.negotiated cfg.urllib cfg.str s.url response = .ok result) :
    ∃ responses, Negotiated cfg result.1 responses ∧ responses ≠ [] := by
  obtain ⟨responses, hresponses⟩ := h.url
  exact ⟨responses ++ [response], hresponses.concat hresult, by simp⟩

/-- What `start` uses for its websocket. -/
abbrev Bound (cfg : Config) (s : State) : Prop :=
  Routed cfg s ∧ ∃ responses, Negotiated cfg s.url responses ∧
    (cfg.skipNegotiation = false → responses ≠ [])

theorem routed_perform (op : Op) : Keeps (routed cfg t) (RoutedInv cfg) (perform op) :=
  Keeps.perform (fun _ _ h => h) fun _ _ _ h _ => h

/-- Behind `negotiate` the URL is the one of its response. -/
theorem routed_negotiate {h : List (Logged State Exc Op Op.Result)} (hI : Routed cfg s) :
    (negotiate cfg).wp (routed cfg t) (fun r s _ _ =>
      Routed cfg s ∧ (r = .ok () → Bound cfg s)) s P h := by
  unfold negotiate post
  simp only [wp_bind, wp_get]
  rw [wp_perform]
  refine ⟨hI, ?_⟩
  intro s P r hI _
  rcases r with e | response
  · exact ⟨hI, fun h => by cases h⟩
  · simp only [wp_ofExcept]
    cases hresult : negotiated cfg.urllib cfg.str s.url response with
    | error e => exact ⟨hI, fun h => by cases h⟩
    | ok result =>
        obtain ⟨responses, hresponses, hne⟩ := hI.negotiated hresult
        have hrouted : Routed cfg { s with
            url := result.1
            headers := result.2.getD s.headers
            oldHeaders := replaced s result.2 } := ⟨⟨responses, hresponses⟩, hI.apps⟩
        exact ⟨hrouted, fun _ => ⟨hrouted, responses, hresponses, fun _ => hne⟩⟩

/-- The websocket is created with that URL. -/
theorem routed_createApp :
    Leads (routed cfg t) (fun s _ => Bound cfg s) (RoutedInv cfg) createApp := by
  intro s P h hB
  obtain ⟨hI, responses, hresponses, hne⟩ := hB
  refine ⟨⟨responses, hresponses⟩, ?_⟩
  intro app happ
  rcases List.mem_append.mp happ with happ | happ
  · exact hI.apps app happ
  · rw [List.mem_singleton.mp happ]
    exact ⟨responses, hresponses, hne⟩

theorem routed_start : Keeps (routed cfg t) (RoutedInv cfg) (WebsocketTransport.start cfg) := by
  have hstate : Keeps (routed cfg t) (fun s _ => Bound cfg s) (setState .connecting) := by
    rw [setState_connecting]
    exact Keeps.modify fun s _ h => ⟨h.1.congr rfl, h.2⟩
  have hfinish : Leads (routed cfg t) (fun s _ => Bound cfg s) (RoutedInv cfg)
      (get >>= fun s => when (s.state ≠ .connected) (setState .connecting >>= fun _ => createApp)) :=
    Leads.get_bind fun s P h hB => Leads.when (fun _ _ h => h.1) (fun _ =>
      Leads.bind (fun _ _ h => h.1) hstate fun _ => routed_createApp) s P h hB
  intro s P h hI
  unfold WebsocketTransport.start
  rw [wp_bind, wp_when]
  cases hskip : cfg.skipNegotiation with
  | true =>
      obtain ⟨responses, hresponses⟩ := hI.url
      exact hfinish s P h ⟨hI, responses, hresponses, fun h => by rw [hskip] at h; cases h⟩
  | false =>
      refine wp_mono ?_ (routed_negotiate hI)
      rintro (e | _) s P h ⟨hI, hB⟩
      · exact hI
      · exact hfinish s P h (hB rfl)

theorem routed_off : OffUpgrade (routed cfg t) (RoutedInv cfg) cfg where
  congr := Routed.congr
  perform := fun _ => routed_perform _
  fork := fun _ => Keeps.fork fun _ _ h => h
  token := fun _ => Keeps.modify fun _ _ h => ⟨h.url, h.apps⟩
  start := routed_start

/-- In every run, the URL of the transport, and that of every websocket, is the URL of the hub
behind some responses that were not refused. -/
theorem urls_reach {w : World State Exc Op Op.Result Activity} (h : (hub cfg).Reach .any w) :
    Routed cfg w.shared := by
  have henter : KeepsEntering .any (RoutedInv cfg) :=
    { inv := fun _ _ _ h => ⟨h.url, h.apps⟩
      start := fun _ _ _ _ h => h
      resume := fun _ _ _ _ _ _ h => h }
  have hproof : Proof (hub cfg) .any (RoutedInv cfg) fun _ _ _ _ => True := by
    apply Hub.proof henter
    · refine ⟨⟨[], ?_⟩, ?_⟩
      · exact ⟨by simp, rfl⟩
      · simp [State.new]
    · exact fun _ _ _ h _ _ => h
    · exact fun s P t h _ => ends_of_wp (fun _ _ h => h) (routed_off.body t s P [] h)
  exact (hproof.sound h).holds

end GeventSignalR
