import GeventSignalR.Hub.Upgrade

/-!
# What requests are made with

The URL and the headers of upgrade requests, and the headers of negotiate requests.  They change in
two ways: `_refresh_token_maybe` adds what the `auth_function` returns to the headers, and a response
to a negotiate request changes the URL, the headers or neither.

* `Sustains` says of a property of a URL and headers that both ways keep it.
* `requested_reach`: such a property is one of all requests of a run.
-/

namespace GeventSignalR

open Coop Coop.Prog WebsocketTransport

/-- The headers with a token. -/
def authorized (headers : Dict) (token : String) : Dict :=
  headers.set "Authorization" (.str ("Bearer " ++ token))

/-- A property of a URL and headers that tokens and responses keep, where they are as `c` says. -/
structure Sustains (cfg : Config) (c : Cond State Exc Op Op.Result Activity)
    (Q : String → Dict → Prop) : Prop where
  configured : Q cfg.url cfg.headers
  token : ∀ {s P t site token url headers}, c.resume s P t (.auth site) (.ok (some token)) →
    Q url headers → Q url (authorized headers token)
  response : ∀ {s P t url headers response result url' headers'},
    c.resume s P t (.post url' headers') (.ok response) →
      negotiated cfg.urllib cfg.str url response = .ok result → Q url headers →
        Q result.1 (result.2.getD headers)

/-- The URL and the headers of the connection and of its websockets, which have one of its
dictionaries. -/
structure Requested (Q : String → Dict → Prop) (s : State) : Prop where
  connection : Q s.url s.headers
  apps : ∀ app ∈ s.apps, app.header ≤ s.oldHeaders.length ∧ Q app.url (s.headersOf app)

/-- The URL and the headers of a negotiate request. -/
def requesting (cfg : Config) (Q : String → Dict → Prop) : Label Op Activity → Prop
  | .blocked _ (.post url headers) =>
      url = getNegotiateUrl cfg.urllib cfg.url ∧ ∃ url, Q url headers
  | _ => True

/-- The invariant. -/
abbrev RequestedInv (cfg : Config) (Q : String → Dict → Prop) : HubInv :=
  Pointwise (Requested Q) fun _ => requesting cfg Q

variable {cfg : Config} {c : Cond State Exc Op Op.Result Activity} {Q : String → Dict → Prop}
  {t : Activity} {s s' : State} {P : Multiset (Label Op Activity)}

/-- What the proof assumes. -/
abbrev requestingRely (cfg : Config) (c : Cond State Exc Op Op.Result Activity)
    (Q : String → Dict → Prop) (t : Activity) : HubRely :=
  (hub cfg).rely c (RequestedInv cfg Q) t

theorem Requested.congr (h : Requested Q s) (hs : upgradeView s' = upgradeView s) :
    Requested Q s' := by
  simp only [upgradeView, Prod.mk.injEq] at hs
  obtain ⟨hurl, hheaders, hold, happs⟩ := hs
  constructor
  · rw [hurl, hheaders]
    exact h.connection
  · intro app happ
    have hmem : (app.url, app.header) ∈ s'.apps.map fun app => (app.url, app.header) :=
      List.mem_map.mpr ⟨app, happ, rfl⟩
    rw [happs] at hmem
    obtain ⟨old, holdApp, hsame⟩ := List.mem_map.mp hmem
    rw [Prod.mk.injEq] at hsame
    unfold State.headersOf
    rw [hheaders, hold, ← hsame.1, ← hsame.2]
    exact h.apps old holdApp

theorem requested_perform {op : Op} (hop : isPost op = false) :
    Keeps (requestingRely cfg c Q t) (RequestedInv cfg Q) (perform op) := by
  apply Pointwise.perform
  intro s _
  cases op with
  | post url headers => cases hop
  | _ => trivial

/-- The token that is added is one that the `auth_function` has returned. -/
theorem requested_refresh (hsustains : Sustains cfg c Q) (site : AuthSite) :
    Keeps (requestingRely cfg c Q t) (RequestedInv cfg Q)
      (Connection.refreshTokenMaybe cfg site) := by
  refine Keeps.when fun _ s P h hI => ?_
  unfold authFunction
  rw [wp_bind, wp_perform]
  refine ⟨hI.cons trivial, ?_⟩
  intro s P r hI hresume
  rcases r with e | _ | token
  · exact hI.tail
  · exact hI.tail
  · refine ⟨⟨hsustains.token hresume.1 hI.base.connection, fun app happ => ?_⟩, hI.tail.at_⟩
    obtain ⟨hheader, hQ⟩ := hI.base.apps app happ
    refine ⟨hheader, ?_⟩
    -- a websocket with the dictionary of the connection gets the token, too
    rcases headersOf_cases s app with hother | hsame
    · rw [hother]
      exact hQ
    · have hheaders : s.headersOf app = s.headers := hsame s.headers
      rw [hheaders] at hQ
      rw [hsame]
      exact hsustains.token hresume.1 hQ

/-- The URL and the headers behind a response are those that it asks for. -/
theorem requested_negotiate (hsustains : Sustains cfg c Q) :
    Keeps (requestingRely cfg c Q t) (RequestedInv cfg Q) (negotiate cfg) := by
  intro s P h hI
  unfold negotiate post
  simp only [wp_bind, wp_get]
  rw [wp_perform]
  refine ⟨hI.cons ⟨rfl, s.url, hI.base.connection⟩, ?_⟩
  intro s P r hI hresume
  rcases r with e | response
  · exact hI.tail
  · simp only [wp_ofExcept]
    cases hresult : negotiated cfg.urllib cfg.str s.url response with
    | error e => exact hI.tail
    | ok result =>
        have hkept := hsustains.response hresume.1 hresult hI.base.connection
        refine ⟨⟨hkept, fun app happ => ?_⟩, hI.tail.at_⟩
        obtain ⟨hheader, hQ⟩ := hI.base.apps app happ
        have hreplaced := headersOf_replaced result.1 result.2 hheader
        exact ⟨hreplaced.2, hreplaced.1.symm ▸ hQ⟩

/-- A websocket gets the URL and the dictionary of the connection. -/
theorem requested_createApp :
    Keeps (requestingRely cfg c Q t) (RequestedInv cfg Q) createApp := by
  intro s P h hI
  let created := newApp s.url s.oldHeaders.length (!s.history.current.isStart)
  have hheaders : s.headersOf created = s.headers := by
    simp [State.headersOf, created, newApp]
  have happs : ∀ app ∈ s.apps ++ [created],
      app.header ≤ s.oldHeaders.length ∧ Q app.url (s.headersOf app) := by
    intro app happ
    rcases List.mem_append.mp happ with happ | happ
    · exact hI.base.apps app happ
    · rw [List.mem_singleton.mp happ, hheaders]
      exact ⟨le_rfl, hI.base.connection⟩
  have hcreated : RequestedInv cfg Q { s with apps := s.apps ++ [created] } P :=
    ⟨⟨hI.base.connection, happs⟩, hI.at_⟩
  have hready := hcreated.cons (l := .ready (.runForever s.apps.length)) trivial
  exact ⟨⟨hcreated.base.connection, hcreated.base.apps⟩, hready.at_⟩

theorem requested_off (hsustains : Sustains cfg c Q) :
    OffRefresh (requestingRely cfg c Q t) (RequestedInv cfg Q) cfg where
  congr := fun h hs => ⟨h.base.congr hs, h.at_⟩
  perform := requested_perform
  fork := fun _ => Pointwise.fork fun _ _ => trivial
  refresh := requested_refresh hsustains
  start := by
    apply keeps_start (requested_negotiate hsustains)
    · rw [setState_connecting]
      exact Keeps.modify fun s _ h => ⟨h.base.congr rfl, h.at_⟩
    · exact requested_createApp

/-- What tokens and responses keep is true of all requests of a run. -/
theorem requested_reach (hsustains : Sustains cfg c Q)
    (henter : KeepsEntering c (RequestedInv cfg Q))
    {w : World State Exc Op Op.Result Activity} (h : (hub cfg).Reach c w) :
    RequestedInv cfg Q w.shared w.labels := by
  have hproof : Proof (hub cfg) c (RequestedInv cfg Q) fun _ _ _ _ => True := by
    apply Hub.proof henter
    · refine ⟨⟨hsustains.configured, ?_⟩, ?_⟩ <;> simp [State.new]
    · exact fun _ _ _ h _ _ => h.cons trivial
    · intro s P t h _
      exact ends_of_ready (fun _ _ h => h.tail) (wp_mono (fun _ _ _ _ h => h.cons trivial)
        ((requested_off hsustains).body t s P [] h.tail))
  exact (hproof.sound h).holds

end GeventSignalR
