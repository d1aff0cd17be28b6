import GeventSignalR.Hub.Requests

/-!
# The headers of the user

Whether the headers of `with_url` are sent to the end.

* `Carries` says that some headers have all of them but `Authorization`.
* `Undirected` are the steps on which no negotiate response replaces the headers: a redirect
  does, because `negotiate` assigns a new dictionary instead of updating the old one.
* `headers_carried`: on these steps the connection, every websocket and every negotiate request
  keeps the headers.
-/

namespace GeventSignalR

open Coop Coop.Prog WebsocketTransport

/-- Every configured header but `Authorization` has its configured value. -/
def Carries (configured headers : Dict) : Prop :=
  ∀ key value, key ≠ "Authorization" → configured.get? key = some value →
    headers.get? key = some value

/-- Nothing but `Authorization` is configured. -/
def isBare (configured : Dict) : Bool :=
  configured.all fun entry => entry.1.eqStr "Authorization"

namespace WebsocketTransport

/-- The response is a redirect with an access token, to a URL that is accepted. -/
def Negotiation.isRedirect (urllib : Urllib) : Negotiation → Bool
  | .redirect target _ => (urllib.refusal target).isNone
  | _ => false

end WebsocketTransport

/-- A negotiate request is answered with a redirect. -/
def isRedirected (urllib : Urllib) : (op : Op) → Except Exc op.Result → Bool
  | .post .., .ok response => (negotiation response).isRedirect urllib
  | _, _ => false

/-- No response is a redirect, or there is nothing to lose. -/
def Undirected (cfg : Config) : Cond State Exc Op Op.Result Activity where
  fork := fun _ _ _ => True
  start := fun _ _ _ => True
  resume := fun _ _ _ op r => isRedirected cfg.urllib op r = false ∨ isBare cfg.headers = true

instance (cfg : Config) : System.Decides (Undirected cfg) where
  fork := fun _ _ _ => isTrue trivial
  start := fun _ _ _ => isTrue trivial
  resume := fun _ _ _ _ _ => inferInstanceAs (Decidable (_ ∨ _))

theorem carries_self (configured : Dict) : Carries configured configured :=
  fun _ _ _ h => h

theorem carries_of_isBare {configured : Dict} (h : isBare configured = true) (headers : Dict) :
    Carries configured headers := by
  intro key value hkey hvalue
  obtain ⟨entry, hentry, -⟩ := Option.map_eq_some_iff.mp hvalue
  have hbare := List.all_eq_true.mp h entry (List.mem_of_find?_eq_some hentry)
  have hfound : entry.1.eqStr key = true := by
    have hmatch := List.find?_some hentry
    exact hmatch
  exact absurd (Dict.eqStr_unique hfound hbare) hkey

/-- The token is another header. -/
theorem Carries.set {configured headers : Dict} (h : Carries configured headers) (token : Value) :
    Carries configured (headers.set "Authorization" token) := by
  intro key value hkey hvalue
  rw [Dict.get?_set_ne headers hkey.symm]
  exact h key value hkey hvalue

variable {cfg : Config}

/-- A response that is no redirect leaves the headers as they are. -/
theorem carries_sustained :
    Sustains cfg (Undirected cfg) fun _ headers => Carries cfg.headers headers where
  configured := carries_self _
  token := fun _ h => h.set _
  response := by
    intro s P t url headers response result url' headers' hresume hresult h
    rcases hresume with hplain | hbare
    · obtain ⟨haccepted, rfl⟩ := negotiated_ok hresult
      cases hkind : negotiation response with
      | redirect target token =>
          rw [hkind] at haccepted
          have hnone : cfg.urllib.refusal target = none := haccepted
          simp [isRedirected, hkind, Negotiation.isRedirect, hnone] at hplain
      | _ => exact h
    · exact carries_of_isBare hbare _

/-- In every run on which no response replaces the headers, the connection, every websocket and
every negotiate request has the headers of the user. -/
theorem headers_carried {w : World State Exc Op Op.Result Activity}
    (h : (hub cfg).Reach (Undirected cfg) w) :
    Carries cfg.headers w.shared.headers ∧
      (∀ app ∈ w.shared.apps, Carries cfg.headers (w.shared.headersOf app)) ∧
      ∀ t url headers, .blocked t (.post url headers) ∈ w.labels → Carries cfg.headers headers := by
  have henter : KeepsEntering (Undirected cfg)
      (RequestedInv cfg fun _ headers => Carries cfg.headers headers) :=
    { inv := fun _ _ _ h => ⟨h.base.congr rfl, h.at_⟩
      start := fun _ _ _ _ h => h
      resume := fun _ _ _ _ _ _ h => h }
  have hI := requested_reach carries_sustained henter h
  refine ⟨hI.base.connection, fun app happ => (hI.base.apps app happ).2, ?_⟩
  intro t url headers hmem
  obtain ⟨-, -, hcarries⟩ := hI.at_ _ hmem
  exact hcarries

/-- A connection that negotiates, with a header of the user. -/
def Config.tenant : Config :=
  { Config.direct none with
    url := "http://localhost/hub", urllib := Urllib.checking Urllib.checkBrackets
    accepted := fun _ => by decide
    skipNegotiation := false, headers := [(.str "X-Tenant", .str "a")] }

/-- Behind a redirect, the websocket and the next negotiate request go without it. -/
theorem header_lost :
    ∃ w, (hub .tenant).Reach .any w ∧ Dict.get? w.shared.headers "X-Tenant" = none ∧
      w.shared.apps.map (fun app => (w.shared.headersOf app).get? "X-Tenant") = [none] ∧
      .blocked .start (.post (getNegotiateUrl Config.tenant.urllib Config.tenant.url)
        [(.str "Authorization", .str "Bearer t")]) ∈ w.labels := by
  have h := (hub .tenant).reach_after [.fork .start, .start 0,
    .answer 0 (.response redirectResponse), .fork .start, .start 2] .start rfl
  refine ⟨_, h, rfl, rfl, ?_⟩
  -- it waits in the third greenlet
  apply Multiset.mem_add.mpr (.inr ?_)
  apply Multiset.mem_add.mpr (.inr ?_)
  exact Multiset.mem_add.mpr (.inl (Multiset.mem_singleton.mpr rfl))

/-- Behind an id, it is sent. -/
theorem headers_carried_id :
    ∃ w, (hub .tenant).Reach (Undirected .tenant) w ∧
      w.shared.apps.map (fun app => (w.shared.headersOf app).get? "X-Tenant") = [some (.str "a")] ∧
      Carries [(.str "X-Tenant", .str "a")] w.shared.headers := by
  have h := (hub .tenant).reach_within (Undirected .tenant) [.fork .start, .start 0,
    .answer 0 (.response (idResponse (.str "7")))] .start rfl
  exact ⟨_, h, rfl, (headers_carried h).1⟩

end GeventSignalR
