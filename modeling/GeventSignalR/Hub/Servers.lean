import GeventSignalR.Hub.Headers
import GeventSignalR.Hub.Requests
import GeventSignalR.Transport.NegotiateUrl

/-!
# Where a connection leads

Which servers a connection talks to.

* `Servers` are the ids and the targets of redirects that responses may have, and `Directing` the
  runs in which they have no others.
* `Directed` are the URLs that can come of it: the hub's, those of redirects, and each of them with
  one id.
* `servers_reach`: no websocket has another one, and all negotiate requests go to the hub.
-/

namespace GeventSignalR

open Coop Coop.Prog WebsocketTransport Urllib

/-- What the responses may have. -/
structure Servers where
  /-- the text of a `connectionId` -/
  id : String → Prop
  /-- the `url` of a redirect -/
  target : String → Prop

/-- What a response asks for is allowed. -/
def WebsocketTransport.Negotiation.Within (servers : Servers) (str : PyStr) : Negotiation → Prop
  | .connectionId id => servers.id (str.str id)
  | .redirect target _ => servers.target target
  | _ => True

instance (servers : Servers) [DecidablePred servers.id] [DecidablePred servers.target]
    (str : PyStr) (negotiation : Negotiation) : Decidable (negotiation.Within servers str) :=
  match negotiation with
  | .connectionId id => inferInstanceAs (Decidable (servers.id (str.str id)))
  | .redirect target _ => inferInstanceAs (Decidable (servers.target target))
  | .refused => isTrue trivial
  | .neither => isTrue trivial

/-- What the response to a negotiate request asks for. -/
def asking : (op : Op) → Except Exc op.Result → Negotiation
  | .post .., .ok response => negotiation response
  | _, _ => .neither

/-- No other ids and targets come. -/
def Directing (cfg : Config) (servers : Servers) : Cond State Exc Op Op.Result Activity where
  fork := fun _ _ _ => True
  start := fun _ _ _ => True
  resume := fun _ _ _ op r => (asking op r).Within servers cfg.str

instance (cfg : Config) (servers : Servers) [DecidablePred servers.id]
    [DecidablePred servers.target] : System.Decides (Directing cfg servers) where
  fork := fun _ _ _ => isTrue trivial
  start := fun _ _ _ => isTrue trivial
  resume := fun _ _ _ op r => inferInstanceAs (Decidable ((asking op r).Within servers cfg.str))

/-- A URL that a connection begins with, or begins with again behind a redirect. -/
inductive Begins (cfg : Config) (servers : Servers) : String → Prop where
  | hub : Begins cfg servers cfg.url
  | redirect {target : String} (htarget : servers.target target) :
      Begins cfg servers (replaceScheme python target true)

/-- The URLs that a connection can come to have. -/
inductive Directed (cfg : Config) (servers : Servers) : String → Prop where
  | plain {url : String} (hbegins : Begins cfg servers url) : Directed cfg servers url
  | identified {url id : String} (hbegins : Begins cfg servers url) (hid : servers.id id)
      (hne : id ≠ "") : Directed cfg servers (encodeConnectionId python url id)

/-- Both URLs name the same place on the same server, whether by HTTP or by a websocket. -/
structure SameServer (url url' : String) : Prop where
  scheme : mapScheme httpToWs (python.urlsplit url).scheme =
    mapScheme httpToWs (python.urlsplit url').scheme
  netloc : (python.urlsplit url).netloc = (python.urlsplit url').netloc
  path : (python.urlsplit url).path = (python.urlsplit url').path
  fragment : (python.urlsplit url).fragment = (python.urlsplit url').fragment

/-- The URL is that of the hub or of a redirect, up to the scheme and an id. -/
def LeadsToServer (cfg : Config) (servers : Servers) (url : String) : Prop :=
  ∃ target, (target = cfg.url ∨ servers.target target) ∧ SameServer url target

variable {cfg : Config} {servers : Servers}

/-! ## URLs -/

theorem SameServer.refl (url : String) : SameServer url url :=
  ⟨rfl, rfl, rfl, rfl⟩

theorem SameServer.trans {url url' url'' : String} (h : SameServer url url')
    (h' : SameServer url' url'') : SameServer url url'' :=
  ⟨h.scheme.trans h'.scheme, h.netloc.trans h'.netloc, h.path.trans h'.path,
    h.fragment.trans h'.fragment⟩

/-- A redirect is followed by a websocket. -/
theorem sameServer_replaceScheme (target : String) :
    SameServer (replaceScheme python target true) target := by
  have hsplit : python.urlsplit (replaceScheme python target true) =
      { python.urlsplit target with
        scheme := mapScheme httpToWs (python.urlsplit target).scheme } := by
    have hwell := wellFormed_mapScheme (wellFormed_urlsplit target)
    simp only [replaceScheme, if_true, urlsplit_urlunsplit hwell]
  constructor <;> rw [hsplit]
  exact mapScheme_httpToWs _

/-- An id stays on the server. -/
theorem sameServer_encodeConnectionId (url id : String) :
    SameServer (encodeConnectionId python url id) url := by
  constructor <;> rw [urlsplit_encodeConnectionId]
  exact mapScheme_httpToWs _

theorem Begins.leadsToServer {url : String} (h : Begins cfg servers url) :
    LeadsToServer cfg servers url := by
  cases h with
  | hub => exact ⟨cfg.url, .inl rfl, .refl _⟩
  | redirect htarget => exact ⟨_, .inr htarget, sameServer_replaceScheme _⟩

theorem Directed.leadsToServer {url : String} (h : Directed cfg servers url) :
    LeadsToServer cfg servers url := by
  cases h with
  | plain hbegins => exact hbegins.leadsToServer
  | identified hbegins _ _ =>
      obtain ⟨target, htarget, hsame⟩ := hbegins.leadsToServer
      exact ⟨target, htarget, (sameServer_encodeConnectionId _ _).trans hsame⟩

/-- A response adds an id, takes its place, or leads elsewhere. -/
theorem Directed.negotiated {url : String} (h : Directed cfg servers url) {response : Response}
    {str : PyStr} (hwithin : (negotiation response).Within servers str) :
    Directed cfg servers ((negotiation response).url python str url) := by
  cases hkind : negotiation response with
  | refused => exact h
  | neither => exact h
  | redirect target token =>
      rw [hkind] at hwithin
      exact .plain (.redirect hwithin)
  | connectionId id =>
      have hne : str.str id ≠ "" := negotiation_id_ne str hkind
      rw [hkind] at hwithin
      cases h with
      | plain hbegins => exact .identified hbegins hwithin hne
      | identified hbegins _ hother =>
          rw [Negotiation.url, encodeConnectionId_again _ (str.str id) hother]
          exact .identified hbegins hwithin hne

/-! ## Runs -/

variable {check : String → Option String}

theorem directed_sustained (hcfg : cfg.urllib = checking check) :
    Sustains cfg (Directing cfg servers) fun url _ => Directed cfg servers url where
  configured := .plain .hub
  token := fun _ h => h
  response := by
    intro s P t url headers response result url' headers' hresume hresult h
    rw [(negotiated_ok hresult).2, hcfg, url_checking]
    exact h.negotiated hresume

/-- In every run, a websocket has the URL of the hub or of a redirect, with the text of one id or
with none, so that it connects to their server and path; and a negotiate request goes to the hub's
server, to the hub's path with `/negotiate` behind it.  The checks of `urlsplit` may be any. -/
theorem servers_reach (hcfg : cfg.urllib = checking check)
    {w : World State Exc Op Op.Result Activity} (h : (hub cfg).Reach (Directing cfg servers) w) :
    (∀ app ∈ w.shared.apps, Directed cfg servers app.url ∧ LeadsToServer cfg servers app.url) ∧
      ∀ t url headers, .blocked t (.post url headers) ∈ w.labels →
        python.urlsplit url = { python.urlsplit cfg.url with
          scheme := mapScheme wsToHttp (python.urlsplit cfg.url).scheme
          path := negotiatePath (python.urlsplit cfg.url).path } := by
  have henter : KeepsEntering (Directing cfg servers)
      (RequestedInv cfg fun url _ => Directed cfg servers url) :=
    { inv := fun _ _ _ h => ⟨h.base.congr rfl, h.at_⟩
      start := fun _ _ _ _ h => h
      resume := fun _ _ _ _ _ _ h => h }
  have hI := requested_reach (directed_sustained hcfg) henter h
  constructor
  · intro app happ
    have hdirected : Directed cfg servers app.url := (hI.base.apps app happ).2
    exact ⟨hdirected, hdirected.leadsToServer⟩
  · intro t url headers hmem
    obtain ⟨hurl, -⟩ := hI.at_ _ hmem
    rw [hurl, hcfg, getNegotiateUrl_checking]
    exact urlsplit_getNegotiateUrl cfg.url

/-- An id, a redirect, and an id behind it, which is a number. -/
theorem servers_reach_redirect :
    ∃ w, (hub .tenant).Reach
        (Directing .tenant ⟨(· ∈ ["7", "8"]), (· = "https://service/client")⟩) w ∧
      w.shared.apps.map (·.url) =
        [encodeConnectionId Config.tenant.urllib "http://localhost/hub" "7",
          replaceScheme Config.tenant.urllib "https://service/client" true,
          encodeConnectionId Config.tenant.urllib
            (replaceScheme Config.tenant.urllib "https://service/client" true) "8"] ∧
      ∀ app ∈ w.shared.apps,
        LeadsToServer .tenant ⟨(· ∈ ["7", "8"]), (· = "https://service/client")⟩ app.url := by
  have h := (hub .tenant).reach_within
    (Directing .tenant ⟨(· ∈ ["7", "8"]), (· = "https://service/client")⟩)
    [.fork .start, .start 0, .answer 0 (.response (idResponse (.str "7"))), .fork .start, .start 2,
      .answer 2 (.response redirectResponse), .fork .start, .start 4,
      .answer 4 (.response (idResponse (.int 8)))] .start rfl
  exact ⟨_, h, rfl, fun app happ => ((servers_reach rfl h).1 app happ).2⟩

end GeventSignalR
