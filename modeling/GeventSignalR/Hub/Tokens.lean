import GeventSignalR.Hub.Headers
import GeventSignalR.Hub.Requests

/-!
# Where the tokens come from

What the requests of a run authorize themselves with.  A token gets into the headers in two ways:
`_refresh_token_maybe` writes what the `auth_function` returns into the dictionary of the
connection, which a websocket may have been given as well, and a redirect replaces the dictionary.

* `Tokens` are those that the two may hand out, and `Issuing` the runs in which they do.
* `Issued` are the headers that can come of it: there are three kinds of them.
* `headers_issued`: no other headers are ever sent.
-/

namespace GeventSignalR

open Coop Coop.Prog WebsocketTransport

/-- The tokens that may be handed out. -/
structure Tokens where
  /-- by the `auth_function` -/
  auth : String → Prop
  /-- by a redirect: the text of its `accessToken` -/
  redirect : String → Prop

/-- The token of a redirect. -/
def WebsocketTransport.Negotiation.token (str : PyStr) : Negotiation → Option String
  | .redirect _ token => some (str.str token)
  | _ => none

/-- The token that the `auth_function` returns. -/
def returnedToken : (op : Op) → Except Exc op.Result → Option String
  | .auth _, .ok token => token
  | _, _ => none

/-- The token of the response to a negotiate request. -/
def redirectToken (str : PyStr) : (op : Op) → Except Exc op.Result → Option String
  | .post .., .ok response => (negotiation response).token str
  | _, _ => none

/-- No other tokens are handed out. -/
def Issuing (cfg : Config) (tokens : Tokens) : Cond State Exc Op Op.Result Activity where
  fork := fun _ _ _ => True
  start := fun _ _ _ => True
  resume := fun _ _ _ op r => (∀ token ∈ returnedToken op r, tokens.auth token) ∧
    ∀ token ∈ redirectToken cfg.str op r, tokens.redirect token

instance (cfg : Config) (tokens : Tokens) [DecidablePred tokens.auth]
    [DecidablePred tokens.redirect] : System.Decides (Issuing cfg tokens) where
  fork := fun _ _ _ => isTrue trivial
  start := fun _ _ _ => isTrue trivial
  resume := fun _ _ _ _ _ => inferInstanceAs (Decidable (_ ∧ _))

/-- The headers that a connection can come to have. -/
inductive Issued (cfg : Config) (tokens : Tokens) : Dict → Prop where
  /-- those of the user -/
  | configured : Issued cfg tokens cfg.headers
  /-- those of the user and a token -/
  | refreshed {token : String} (htoken : tokens.auth token) :
      Issued cfg tokens (authorized cfg.headers token)
  /-- nothing but a token, behind a redirect -/
  | replaced {token : String} (htoken : tokens.auth token ∨ tokens.redirect token) :
      Issued cfg tokens (redirectHeaders token)

variable {cfg : Config} {tokens : Tokens}

/-! ## Headers -/

/-- The last token counts. -/
theorem authorized_authorized (headers : Dict) (token token' : String) :
    authorized (authorized headers token) token' = authorized headers token' :=
  Dict.set_set headers "Authorization" _ _

theorem authorized_redirectHeaders (token token' : String) :
    authorized (redirectHeaders token) token' = redirectHeaders token' := rfl

/-- What the `auth_function` returns is added. -/
theorem Issued.authorized {headers : Dict} (h : Issued cfg tokens headers) {token : String}
    (htoken : tokens.auth token) : Issued cfg tokens (authorized headers token) := by
  cases h with
  | configured => exact .refreshed htoken
  | refreshed _ =>
      rw [authorized_authorized]
      exact .refreshed htoken
  | replaced _ =>
      rw [authorized_redirectHeaders]
      exact .replaced (.inl htoken)

/-- What a response makes of the headers. -/
theorem Issued.negotiated {headers : Dict} (h : Issued cfg tokens headers) {str : PyStr}
    {negotiation : Negotiation} (htoken : ∀ token ∈ negotiation.token str, tokens.redirect token) :
    Issued cfg tokens ((negotiation.headers str).getD headers) := by
  cases negotiation with
  | redirect target token => exact .replaced (.inr (htoken _ rfl))
  | _ => exact h

/-! ## Runs -/

/-- The two ways in which a token gets into the headers keep to these kinds. -/
theorem issued_sustained :
    Sustains cfg (Issuing cfg tokens) fun _ headers => Issued cfg tokens headers where
  configured := .configured
  token := fun hresume h => h.authorized (hresume.1 _ rfl)
  response := by
    intro s P t url headers response result url' headers' hresume hresult h
    rw [(negotiated_ok hresult).2]
    exact h.negotiated hresume.2

/-- In every run, the headers of the connection, of every websocket and of every negotiate request
are those of the user, those with a token of the `auth_function`, or a token alone.  The headers of
a websocket are those that its dictionary has then, whenever that is. -/
theorem headers_issued {w : World State Exc Op Op.Result Activity}
    (h : (hub cfg).Reach (Issuing cfg tokens) w) :
    Issued cfg tokens w.shared.headers ∧
      (∀ app ∈ w.shared.apps, Issued cfg tokens (w.shared.headersOf app)) ∧
      ∀ t url headers, .blocked t (.post url headers) ∈ w.labels → Issued cfg tokens headers := by
  have henter : KeepsEntering (Issuing cfg tokens)
      (RequestedInv cfg fun _ headers => Issued cfg tokens headers) :=
    { inv := fun _ _ _ h => ⟨h.base.congr rfl, h.at_⟩
      start := fun _ _ _ _ h => h
      resume := fun _ _ _ _ _ _ h => h }
  have hI := requested_reach issued_sustained henter h
  refine ⟨hI.base.connection, fun app happ => (hI.base.apps app happ).2, ?_⟩
  intro t url headers hmem
  obtain ⟨-, -, hissued⟩ := hI.at_ _ hmem
  exact hissued

/-- The connection with an `auth_function`. -/
def Config.guarded : Config :=
  { Config.tenant with auth := true }

/-- The tokens "1" and "2" of the `auth_function`, and a redirect with the token "t" between them:
the websocket of the redirect has the dictionary that the last token is written into. -/
theorem headers_issued_redirect :
    ∃ w, (hub .guarded).Reach (Issuing .guarded ⟨(· ∈ ["1", "2"]), (· = "t")⟩) w ∧
      w.shared.apps.map w.shared.headersOf = [redirectHeaders "2"] ∧
      Issued .guarded ⟨(· ∈ ["1", "2"]), (· = "t")⟩ w.shared.headers := by
  have h := (hub .guarded).reach_within (Issuing .guarded ⟨(· ∈ ["1", "2"]), (· = "t")⟩)
    [.fork .start, .start 0, .answer 0 (.token (some "1")),
      .answer 0 (.response redirectResponse), .fork .start, .start 2,
      .answer 2 (.token (some "2"))] .start rfl
  exact ⟨_, h, rfl, (headers_issued h).1⟩

end GeventSignalR
