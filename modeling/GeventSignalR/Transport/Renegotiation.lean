import Mathlib.Data.List.Induction
import GeventSignalR.Transport.ConnectionId

/-!
# One negotiation after the other

What becomes of the URL of the transport when it is negotiated again and again.

* `encodeConnectionId_again`: a second id takes the place of the first one, because `parse_qs`
  reads back what `urlencode` has written.
* `Negotiation` is what a response asks for, and `urlAfter` the URL behind some responses.
* `Forgets` says when the last response leads where it leads as the only one: a redirect always
  does, but an id is added to the URL of the transport, and a response with neither keeps it.
-/

namespace GeventSignalR
namespace WebsocketTransport

open Python.UrlQuery Urllib

/-! ## The ids -/

theorem mapScheme_httpToWs (scheme : String) :
    mapScheme httpToWs (mapScheme httpToWs scheme) = mapScheme httpToWs scheme := by
  rcases mapScheme_cases scheme with ⟨-, hws⟩ | ⟨-, hwss⟩ | hsame
  · rw [hws]
    decide
  · rw [hwss]
    decide
  · rw [hsame, hsame]

/-- `d[key] = value`, where every entry of the key is replaced. -/
theorem any_setParameter (d : List (String × List String)) (key : String) (value : List String) :
    ((setParameter d key value).any fun entry => entry.1 == key) = true := by
  unfold setParameter
  split_ifs with hany
  · obtain ⟨entry, hmem, hkey⟩ := List.any_eq_true.mp hany
    rw [List.any_eq_true]
    exact ⟨(key, value), List.mem_map.mpr ⟨entry, hmem, by rw [if_pos hkey]⟩, by simp⟩
  · simp

/-- The last value of a key counts. -/
theorem setParameter_again (d : List (String × List String)) (key : String)
    (value value' : List String) :
    setParameter (setParameter d key value) key value' = setParameter d key value' := by
  have hmap : ∀ d : List (String × List String),
      (d.map fun entry => if entry.1 == key then (key, value) else entry).map
          (fun entry => if entry.1 == key then (key, value') else entry) =
        d.map fun entry => if entry.1 == key then (key, value') else entry := by
    intro d
    rw [List.map_map, List.map_inj_left]
    intro entry _
    by_cases h : entry.1 = key <;> simp [h]
  rw [setParameter, if_pos (any_setParameter d key value)]
  unfold setParameter
  split_ifs with hany
  · exact hmap d
  · have hnone : ∀ entry ∈ d, (entry.1 == key) = false := by
      intro entry hmem
      by_contra hkey
      exact hany (List.any_eq_true.mpr ⟨entry, hmem, by simpa using hkey⟩)
    have hsame : (d.map fun entry => if entry.1 == key then (key, value') else entry) = d := by
      conv_rhs => rw [← List.map_id d]
      rw [List.map_inj_left]
      intro entry hmem
      simp [hnone entry hmem]
    rw [List.map_append, hsame]
    simp

/-- The query with an id that is not blank is one that `parse_qs` can return. -/
theorem canonical_connectionQuery (query : String) {id : String} (hid : id ≠ "") :
    Canonical (connectionQuery query id) := by
  have hcanonical := canonical_parseQs query
  constructor
  · exact nodup_setParameter hcanonical.names "id" [id]
  · have hnew : ([id] : List String) ≠ [] ∧ "" ∉ [id] := by
      constructor
      · simp
      · simpa using hid.symm
    intro entry hmem
    unfold connectionQuery setParameter at hmem
    split_ifs at hmem
    · obtain ⟨old, hold, rfl⟩ := List.mem_map.mp hmem
      split_ifs
      · exact hnew
      · exact hcanonical.values old hold
    · rcases List.mem_append.mp hmem with hmem | hmem
      · exact hcanonical.values entry hmem
      · rw [List.mem_singleton.mp hmem]
        exact hnew

/-- A second id takes the place of the first one. -/
theorem encodeConnectionId_again (url : String) {id : String} (id' : String) (hid : id ≠ "") :
    encodeConnectionId python (encodeConnectionId python url id) id' =
      encodeConnectionId python url id' := by
  have hquery : ∀ query, connectionQuery (urlencode (connectionQuery query id)) id' =
      connectionQuery query id' := by
    intro query
    have hread := (canonical_connectionQuery query hid).parseQs_urlencode
    rw [connectionQuery, hread, connectionQuery, setParameter_again]
    rfl
  rw [(encodeConnectionId_python _ id').2, (encodeConnectionId_python url id').2,
    urlsplit_encodeConnectionId]
  simp only [hquery, mapScheme_httpToWs]

/-- The ids of any number of negotiations leave the last one: the URL is the hub's URL with that
id, and its query is that of the hub's URL, read and written once. -/
theorem encodeConnectionId_last (url : String) (ids : List String) (id : String)
    (hids : ∀ earlier ∈ ids, earlier ≠ "") :
    (ids ++ [id]).foldl (encodeConnectionId python) url = encodeConnectionId python url id ∧
      (python.urlsplit (encodeConnectionId python url id)).query =
        urlencode (setParameter (parseQs (python.urlsplit url).query) "id" [id]) ∧
      ∀ name, values name (parameters (encodeConnectionId python url id)) =
        if name = "id" then [id] else values name ((parameters url).filter (·.2 != "")) := by
  refine ⟨?_, ?_, fun name => values_encodeConnectionId url id name⟩
  · induction ids generalizing url with
    | nil => rfl
    | cons first ids ih =>
        have hfirst : first ≠ "" := hids first (List.mem_cons_self ..)
        rw [List.cons_append, List.foldl_cons,
          ih _ fun earlier hmem => hids earlier (List.mem_cons_of_mem _ hmem),
          encodeConnectionId_again url id hfirst]
  · rw [urlsplit_encodeConnectionId url id]
    rfl

/-- Two reconnects, with an id in the middle of the query already. -/
theorem encodeConnectionId_last_two :
    ["1", "2"].foldl (encodeConnectionId python) "http://localhost/hub?a=b&id=0&c=d" =
      encodeConnectionId python "http://localhost/hub?a=b&id=0&c=d" "2" :=
  (encodeConnectionId_last "http://localhost/hub?a=b&id=0&c=d" ["1"] "2" (by decide)).1

/-! ## The responses -/

/-- What a negotiate response asks for. -/
inductive Negotiation where
  /-- It is no response to go on with. -/
  | refused
  | connectionId (id : Value)
  | redirect (url : String) (accessToken : Value)
  | neither

/-- The branch that `negotiate` takes for the body of a response.  A `url` that is no string
raises. -/
def asked (data : Dict) : Negotiation :=
  if (data.get "connectionId").isTrue then
    .connectionId (data.get "connectionId")
  else if (data.get "url").isTrue && (data.get "accessToken").isTrue then
    match data.get "url" with
    | .str target => .redirect target (data.get "accessToken")
    | _ => .refused
  else
    .neither

/-- The same for a response. -/
def negotiation (response : Response) : Negotiation :=
  if response.statusCode = 200 then
    match response.json with
    | .error _ => .refused
    | .ok data => asked data
  else
    .refused

/-- The URL of the transport behind a response. -/
def Negotiation.url (urllib : Urllib) (str : PyStr) (url : String) : Negotiation → String
  | .refused => url
  | .connectionId id => encodeConnectionId urllib url (str.str id)
  | .redirect target _ => replaceScheme urllib target true
  | .neither => url

/-- The new headers of the connection behind a response. -/
def Negotiation.headers (str : PyStr) : Negotiation → Option Dict
  | .redirect _ token => some (redirectHeaders (str.str token))
  | _ => none

/-- The URLs that are split for a response are accepted. -/
def Negotiation.IsAccepted (urllib : Urllib) (str : PyStr) (url : String) : Negotiation → Prop
  | .refused => False
  | .connectionId id =>
      urllib.refusal url = none ∧ urllib.refusal (withConnectionId urllib url (str.str id)) = none
  | .redirect target _ => urllib.refusal target = none
  | .neither => True

variable {urllib : Urllib} {str : PyStr} {url : String} {response : Response}

/-- A response whose URLs are accepted is not refused. -/
theorem Negotiation.IsAccepted.ne_refused {kind : Negotiation}
    (h : kind.IsAccepted urllib str url) : kind ≠ .refused := by
  rintro rfl
  exact h

theorem tryConnectionId_ok {id target : String} (h : tryConnectionId urllib url id = .ok target) :
    (urllib.refusal url = none ∧ urllib.refusal (withConnectionId urllib url id) = none) ∧
      target = encodeConnectionId urllib url id := by
  unfold tryConnectionId at h
  cases hfirst : urllib.check url with
  | error e => simp [hfirst, bind, Except.bind] at h
  | ok _ =>
      cases hsecond : urllib.check (withConnectionId urllib url id) with
      | error e => simp [hfirst, hsecond, bind, Except.bind] at h
      | ok _ =>
          simp only [hfirst, hsecond, bind, Except.bind, pure, Except.pure, Except.ok.injEq] at h
          exact ⟨⟨Urllib.check_ok_iff.mp hfirst, Urllib.check_ok_iff.mp hsecond⟩, h.symm⟩

theorem tryRedirect_ok {value : Value} {target : String}
    (h : tryRedirect urllib value = .ok target) :
    ∃ redirect, value = .str redirect ∧ urllib.refusal redirect = none ∧
      target = replaceScheme urllib redirect true := by
  cases value with
  | str redirect =>
      unfold tryRedirect at h
      cases hcheck : urllib.check redirect with
      | error e => simp [hcheck, bind, Except.bind] at h
      | ok _ =>
          simp only [hcheck, bind, Except.bind, pure, Except.pure, Except.ok.injEq] at h
          exact ⟨redirect, rfl, Urllib.check_ok_iff.mp hcheck, h.symm⟩
  | _ => cases h

/-- A body that raises nothing has the effects of what it asks for. -/
theorem answered_ok {data : Dict} {result : String × Option Dict}
    (h : answered urllib str url data = .ok result) :
    (asked data).IsAccepted urllib str url ∧
      result = ((asked data).url urllib str url, (asked data).headers str) := by
  simp only [answered] at h
  unfold asked
  split_ifs at h ⊢ with hid hredirect
  · obtain ⟨target, htarget, rfl⟩ := map_eq_ok h
    obtain ⟨haccepted, rfl⟩ := tryConnectionId_ok htarget
    exact ⟨haccepted, rfl⟩
  · obtain ⟨target, htarget, rfl⟩ := map_eq_ok h
    obtain ⟨redirect, hvalue, haccepted, rfl⟩ := tryRedirect_ok htarget
    simp only [hvalue]
    exact ⟨haccepted, rfl⟩
  · cases h
    exact ⟨trivial, rfl⟩

/-- A body whose URLs are accepted raises nothing. -/
theorem answered_accepted {data : Dict} (h : (asked data).IsAccepted urllib str url) :
    ∃ result, answered urllib str url data = .ok result := by
  unfold asked at h
  simp only [answered]
  split_ifs at h ⊢ with hid hredirect
  · simp only [tryConnectionId, Urllib.check_ok_iff.mpr h.1, Urllib.check_ok_iff.mpr h.2]
    exact ⟨_, rfl⟩
  · cases hvalue : data.get "url" with
    | str target =>
        rw [hvalue] at h
        simp only [tryRedirect, Urllib.check_ok_iff.mpr h]
        exact ⟨_, rfl⟩
    | _ =>
        rw [hvalue] at h
        exact h.elim
  · exact ⟨_, rfl⟩

/-- A response that raises nothing is accepted and has these effects. -/
theorem negotiated_ok {result : String × Option Dict}
    (h : negotiated urllib str url response = .ok result) :
    (negotiation response).IsAccepted urllib str url ∧
      result = ((negotiation response).url urllib str url, (negotiation response).headers str) := by
  unfold negotiated at h
  split_ifs at h with hunauthorized hother
  have hstatus : response.statusCode = 200 := not_not.mp hother
  unfold negotiation
  rw [if_pos hstatus]
  cases hjson : response.json with
  | error e =>
      rw [hjson] at h
      cases h
  | ok data =>
      rw [hjson] at h
      exact answered_ok h

/-- A response whose URLs are accepted raises nothing. -/
theorem negotiated_accepted (h : (negotiation response).IsAccepted urllib str url) :
    negotiated urllib str url response =
      .ok ((negotiation response).url urllib str url, (negotiation response).headers str) := by
  have hresult : ∃ result, negotiated urllib str url response = .ok result := by
    unfold negotiation at h
    split_ifs at h with hstatus
    · have hauthorized : ¬(200 = 401) := by decide
      have hfine : ¬(200 ≠ 200) := fun h => h rfl
      rw [negotiated, hstatus, if_neg hauthorized, if_neg hfine]
      cases hjson : response.json with
      | error e =>
          rw [hjson] at h
          exact h.elim
      | ok data =>
          rw [hjson] at h
          exact answered_accepted h
    · exact h.elim
  obtain ⟨result, hresult⟩ := hresult
  rw [hresult, (negotiated_ok hresult).2]

/-- The URL of the transport behind some responses. -/
def urlAfter (urllib : Urllib) (str : PyStr) (url : String) (responses : List Response) :
    Except Exc String :=
  responses.foldlM (fun url response => (negotiated urllib str url response).map Prod.fst) url

variable {responses : List Response}

theorem urlAfter_concat (last : Response) :
    urlAfter urllib str url (responses ++ [last]) =
      (urlAfter urllib str url responses).bind fun before =>
        (negotiated urllib str before last).map Prod.fst := by
  rw [urlAfter, List.foldlM_append]
  cases h : urlAfter urllib str url responses with
  | error e =>
      unfold urlAfter at h
      rw [h]
      rfl
  | ok before =>
      unfold urlAfter at h
      rw [h]
      simp [bind, Except.bind, pure, Except.pure]
      cases (negotiated urllib str before last).map Prod.fst <;> rfl

/-- A response that raises nothing, behind others. -/
theorem urlAfter_ok {before : String} (hbefore : urlAfter urllib str url responses = .ok before)
    {last : Response} {result : String × Option Dict}
    (h : negotiated urllib str before last = .ok result) :
    urlAfter urllib str url (responses ++ [last]) = .ok result.1 := by
  rw [urlAfter_concat, hbefore, Except.bind, h]
  rfl

/-! ## What the last response forgets -/

/-- Both URLs lead to the same place with the id: they have the same host, path and fragment,
the same scheme once it is the one of a websocket, and the same parameters besides `id`. -/
structure SamePlace (before url id : String) : Prop where
  scheme : mapScheme httpToWs (python.urlsplit before).scheme =
    mapScheme httpToWs (python.urlsplit url).scheme
  netloc : (python.urlsplit before).netloc = (python.urlsplit url).netloc
  path : (python.urlsplit before).path = (python.urlsplit url).path
  fragment : (python.urlsplit before).fragment = (python.urlsplit url).fragment
  query : connectionQuery (python.urlsplit before).query id =
    connectionQuery (python.urlsplit url).query id

/-- What a response asks for leads from one URL where it leads from the other one. -/
def Forgets (str : PyStr) (before url : String) : Negotiation → Prop
  | .refused => True
  | .connectionId id => SamePlace before url (str.str id)
  | .redirect .. => True
  | .neither => before = url

/-- The id leads to the same URL exactly where both lead to the same place. -/
theorem encodeConnectionId_eq_iff {before url id : String} (hid : id ≠ "") :
    encodeConnectionId python before id = encodeConnectionId python url id ↔
      SamePlace before url id := by
  constructor
  · intro h
    have hsplit := congrArg python.urlsplit h
    rw [urlsplit_encodeConnectionId, urlsplit_encodeConnectionId] at hsplit
    simp only [SplitResult.mk.injEq] at hsplit
    obtain ⟨hscheme, hnetloc, hpath, hquery, hfragment⟩ := hsplit
    have hread := congrArg Python.UrlQuery.parseQs hquery
    rw [(canonical_connectionQuery _ hid).parseQs_urlencode,
      (canonical_connectionQuery _ hid).parseQs_urlencode] at hread
    exact ⟨hscheme, hnetloc, hpath, hfragment, hread⟩
  · intro h
    rw [(encodeConnectionId_python before id).2, (encodeConnectionId_python url id).2]
    simp only [h.scheme, h.netloc, h.path, h.fragment, h.query]

/-- A response to go on with: it is not refused, and neither is the URL of its redirect. -/
def IsUsable (urllib : Urllib) (response : Response) : Prop :=
  negotiation response ≠ .refused ∧
    ∀ target token, negotiation response = .redirect target token → urllib.refusal target = none

/-- What a response that is not refused asks for. -/
theorem negotiation_eq_asked {kind : Negotiation} (h : negotiation response = kind)
    (hne : kind ≠ .refused) : ∃ data, asked data = kind := by
  unfold negotiation at h
  split_ifs at h with hstatus
  · cases hjson : response.json with
    | error e =>
        rw [hjson] at h
        exact absurd h.symm hne
    | ok data =>
        rw [hjson] at h
        exact ⟨data, h⟩
  · exact absurd h.symm hne

/-- A connection id has a text. -/
theorem negotiation_id_ne (str : PyStr) {id : Value} (h : negotiation response = .connectionId id) :
    str.str id ≠ "" := by
  obtain ⟨data, hdata⟩ := negotiation_eq_asked h (by simp)
  unfold asked at hdata
  split_ifs at hdata with hid hredirect
  · rw [Negotiation.connectionId.injEq] at hdata
    rw [← hdata]
    exact str.str_isTrue _ hid
  · split at hdata <;> cases hdata

/-! ## Responses to go on with -/

theorem netloc_replaceScheme (target : String) :
    (python.urlsplit (replaceScheme python target true)).netloc =
      (python.urlsplit target).netloc := by
  have hsecond := wellFormed_mapScheme (wellFormed_urlsplit target)
  simp only [replaceScheme, if_true, urlsplit_urlunsplit hsecond]

theorem netloc_urlencode {parts : SplitResult} (h : (chars parts).WellFormed)
    (query : List (String × List String)) :
    (python.urlsplit (python.urlunsplit { parts with query := python.urlencode query })).netloc =
      parts.netloc := by
  have hquery : (chars { parts with query := python.urlencode query }).WellFormed :=
    wellFormed_urlencode h query
  rw [urlsplit_urlunsplit hquery]

theorem netloc_withConnectionId (url id : String) :
    (python.urlsplit (withConnectionId python url id)).netloc = (python.urlsplit url).netloc := by
  unfold withConnectionId
  exact netloc_urlencode (wellFormed_urlsplit url) _

section Checking

variable {check : String → Option String} {before : String}

/-- The checks have no influence on the URLs. -/
theorem withConnectionId_checking (url id : String) :
    withConnectionId (checking check) url id = withConnectionId python url id := by
  simp only [withConnectionId, checking_urlsplit, checking_urlunsplit, checking_parseQs,
    checking_urlencode]

theorem replaceScheme_checking (url : String) (ws : Bool) :
    replaceScheme (checking check) url ws = replaceScheme python url ws := by
  simp only [replaceScheme, checking_urlsplit, checking_urlunsplit]

theorem getNegotiateUrl_checking (url : String) :
    getNegotiateUrl (checking check) url = getNegotiateUrl python url := by
  simp only [getNegotiateUrl, checking_urlsplit, checking_urlunsplit]

theorem url_checking (kind : Negotiation) (url : String) :
    kind.url (checking check) str url = kind.url python str url := by
  cases kind <;>
    simp only [Negotiation.url, encodeConnectionId, withConnectionId_checking,
      replaceScheme_checking]

/-- Where the transport's URL is accepted, those that are split for a usable response are, and so
is the new one. -/
theorem accepted_usable (hbefore : (checking check).refusal before = none)
    (h : IsUsable (checking check) response) :
    (negotiation response).IsAccepted (checking check) str before ∧
      (checking check).refusal ((negotiation response).url python str before) = none := by
  cases hkind : negotiation response with
  | refused => exact absurd hkind h.1
  | connectionId id =>
      refine ⟨⟨hbefore, ?_⟩, ?_⟩
      · rw [withConnectionId_checking, checking_refusal, netloc_withConnectionId]
        exact hbefore
      · rw [Negotiation.url, checking_refusal, urlsplit_encodeConnectionId]
        exact hbefore
  | redirect target token =>
      refine ⟨h.2 target token hkind, ?_⟩
      rw [Negotiation.url, checking_refusal, netloc_replaceScheme]
      exact h.2 target token hkind
  | neither => exact ⟨trivial, hbefore⟩

/-- A usable response raises nothing. -/
theorem negotiated_usable (hbefore : (checking check).refusal before = none)
    (h : IsUsable (checking check) response) :
    negotiated (checking check) str before response =
      .ok ((negotiation response).url python str before, (negotiation response).headers str) := by
  rw [negotiated_accepted (accepted_usable hbefore h).1, url_checking]

/-- The responses before the last one leave some URL, which is accepted. -/
theorem urlAfter_usable (str : PyStr) (hurl : (checking check).refusal url = none)
    (h : ∀ response ∈ responses, IsUsable (checking check) response) :
    ∃ before, urlAfter (checking check) str url responses = .ok before ∧
      (checking check).refusal before = none := by
  induction responses using List.reverseRecOn with
  | nil => exact ⟨url, rfl, hurl⟩
  | append_singleton responses last ih =>
      obtain ⟨before, hbefore, haccepted⟩ := ih fun response hmem => h response (by simp [hmem])
      have hlast : IsUsable (checking check) last := h last (by simp)
      exact ⟨_, urlAfter_ok hbefore (negotiated_usable haccepted hlast),
        (accepted_usable haccepted hlast).2⟩

/-- The URL behind one more usable response. -/
theorem urlAfter_last (hurl : (checking check).refusal url = none)
    (h : ∀ response ∈ responses, IsUsable (checking check) response)
    (hbefore : urlAfter (checking check) str url responses = .ok before) {last : Response}
    (hlast : IsUsable (checking check) last) :
    urlAfter (checking check) str url (responses ++ [last]) =
      .ok ((negotiation last).url python str before) := by
  obtain ⟨before', hbefore', haccepted⟩ := urlAfter_usable str hurl h
  rw [hbefore, Except.ok.injEq] at hbefore'
  subst hbefore'
  exact urlAfter_ok hbefore (negotiated_usable haccepted hlast)

/-- The URL behind the only response. -/
theorem urlAfter_single (hurl : (checking check).refusal url = none) {last : Response}
    (hlast : IsUsable (checking check) last) :
    urlAfter (checking check) str url [last] = .ok ((negotiation last).url python str url) := by
  rw [← List.nil_append [last]]
  exact urlAfter_last hurl (by simp) rfl hlast

/-- Ids alone lead to no other place. -/
theorem samePlace_urlAfter (hurl : (checking check).refusal url = none)
    (h : ∀ response ∈ responses, IsUsable (checking check) response ∧
      ∀ target token, negotiation response ≠ .redirect target token)
    (hbefore : urlAfter (checking check) str url responses = .ok before) (id : String) :
    SamePlace before url id := by
  induction responses using List.reverseRecOn generalizing before with
  | nil =>
      cases hbefore
      exact ⟨rfl, rfl, rfl, rfl, rfl⟩
  | append_singleton responses last ih =>
      have hrest : ∀ response ∈ responses, IsUsable (checking check) response ∧
          ∀ target token, negotiation response ≠ .redirect target token :=
        fun response hmem => h response (by simp [hmem])
      have husable := fun response hmem => (hrest response hmem).1
      obtain ⟨earlier, hearlier, -⟩ := urlAfter_usable str hurl husable
      have hsame := ih hrest hearlier
      have hlast := h last (by simp)
      rw [urlAfter_last hurl husable hearlier hlast.1, Except.ok.injEq] at hbefore
      subst hbefore
      cases hkind : negotiation last with
      | refused => exact hsame
      | connectionId first =>
          -- a second connection id replaces the first in the query that the first has written
          have hread := (canonical_connectionQuery (python.urlsplit earlier).query
            (negotiation_id_ne str hkind)).parseQs_urlencode
          rw [Negotiation.url]
          have hsplit := urlsplit_encodeConnectionId earlier (str.str first)
          constructor
          · rw [hsplit, mapScheme_httpToWs]
            exact hsame.scheme
          · rw [hsplit]
            exact hsame.netloc
          · rw [hsplit]
            exact hsame.path
          · rw [hsplit]
            exact hsame.fragment
          · rw [hsplit, ← hsame.query, connectionQuery, hread, connectionQuery, setParameter_again]
            rfl
      | redirect target token => exact absurd hkind (hlast.2 target token)
      | neither => exact hsame

/-- A response with neither leaves the URL as it is. -/
theorem urlAfter_neither (h : ∀ response ∈ responses, negotiation response = .neither) :
    urlAfter urllib str url responses = .ok url := by
  induction responses using List.reverseRecOn with
  | nil => rfl
  | append_singleton responses last ih =>
      have hlast : negotiation last = .neither := h last (by simp)
      have haccepted : (negotiation last).IsAccepted urllib str url := by
        rw [hlast]
        trivial
      have hsame := negotiated_accepted haccepted
      rw [urlAfter_ok (ih fun response hmem => h response (by simp [hmem])) hsame, hlast]
      rfl

/-- The last response leads where it leads as the only one exactly when it forgets the URL that
the responses before it have left. -/
theorem urlAfter_eq_iff (hurl : (checking check).refusal url = none)
    (hearlier : ∀ response ∈ responses, IsUsable (checking check) response)
    (hbefore : urlAfter (checking check) str url responses = .ok before) {last : Response}
    (hlast : IsUsable (checking check) last) :
    urlAfter (checking check) str url (responses ++ [last]) =
        urlAfter (checking check) str url [last] ↔
      Forgets str before url (negotiation last) := by
  have halone : urlAfter (checking check) str url [last] =
      .ok ((negotiation last).url python str url) := urlAfter_single hurl hlast
  rw [urlAfter_last hurl hearlier hbefore hlast, halone, Except.ok.injEq]
  cases hkind : negotiation last with
  | refused => exact absurd hkind hlast.1
  | connectionId id => exact encodeConnectionId_eq_iff (negotiation_id_ne str hkind)
  | redirect target token => simp [Negotiation.url, Forgets]
  | neither => exact Iff.rfl

end Checking

/-- Behind any responses to go on with, the last one leads where it leads as the only one exactly
when it is a redirect, or has an id and the transport's URL is still that of the hub up to the
ids, or has neither and the transport's URL is the hub's.  This is so as long as no redirect, or
nothing but responses with neither, came before. -/
theorem negotiations_forget_iff (check : String → Option String) (str : PyStr) (url : String)
    (earlier : List Response) (last : Response) (hurl : (checking check).refusal url = none)
    (hearlier : ∀ response ∈ earlier, IsUsable (checking check) response)
    (hlast : IsUsable (checking check) last) :
    ∃ before, urlAfter (checking check) str url earlier = .ok before ∧
      (urlAfter (checking check) str url (earlier ++ [last]) =
          urlAfter (checking check) str url [last] ↔
        Forgets str before url (negotiation last)) ∧
      ((∀ response ∈ earlier, ∀ target token, negotiation response ≠ .redirect target token) →
        ∀ id, negotiation last = .connectionId id → Forgets str before url (negotiation last)) ∧
      ((∀ response ∈ earlier, negotiation response = .neither) →
        Forgets str before url (negotiation last)) := by
  obtain ⟨before, hbefore, -⟩ := urlAfter_usable str hurl hearlier
  refine ⟨before, hbefore, urlAfter_eq_iff hurl hearlier hbefore hlast, ?_, ?_⟩
  · intro hplain id hid
    rw [hid]
    exact samePlace_urlAfter hurl (fun response hmem => ⟨hearlier response hmem,
      hplain response hmem⟩) hbefore _
  · intro hneither
    rw [urlAfter_neither hneither, Except.ok.injEq] at hbefore
    subst hbefore
    cases negotiation last with
    | connectionId id => exact ⟨rfl, rfl, rfl, rfl, rfl⟩
    | _ => trivial

/-- A response with an id, which is a string or a number. -/
def idResponse (id : Value) : Response where
  statusCode := 200
  json := .ok [(.str "connectionId", id)]
  json_exception := .ok _

/-- A response with a redirect. -/
def redirectResponse : Response where
  statusCode := 200
  json := .ok [(.str "url", .str "https://service/client"), (.str "accessToken", .str "t")]
  json_exception := .ok _

theorem isUsable_idResponse {id : Value} (hid : id.isTrue = true) (urllib : Urllib) :
    IsUsable urllib (idResponse id) := by
  have hkind : negotiation (idResponse id) = .connectionId id := by
    change asked [(.str "connectionId", id)] = .connectionId id
    rw [asked, if_pos (by exact hid)]
    rfl
  constructor
  · rw [hkind]
    simp
  · intro target token h
    rw [hkind] at h
    cases h

/-- Two ids, one after the other. -/
theorem negotiations_forget_ids :
    ∃ before, urlAfter (checking checkBrackets) .plain "http://localhost/hub"
        [idResponse (.str "7")] = .ok before ∧
      (urlAfter (checking checkBrackets) .plain "http://localhost/hub"
          ([idResponse (.str "7")] ++ [idResponse (.int 8)]) =
          urlAfter (checking checkBrackets) .plain "http://localhost/hub" [idResponse (.int 8)] ↔
        Forgets .plain before "http://localhost/hub" (negotiation (idResponse (.int 8)))) := by
  have hfirst := isUsable_idResponse (by decide : (Value.str "7").isTrue = true)
    (checking checkBrackets)
  have hsecond := isUsable_idResponse (by decide : (Value.int 8).isTrue = true)
    (checking checkBrackets)
  obtain ⟨before, hbefore, hiff, -⟩ := negotiations_forget_iff checkBrackets .plain
    "http://localhost/hub" [idResponse (.str "7")] (idResponse (.int 8)) (by decide)
    (by simpa using hfirst) hsecond
  exact ⟨before, hbefore, hiff⟩

/-- Behind a redirect, an id is added to the URL of the redirect. -/
theorem redirect_remembered :
    urlAfter (checking checkBrackets) .plain "http://localhost/hub"
        [redirectResponse, idResponse (.str "7")] ≠
      urlAfter (checking checkBrackets) .plain "http://localhost/hub"
        [idResponse (.str "7")] := by
  have hredirect : negotiation redirectResponse = .redirect "https://service/client" (.str "t") :=
    rfl
  have husable : IsUsable (checking checkBrackets) redirectResponse := by
    constructor
    · rw [hredirect]
      simp
    · intro target token h
      rw [hredirect] at h
      cases h
      decide
  have hid := isUsable_idResponse (by decide : (Value.str "7").isTrue = true)
    (checking checkBrackets)
  have hbefore : urlAfter (checking checkBrackets) .plain "http://localhost/hub"
      [redirectResponse] = .ok (replaceScheme python "https://service/client" true) :=
    urlAfter_single (by decide) husable
  have hiff := urlAfter_eq_iff (by decide) (by simpa using husable) hbefore hid
  intro hsame
  have hplace := (hiff.mp hsame).netloc
  rw [netloc_replaceScheme] at hplace
  revert hplace
  decide

end WebsocketTransport
end GeventSignalR
