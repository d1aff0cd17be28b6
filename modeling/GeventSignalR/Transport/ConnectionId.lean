import GeventSignalR.Python.UrlQuery
import GeventSignalR.Python.UrlSplit
import GeventSignalR.Transport.Url

/-!
# The connection id in the URL

What `encode_connection_id` does to a URL.

* The parts besides the query stay as they are, and the scheme becomes the one of a
  websocket (`urlsplit_encodeConnectionId`).
* The query has the id once, and of every other name the values that are not blank
  (`values_encodeConnectionId`), because `parse_qs` is called without
  `keep_blank_values`.
-/

namespace GeventSignalR

open Python.UrlQuery

namespace Urllib

/-- `urllib.parse`, for URLs whose hosts `urlsplit` accepts. -/
def python : Urllib where
  refusal := fun _ => none
  urlsplit := fun url =>
    let parts := Python.Url.urlsplit url.toList
    ⟨String.ofList parts.scheme, String.ofList parts.netloc, String.ofList parts.path,
      String.ofList parts.query, String.ofList parts.fragment⟩
  urlunsplit := fun parts =>
    String.ofList (Python.Url.urlunsplit ⟨parts.scheme.toList, parts.netloc.toList,
      parts.path.toList, parts.query.toList, parts.fragment.toList⟩)
  parseQs := Python.UrlQuery.parseQs
  urlencode := Python.UrlQuery.urlencode

/-- `urllib.parse` with the checks that `urlsplit` makes of the host.  They are a parameter:
besides the brackets they concern addresses and characters that change when normalized. -/
def checking (check : String → Option String) : Urllib :=
  { python with refusal := fun url => check (python.urlsplit url).netloc }

@[simp] theorem checking_refusal (check : String → Option String) (url : String) :
    (checking check).refusal url = check (python.urlsplit url).netloc := rfl

@[simp] theorem checking_urlsplit (check : String → Option String) :
    (checking check).urlsplit = python.urlsplit := rfl

@[simp] theorem checking_urlunsplit (check : String → Option String) :
    (checking check).urlunsplit = python.urlunsplit := rfl

@[simp] theorem checking_parseQs (check : String → Option String) :
    (checking check).parseQs = python.parseQs := rfl

@[simp] theorem checking_urlencode (check : String → Option String) :
    (checking check).urlencode = python.urlencode := rfl

/-- The check of the brackets in `urlsplit`. -/
def checkBrackets (netloc : String) : Option String :=
  if netloc.toList.contains '[' = netloc.toList.contains ']' then none
  else some "Invalid IPv6 URL"

/-- The characters of the parts. -/
def chars (parts : SplitResult) : Python.Url.Parts :=
  ⟨parts.scheme.toList, parts.netloc.toList, parts.path.toList, parts.query.toList,
    parts.fragment.toList⟩

theorem chars_urlsplit (url : String) :
    chars (python.urlsplit url) = Python.Url.urlsplit url.toList := by
  simp [chars, python]

/-- A URL has well-formed parts. -/
theorem wellFormed_urlsplit (url : String) : (chars (python.urlsplit url)).WellFormed := by
  rw [chars_urlsplit]
  exact Python.Url.urlsplit_wellFormed _

/-- Well-formed parts are read back from their URL. -/
theorem urlsplit_urlunsplit {parts : SplitResult} (h : (chars parts).WellFormed) :
    python.urlsplit (python.urlunsplit parts) = parts := by
  have hread := Python.Url.urlsplit_urlunsplit h
  simp only [python, chars, String.toList_ofList] at hread ⊢
  rw [hread]
  simp only [String.ofList_toList]

end Urllib

namespace WebsocketTransport

open Urllib

theorem mapScheme_cases (scheme : String) :
    scheme = "http" ∧ mapScheme httpToWs scheme = "ws" ∨
      scheme = "https" ∧ mapScheme httpToWs scheme = "wss" ∨
        mapScheme httpToWs scheme = scheme := by
  by_cases hhttp : scheme = "http"
  · subst hhttp
    exact .inl ⟨rfl, rfl⟩
  by_cases hhttps : scheme = "https"
  · subst hhttps
    exact .inr (.inl ⟨rfl, rfl⟩)
  · have hne : (scheme == "http") = false := by simpa using hhttp
    have hne' : (scheme == "https") = false := by simpa using hhttps
    exact .inr (.inr (by simp [mapScheme, httpToWs, List.lookup_cons, hne, hne']))

theorem wellFormed_scheme {parts : SplitResult} (h : (chars parts).WellFormed) {scheme : String}
    (hscheme : Python.Url.IsScheme scheme.toList) :
    (chars { parts with scheme := scheme }).WellFormed where
  scheme := .inr hscheme
  netloc := h.netloc
  absolute := h.absolute
  relative := by
    intro hnil
    have hstarts := hscheme.starts
    rw [show scheme.toList = [] from hnil] at hstarts
    cases hstarts
  path := h.path
  query := h.query
  fragment := h.fragment

/-- The parts stay well-formed under the scheme of a websocket. -/
theorem wellFormed_mapScheme {parts : SplitResult} (h : (chars parts).WellFormed) :
    (chars { parts with scheme := mapScheme httpToWs parts.scheme }).WellFormed := by
  rcases mapScheme_cases parts.scheme with ⟨-, hws⟩ | ⟨-, hwss⟩ | hsame
  · rw [hws]
    exact wellFormed_scheme h ⟨by decide, by decide, by decide⟩
  · rw [hwss]
    exact wellFormed_scheme h ⟨by decide, by decide, by decide⟩
  · rw [hsame]
    exact h

/-- The parts stay well-formed under a query that `urlencode` has written. -/
theorem wellFormed_urlencode {parts : SplitResult} (h : (chars parts).WellFormed)
    (d : List (String × List String)) :
    (chars { parts with query := Python.UrlQuery.urlencode d }).WellFormed := by
  refine { h with query := fun c hc => ?_ }
  obtain ⟨hlow, hhash⟩ := mem_urlencode hc
  refine ⟨hhash, ?_⟩
  simp only [Python.Url.isUnsafe, Bool.or_eq_false_iff, beq_eq_false_iff_ne]
  refine ⟨⟨?_, ?_⟩, ?_⟩ <;> rintro rfl <;> exact absurd hlow (by decide)

/-- The query `encode_connection_id` writes. -/
def connectionQuery (query id : String) : List (String × List String) :=
  setParameter (Python.UrlQuery.parseQs query) "id" [id]

/-- Where the URL with the new query is read back, the scheme is replaced in its parts. -/
theorem encodeConnectionId_eq (urllib : Urllib) (url id : String) {parts : SplitResult}
    (hparts : urllib.urlsplit url = parts) {query : String}
    (hquery : urllib.urlencode (setParameter (urllib.parseQs parts.query) "id" [id]) = query)
    (hread : urllib.urlsplit (urllib.urlunsplit { parts with query := query }) =
      { parts with query := query }) :
    encodeConnectionId urllib url id =
      urllib.urlunsplit
        { parts with scheme := mapScheme httpToWs parts.scheme, query := query } := by
  subst hparts hquery
  simp only [encodeConnectionId, withConnectionId, replaceScheme, hread, if_true]

/-- The URL `encode_connection_id` returns, in parts that are read back. -/
theorem encodeConnectionId_python (url id : String) :
    let parts : SplitResult :=
      { python.urlsplit url with
        scheme := mapScheme httpToWs (python.urlsplit url).scheme
        query := Python.UrlQuery.urlencode (connectionQuery (python.urlsplit url).query id) }
    (chars parts).WellFormed ∧ encodeConnectionId python url id = python.urlunsplit parts := by
  have hwell := wellFormed_urlsplit url
  generalize hparts : python.urlsplit url = parts at hwell
  have hfirst := wellFormed_urlencode hwell (connectionQuery parts.query id)
  generalize hquery : Python.UrlQuery.urlencode (connectionQuery parts.query id) = query at hfirst
  constructor
  · exact wellFormed_mapScheme hfirst
  · exact encodeConnectionId_eq python url id hparts hquery (urlsplit_urlunsplit hfirst)

/-- The parts of the URL `encode_connection_id` returns. -/
theorem urlsplit_encodeConnectionId (url id : String) :
    python.urlsplit (encodeConnectionId python url id) =
      { python.urlsplit url with
        scheme := mapScheme httpToWs (python.urlsplit url).scheme
        query := Python.UrlQuery.urlencode (connectionQuery (python.urlsplit url).query id) } := by
  obtain ⟨hwell, hresult⟩ := encodeConnectionId_python url id
  rw [hresult]
  exact urlsplit_urlunsplit hwell

/-! ## The parameters of the query -/

/-- The decoded parameters of a URL, blank-valued and valueless ones included. -/
def parameters (url : String) : List (String × String) :=
  parseQsl true (python.urlsplit url).query

theorem get_cons (entry : String × List String) (d : List (String × List String)) (name : String) :
    get (entry :: d) name = if name = entry.1 then entry.2 else get d name := by
  obtain ⟨key, vs⟩ := entry
  unfold Python.UrlQuery.get
  rw [List.lookup_cons]
  by_cases h : name = key
  · simp [h]
  · have hne : (name == key) = false := by simpa using h
    simp [h, hne]

/-- `d[key] = value` where the key is present. -/
theorem get_replace (d : List (String × List String)) (key name : String) (value : List String) :
    get (d.map fun entry => if entry.1 == key then (key, value) else entry) name =
      if name = key ∧ (d.any fun entry => entry.1 == key) = true then value else get d name := by
  induction d with
  | nil => simp
  | cons entry d ih =>
      rw [List.map_cons, get_cons, get_cons, ih, List.any_cons]
      by_cases hkey : entry.1 = key
      · by_cases hname : name = key <;> simp [hkey, hname]
      · by_cases hname : name = key
        · subst hname
          have hne : ¬name = entry.1 := fun he => hkey he.symm
          have hbeq : (entry.1 == name) = false := by simpa using hkey
          simp only [hne, hbeq, if_false, Bool.false_or, Bool.false_eq_true]
        · simp [hkey, hname]

/-- `d[key] = value` where the key is absent. -/
theorem get_push {d : List (String × List String)} {key : String}
    (h : (d.any fun entry => entry.1 == key) = false) (name : String) (value : List String) :
    get (d ++ [(key, value)]) name = if name = key then value else get d name := by
  induction d with
  | nil => rw [List.nil_append, get_cons]
  | cons entry d ih =>
      rw [List.any_cons, Bool.or_eq_false_iff, beq_eq_false_iff_ne] at h
      rw [List.cons_append, get_cons, get_cons, ih h.2]
      by_cases hname : name = key
      · subst hname
        have hne : ¬name = entry.1 := fun he => h.1 he.symm
        simp [hne]
      · simp [hname]

/-- `d[key] = value` changes the values of that key. -/
theorem get_setParameter (d : List (String × List String)) (key name : String)
    (value : List String) :
    get (setParameter d key value) name = if name = key then value else get d name := by
  unfold setParameter
  by_cases hany : (d.any fun entry => entry.1 == key) = true
  · rw [if_pos hany, get_replace]
    simp only [hany, and_true]
  · rw [if_neg hany, get_push (Bool.not_eq_true _ ▸ hany)]

theorem nodup_setParameter {d : List (String × List String)} (hd : (d.map Prod.fst).Nodup)
    (key : String) (value : List String) : ((setParameter d key value).map Prod.fst).Nodup := by
  have hkeys : (d.map fun entry => if entry.1 == key then (key, value) else entry).map Prod.fst =
      d.map Prod.fst := by
    rw [List.map_map, List.map_inj_left]
    intro entry _
    by_cases h : entry.1 = key <;> simp [h]
  unfold setParameter
  split_ifs with hany
  · rw [hkeys]
    exact hd
  · rw [List.map_append, List.nodup_append]
    refine ⟨hd, by simp, ?_⟩
    intro a ha b hb hab
    simp only [List.map_cons, List.map_nil, List.mem_singleton] at hb
    obtain ⟨entry, hentry, rfl⟩ := List.mem_map.mp ha
    exact hany (List.any_eq_true.mpr ⟨entry, hentry, by simp [hab, hb]⟩)

/-- What the new URL's query has of each name: the id, and of the other names the values
that are not blank. -/
theorem values_encodeConnectionId (url id name : String) :
    values name (parameters (encodeConnectionId python url id)) =
      if name = "id" then [id] else values name ((parameters url).filter (·.2 != "")) := by
  have hnodup := nodup_setParameter
    (nodup_group (parseQsl false (python.urlsplit url).query)) "id" [id]
  rw [parameters, urlsplit_encodeConnectionId url id, parseQsl_urlencode, connectionQuery,
    Python.UrlQuery.parseQs, values_pairsOf hnodup, get_setParameter, get_group, parseQsl_false]
  rfl

/-- The values of a name are all kept exactly when none of them is blank. -/
theorem values_filter_eq_iff (name : String) (pairs : List (String × String)) :
    values name (pairs.filter (·.2 != "")) = values name pairs ↔
      ∀ pair ∈ pairs, pair.1 = name → pair.2 ≠ "" := by
  unfold values
  rw [List.filter_filter]
  constructor
  · intro h pair hpair hname hblank
    have hmem : "" ∈ (pairs.filter fun pair => pair.1 == name).map (·.2) :=
      List.mem_map.mpr ⟨pair, List.mem_filter.mpr ⟨hpair, by simpa using hname⟩, hblank⟩
    rw [← h] at hmem
    obtain ⟨other, hother, hempty⟩ := List.mem_map.mp hmem
    have := (List.mem_filter.mp hother).2
    simp [hempty] at this
  · intro h
    congr 1
    apply List.filter_congr
    intro pair hpair
    by_cases hname : pair.1 = name
    · simp [hname, h pair hpair hname]
    · simp [hname]

/-- The new URL is the old one with the id: the parts besides the query, the scheme of a
websocket, one `id`, and the other parameters as they were. -/
structure KeepsRest (url id result : String) : Prop where
  scheme : (python.urlsplit result).scheme = mapScheme httpToWs (python.urlsplit url).scheme
  netloc : (python.urlsplit result).netloc = (python.urlsplit url).netloc
  path : (python.urlsplit result).path = (python.urlsplit url).path
  fragment : (python.urlsplit result).fragment = (python.urlsplit url).fragment
  id : values "id" (parameters result) = [id]
  others : ∀ name, name ≠ "id" → values name (parameters result) = values name (parameters url)

/-- The id is added and the rest kept exactly when no other parameter of the URL is
blank. -/
theorem encodeConnectionId_keeps_iff (url id : String) :
    KeepsRest url id (encodeConnectionId python url id) ↔
      ∀ pair ∈ parameters url, pair.1 ≠ "id" → pair.2 ≠ "" := by
  have hsplit := urlsplit_encodeConnectionId url id
  constructor
  · intro hkeeps pair hpair hname
    have hvalues := hkeeps.others pair.1 hname
    rw [values_encodeConnectionId url id pair.1, if_neg hname, values_filter_eq_iff] at hvalues
    exact hvalues pair hpair rfl
  · intro hblank
    constructor
    · rw [hsplit]
    · rw [hsplit]
    · rw [hsplit]
    · rw [hsplit]
    · rw [values_encodeConnectionId url id "id", if_pos rfl]
    · intro name hname
      rw [values_encodeConnectionId url id name, if_neg hname, values_filter_eq_iff]
      intro pair hpair hpairName
      apply hblank pair hpair
      rwa [hpairName]

/-- A hub URL without a query. -/
theorem encodeConnectionId_keeps_plain :
    KeepsRest "http://localhost/hub" "7" (encodeConnectionId python "http://localhost/hub" "7") ↔
      ∀ pair ∈ parameters "http://localhost/hub", pair.1 ≠ "id" → pair.2 ≠ "" :=
  encodeConnectionId_keeps_iff _ _

/-- A blank parameter is lost. -/
theorem encodeConnectionId_blank :
    ¬ KeepsRest "http://localhost/hub?token=" "7"
      (encodeConnectionId python "http://localhost/hub?token=" "7") := by
  intro h
  have hquery : (python.urlsplit "http://localhost/hub?token=").query =
      Python.UrlQuery.urlencode [("token", [""])] := by
    decide +kernel
  have hparameters : parameters "http://localhost/hub?token=" = [("token", "")] := by
    rw [parameters, hquery, parseQsl_urlencode]
    rfl
  have hvalues := h.others "token" (by decide)
  rw [values_encodeConnectionId, hparameters] at hvalues
  revert hvalues
  decide

end WebsocketTransport
end GeventSignalR
