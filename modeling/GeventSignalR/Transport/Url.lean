import GeventSignalR.Messages

/-!
# Negotiation

The class methods of `WebsocketTransport` that compute URLs, and what the response
to a negotiate request makes of the transport's URL and the headers.  Python's
`urllib.parse` is a parameter: what `urlsplit` returns, and which URLs it refuses with a
`ValueError` because of their host.
-/

namespace GeventSignalR

/-- `urllib.parse.SplitResult`. -/
structure SplitResult where
  scheme : String
  netloc : String
  path : String
  query : String
  fragment : String
  deriving DecidableEq, Repr

/-- The functions of `urllib.parse` the transport calls. -/
structure Urllib where
  /-- The text of the `ValueError` with which `urlsplit` refuses a URL. -/
  refusal : String → Option String
  /-- What `urlsplit` returns for the others. -/
  urlsplit : String → SplitResult
  urlunsplit : SplitResult → String
  parseQs : String → List (String × List String)
  /-- `urlencode(query, doseq=True)` -/
  urlencode : List (String × List String) → String

/-- The exception that `urlsplit` raises, if it does. -/
def Urllib.check (urllib : Urllib) (url : String) : Except Exc Unit :=
  match urllib.refusal url with
  | some text => .error (.valueError text)
  | none => .ok ()

theorem Urllib.check_ok_iff {urllib : Urllib} {url : String} :
    urllib.check url = .ok () ↔ urllib.refusal url = none := by
  unfold check
  cases urllib.refusal url <;> simp

/-- What `requests.post` returned: the status, and the decoded body, a dictionary, or the
exception that `json` or the first `get` raises, which is an `Exception`. -/
structure Response where
  statusCode : Nat
  json : Except Exc Dict
  json_exception : ExceptionsOnly json

namespace WebsocketTransport

/-- `http_to_ws`. -/
def httpToWs : List (String × String) :=
  [("http", "ws"), ("https", "wss")]

/-- `ws_to_http`. -/
def wsToHttp : List (String × String) :=
  [("ws", "http"), ("wss", "https")]

/-- `mapping[scheme]`, where a missing scheme leaves the scheme alone. -/
def mapScheme (mapping : List (String × String)) (scheme : String) : String :=
  (mapping.lookup scheme).getD scheme

/-- `_replace_scheme`. -/
def replaceScheme (urllib : Urllib) (url : String) (ws : Bool) : String :=
  let parts := urllib.urlsplit url
  let mapping := if ws then httpToWs else wsToHttp
  urllib.urlunsplit { parts with scheme := mapScheme mapping parts.scheme }

/-- `path.rstrip("/")`. -/
def rstripSlash (path : String) : String :=
  String.ofList (path.toList.reverse.dropWhile (· == '/')).reverse

/-- `_get_negotiate_url`. -/
def getNegotiateUrl (urllib : Urllib) (url : String) : String :=
  let parts := urllib.urlsplit url
  urllib.urlunsplit
    { parts with
      scheme := mapScheme wsToHttp parts.scheme
      path := rstripSlash parts.path ++ "/negotiate" }

/-- `d[key] = value` for a parsed query string. -/
def setParameter (query : List (String × List String)) (key : String) (value : List String) :
    List (String × List String) :=
  if query.any fun entry => entry.1 == key then
    query.map fun entry => if entry.1 == key then (key, value) else entry
  else
    query ++ [(key, value)]

/-- The URL with the id, before its scheme is replaced. -/
def withConnectionId (urllib : Urllib) (url id : String) : String :=
  let parts := urllib.urlsplit url
  let query := setParameter (urllib.parseQs parts.query) "id" [id]
  urllib.urlunsplit { parts with query := urllib.urlencode query }

/-- `encode_connection_id`, where no URL is refused. -/
def encodeConnectionId (urllib : Urllib) (url id : String) : String :=
  replaceScheme urllib (withConnectionId urllib url id) true

/-- `encode_connection_id`, which splits two URLs. -/
def tryConnectionId (urllib : Urllib) (url id : String) : Except Exc String := do
  urllib.check url
  urllib.check (withConnectionId urllib url id)
  return encodeConnectionId urllib url id

/-- `_replace_scheme` for a member of a response.  What is no string has no `decode`, and what
has no hash does not get that far. -/
def tryRedirect (urllib : Urllib) : Value → Except Exc String
  | .str target => do
      urllib.check target
      return replaceScheme urllib target true
  | .list _ | .dict _ => .error .typeError
  | _ => .error .attributeError

/-- The headers that a redirect leaves. -/
def redirectHeaders (token : String) : Dict :=
  [(.str "Authorization", .str ("Bearer " ++ token))]

/-- The part of `negotiate` behind `response.json()`: the new URL of the transport, and the new
headers of the connection if it gets any. -/
def answered (urllib : Urllib) (str : PyStr) (url : String) (data : Dict) :
    Except Exc (String × Option Dict) :=
  let connectionId := data.get "connectionId"
  let redirect := data.get "url"
  let accessToken := data.get "accessToken"
  if connectionId.isTrue then
    (tryConnectionId urllib url (str.str connectionId)).map fun target => (target, none)
  else if redirect.isTrue && accessToken.isTrue then
    (tryRedirect urllib redirect).map fun target =>
      (target, some (redirectHeaders (str.str accessToken)))
  else
    .ok (url, none)

/-- The part of `negotiate` behind the request. -/
def negotiated (urllib : Urllib) (str : PyStr) (url : String) (response : Response) :
    Except Exc (String × Option Dict) :=
  if response.statusCode = 401 then
    .error (.unauthorizedHubError 401)
  else if response.statusCode ≠ 200 then
    .error (.hubError response.statusCode)
  else
    response.json >>= answered urllib str url

end WebsocketTransport

end GeventSignalR
