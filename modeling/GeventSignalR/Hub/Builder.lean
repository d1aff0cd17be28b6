import GeventSignalR.Hub.State
import GeventSignalR.Protocol.Json
import GeventSignalR.Protocol.JsonRoundTrip
import GeventSignalR.Python.Attributes

/-!
# The builder of a connection

`ConnectionBuilder`, whose methods check some arguments and assign attributes on the way, so that a
call that raises can leave some of them assigned.

* `ConnectionBuilder.withUrl`, `withAutomaticReconnect` and `configureLogging` are the methods with
  their checks, in the order of the source.
* `configured` are the arguments of the connection that a sequence of calls asks for, attribute by
  attribute, and `allChanges` what it does to loggers.
* `build_called`: whatever was called, and whatever raised, `build` makes what the calls ask for.
* `build_reordered`: calls that have no attribute in common can change places.
-/

namespace GeventSignalR

/-! ## Arguments -/

/-- The value of `access_token_factory`. -/
inductive TokenFactory where
  /-- A function of the user. -/
  | function (auth : Nat)
  /-- Something that cannot be called, such as `None`. -/
  | notCallable
  deriving DecidableEq, Repr

/-- The value of `headers`. -/
inductive HeadersOption where
  | dict (headers : List (String × Value))
  /-- Something that `dict.update` refuses at once, such as `None`. -/
  | other

/-- The keys of the options that `with_url` reads, where they are present. -/
structure ConnectionOptions where
  accessTokenFactory : Option TokenFactory
  skipNegotiation : Option Value
  verifySsl : Option Value
  headers : Option HeadersOption

/-- The argument `options`. -/
inductive OptionsArgument where
  | absent
  | dict (options : ConnectionOptions)
  /-- Something that is no dictionary. -/
  | other

/-- `ReconnectionParam`, key by key. -/
structure ReconnectionParam where
  type : Option String
  keepAliveInterval : Option Int
  reconnectInterval : Option Int
  maxAttempts : Option Int
  intervals : Option (List Int)

/-- The argument `logging_level`. -/
inductive LoggingLevel where
  /-- A level, by its number or its name. -/
  | known (level : Int)
  /-- A name that no level has, and the text of the `ValueError` of `setLevel`. -/
  | unknown (text : String)
  /-- Neither a number nor a string. -/
  | other
  deriving DecidableEq, Repr

/-- What `setLevel` makes of its argument. -/
def LoggingLevel.check : LoggingLevel → Except Exc Int
  | known level => .ok level
  | unknown text => .error (.valueError text)
  | other => .error .typeError

/-- What is done to a logger, which is known by a number. -/
inductive LoggerChange where
  /-- A `StreamHandler` is added. -/
  | handlerAdded (logger : Nat)
  | levelSet (logger : Nat) (level : Int)
  deriving DecidableEq, Repr

/-- A character that `strip` takes away. -/
def isBlank (c : Char) : Bool :=
  let n := c.toNat
  (0x09 ≤ n && n ≤ 0x0D) || (0x1C ≤ n && n ≤ 0x20) || n == 0x85 || n == 0xA0 || n == 0x1680 ||
    (0x2000 ≤ n && n ≤ 0x200A) || n == 0x2028 || n == 0x2029 || n == 0x202F || n == 0x205F ||
    n == 0x3000

/-- `hub_url.strip() == ""` -/
def isBlankUrl (hubUrl : String) : Bool :=
  hubUrl.toList.all isBlank

/-- `d.update(headers)` -/
def Dict.update (d : Dict) (headers : List (String × Value)) : Dict :=
  headers.foldl (fun d header => d.set header.1 header.2) d

/-! ## The builder -/

/-- The attributes that `build` passes on. -/
structure ConnectionBuilder where
  /-- It does not exist before `with_url`. -/
  hubUrl : Option String
  headers : Dict
  protocol : Option HubProtocol
  reconnectionHandler : Option ReconnectionPolicy
  keepAliveInterval : Int
  verifySsl : Value
  enableTrace : Bool
  skipNegotiation : Value
  authFunction : Option Nat
  logger : Nat
  /-- No attribute: what the calls have done to loggers. -/
  changes : List LoggerChange

/-- The arguments of `Connection`. -/
structure ConnectionArguments where
  headers : Dict
  authFunction : Option Nat
  url : String
  protocol : HubProtocol
  keepAliveInterval : Int
  reconnectionHandler : Option ReconnectionPolicy
  verifySsl : Value
  skipNegotiation : Value
  enableTrace : Bool
  logger : Nat

/-- What a connection with these arguments reads of them, logging and `requests` apart. -/
def ConnectionArguments.config (arguments : ConnectionArguments) (urllib : Urllib) (str : PyStr)
    (accepted : arguments.skipNegotiation.isTrue = false → urllib.refusal arguments.url = none) :
    Config where
  url := arguments.url
  protocol := arguments.protocol
  urllib := urllib
  str := str
  headers := arguments.headers
  auth := arguments.authFunction.isSome
  skipNegotiation := arguments.skipNegotiation.isTrue
  keepAliveInterval := arguments.keepAliveInterval
  reconnection := arguments.reconnectionHandler
  accepted := accepted

namespace OptionsArgument

/-- `options or {}`, where it is a dictionary or absent. -/
def orEmpty : OptionsArgument → Option ConnectionOptions
  | absent => some ⟨none, none, none, none⟩
  | dict options => some options
  | other => none

end OptionsArgument

namespace ConnectionOptions

/-- `callable(options.get("access_token_factory", hub_url.strip))` -/
def isCallable (options : ConnectionOptions) : Bool :=
  options.accessTokenFactory != some .notCallable

/-- `options.get("access_token_factory", None)`, where it can be called. -/
def authFunction (options : ConnectionOptions) : Option Nat :=
  match options.accessTokenFactory with
  | some (.function auth) => some auth
  | _ => none

/-- `options.get("headers", {})`, where it is a dictionary. -/
def headersOrEmpty (options : ConnectionOptions) : List (String × Value) :=
  match options.headers with
  | some (.dict headers) => headers
  | _ => []

end ConnectionOptions

/-- `ReconnectionType[type]`, and the handler that is made of it. -/
def ReconnectionParam.handler (param : ReconnectionParam) : Except Exc ReconnectionPolicy :=
  let type := param.type.getD "raw"
  if type = "raw" then
    .ok (.raw (param.reconnectInterval.getD 5) param.maxAttempts)
  else if type = "interval" then
    .ok (.interval (param.intervals.getD []))
  else
    .error (.keyError type)

namespace ConnectionBuilder

/-- `ConnectionBuilder()` -/
def new : ConnectionBuilder where
  hubUrl := none
  headers := []
  protocol := none
  reconnectionHandler := none
  keepAliveInterval := 15
  verifySsl := .bool true
  enableTrace := false
  skipNegotiation := .bool false
  authFunction := none
  logger := 0
  changes := []

/-- The assignments of `with_url` behind its checks.  The headers come last, and are added to those
that are there. -/
def assignUrl (builder : ConnectionBuilder) (hubUrl : String) (options : ConnectionOptions) :
    ConnectionBuilder × Except Exc Unit :=
  let builder := { builder with
    authFunction := options.authFunction
    skipNegotiation := options.skipNegotiation.getD (.bool false)
    verifySsl := options.verifySsl.getD (.bool true)
    hubUrl := some hubUrl }
  match options.headers with
  | none => (builder, .ok ())
  | some (.dict headers) => ({ builder with headers := builder.headers.update headers }, .ok ())
  | some .other => (builder, .error .typeError)

/-- `with_url` -/
def withUrl (builder : ConnectionBuilder) (hubUrl : String) (options : OptionsArgument) :
    ConnectionBuilder × Except Exc Unit :=
  if isBlankUrl hubUrl then
    (builder, .error (.valueError "hub_url must be a valid url."))
  else
    match options.orEmpty with
    | none => (builder, .error .typeError)
    | some options =>
        if !options.isCallable then (builder, .error .typeError)
        else builder.assignUrl hubUrl options

/-- `with_logger` -/
def withLogger (builder : ConnectionBuilder) (logger : Nat) : ConnectionBuilder :=
  { builder with logger }

/-- The changes of a `configure_logging` without a handler: one is added, and the level is set if
it is one. -/
def changesOf (logger : Nat) (level : LoggingLevel) : List LoggerChange :=
  .handlerAdded logger :: level.check.toOption.toList.map (.levelSet logger)

/-- `configure_logging`.  With a handler it calls `basicConfig`, which does nothing because the
root logger has had a handler since the builder was created. -/
def configureLogging (builder : ConnectionBuilder) (level : LoggingLevel) (socketTrace : Bool)
    (withHandler : Bool) : ConnectionBuilder × Except Exc Unit :=
  if withHandler then
    ({ builder with enableTrace := socketTrace }, .ok ())
  else
    let builder := { builder with
      changes := builder.changes ++ changesOf builder.logger level }
    match level.check with
    | .error e => (builder, .error e)
    | .ok _ => ({ builder with enableTrace := socketTrace }, .ok ())

/-- `with_hub_protocol` -/
def withHubProtocol (builder : ConnectionBuilder) (protocol : HubProtocol) : ConnectionBuilder :=
  { builder with protocol := some protocol }

/-- `with_automatic_reconnect`.  The interval is assigned before the type is looked up. -/
def withAutomaticReconnect (builder : ConnectionBuilder) (param : ReconnectionParam) :
    ConnectionBuilder × Except Exc Unit :=
  let builder := { builder with keepAliveInterval := param.keepAliveInterval.getD 15 }
  match param.handler with
  | .ok policy => ({ builder with reconnectionHandler := some policy }, .ok ())
  | .error e => (builder, .error e)

/-- `build` -/
def build (builder : ConnectionBuilder) (json : PyJson) : Except Exc ConnectionArguments :=
  match builder.hubUrl with
  | none => .error .attributeError
  | some url => .ok {
      headers := builder.headers
      authFunction := builder.authFunction
      url
      protocol := builder.protocol.getD (JsonHubProtocol.protocol json)
      keepAliveInterval := builder.keepAliveInterval
      reconnectionHandler := builder.reconnectionHandler
      verifySsl := builder.verifySsl
      skipNegotiation := builder.skipNegotiation
      enableTrace := builder.enableTrace
      logger := builder.logger }

end ConnectionBuilder

/-! ## Sequences of calls -/

/-- A call of a method of the builder. -/
inductive BuilderCall where
  | withUrl (hubUrl : String) (options : OptionsArgument)
  | withLogger (logger : Nat)
  | configureLogging (level : LoggingLevel) (socketTrace withHandler : Bool)
  | withHubProtocol (protocol : HubProtocol)
  | withAutomaticReconnect (param : ReconnectionParam)

/-- The methods that have attributes in common. -/
inductive BuilderGroup where
  | url
  /-- `configure_logging` changes the logger of `with_logger`. -/
  | logging
  | protocol
  | reconnection
  deriving DecidableEq, Repr

namespace BuilderCall

/-- The group of the method that is called. -/
def group : BuilderCall → BuilderGroup
  | withUrl .. => .url
  | withLogger _ | configureLogging .. => .logging
  | withHubProtocol _ => .protocol
  | withAutomaticReconnect _ => .reconnection

/-- The builder behind a call, whether or not it raises. -/
def apply (builder : ConnectionBuilder) : BuilderCall → ConnectionBuilder
  | withUrl hubUrl options => (builder.withUrl hubUrl options).1
  | withLogger logger => builder.withLogger logger
  | configureLogging level socketTrace withHandler =>
      (builder.configureLogging level socketTrace withHandler).1
  | withHubProtocol protocol => builder.withHubProtocol protocol
  | withAutomaticReconnect param => (builder.withAutomaticReconnect param).1

/-- What a call of `with_url` asks for, if it passes the checks. -/
def target : BuilderCall → Option (String × ConnectionOptions)
  | withUrl hubUrl options =>
      if isBlankUrl hubUrl then none
      else (options.orEmpty.filter (·.isCallable)).map (hubUrl, ·)
  | _ => none

/-- The headers that a call adds. -/
def headers (call : BuilderCall) : List (String × Value) :=
  call.target.elim [] fun target => target.2.headersOrEmpty

/-- The logger that a call asks for. -/
def logger : BuilderCall → Option Nat
  | withLogger logger => some logger
  | _ => none

/-- The trace that a call asks for, if it gets that far. -/
def enableTrace : BuilderCall → Option Bool
  | configureLogging level socketTrace withHandler =>
      if withHandler || level.check.isOk then some socketTrace else none
  | _ => none

/-- What a call does to loggers, the builder's logger being given. -/
def changes (logger : Nat) : BuilderCall → List LoggerChange
  | configureLogging level _ false => ConnectionBuilder.changesOf logger level
  | _ => []

/-- The protocol that a call asks for. -/
def protocol : BuilderCall → Option HubProtocol
  | withHubProtocol protocol => some protocol
  | _ => none

/-- The interval that a call asks for, also if its type is unknown. -/
def keepAliveInterval : BuilderCall → Option Int
  | withAutomaticReconnect param => some (param.keepAliveInterval.getD 15)
  | _ => none

/-- The reconnection handler that a call asks for. -/
def policy : BuilderCall → Option ReconnectionPolicy
  | withAutomaticReconnect param => param.handler.toOption
  | _ => none

/-- What is asked for by which methods. -/
structure Asks (call : BuilderCall) : Prop where
  target : call.group ≠ .url → call.target = none
  logger : call.group ≠ .logging → call.logger = none
  enableTrace : call.group ≠ .logging → call.enableTrace = none
  changes : call.group ≠ .logging → ∀ logger, call.changes logger = []
  protocol : call.group ≠ .protocol → call.protocol = none
  keepAliveInterval : call.group ≠ .reconnection → call.keepAliveInterval = none
  policy : call.group ≠ .reconnection → call.policy = none

theorem asks (call : BuilderCall) : Asks call := by
  cases call <;> constructor <;> intro h <;> first | rfl | exact fun _ => rfl | exact absurd rfl h

end BuilderCall

/-- The arguments that a sequence of calls asks for: the last call counts, but headers are added
up. -/
def configured (json : PyJson) (calls : List BuilderCall) : Except Exc ConnectionArguments :=
  match (calls.filterMap (·.target)).getLast? with
  | none => .error .attributeError
  | some (url, options) => .ok {
      headers := Dict.update [] (calls.flatMap (·.headers))
      authFunction := options.authFunction
      url
      protocol := (calls.filterMap (·.protocol)).getLast?.getD (JsonHubProtocol.protocol json)
      keepAliveInterval := (calls.filterMap (·.keepAliveInterval)).getLast?.getD 15
      reconnectionHandler := (calls.filterMap (·.policy)).getLast?
      verifySsl := options.verifySsl.getD (.bool true)
      skipNegotiation := options.skipNegotiation.getD (.bool false)
      enableTrace := (calls.filterMap (·.enableTrace)).getLast?.getD false
      logger := (calls.filterMap (·.logger)).getLast?.getD 0 }

/-- What a sequence of calls does to loggers, each call to the last one asked for before it. -/
def allChanges (logger : Nat) : List BuilderCall → List LoggerChange
  | [] => []
  | call :: calls => call.changes logger ++ allChanges (call.logger.getD logger) calls

namespace ConnectionBuilder

variable {json : PyJson}

/-- The builder behind some calls. -/
def called (calls : List BuilderCall) : ConnectionBuilder :=
  calls.foldl BuilderCall.apply new

/-! ## One call -/

theorem assignUrl_fst (builder : ConnectionBuilder) (hubUrl : String)
    (options : ConnectionOptions) :
    (builder.assignUrl hubUrl options).1 = { builder with
      authFunction := options.authFunction
      skipNegotiation := options.skipNegotiation.getD (.bool false)
      verifySsl := options.verifySsl.getD (.bool true)
      hubUrl := some hubUrl
      headers := builder.headers.update options.headersOrEmpty } := by
  unfold assignUrl ConnectionOptions.headersOrEmpty
  rcases options.headers with _ | _ | _ <;> rfl

/-- Behind its checks `with_url` assigns. -/
theorem withUrl_fst (builder : ConnectionBuilder) (hubUrl : String) (options : OptionsArgument) :
    (builder.withUrl hubUrl options).1 =
      ((BuilderCall.withUrl hubUrl options).target.map fun target =>
        (builder.assignUrl target.1 target.2).1).getD builder := by
  have htarget : (BuilderCall.withUrl hubUrl options).target =
      if isBlankUrl hubUrl then none
      else (options.orEmpty.filter (·.isCallable)).map (hubUrl, ·) := rfl
  rw [htarget]
  unfold withUrl
  split_ifs with hblank
  · rfl
  · cases options.orEmpty with
    | none => rfl
    | some options => cases hcallable : options.isCallable <;> simp [Option.filter, hcallable]

theorem withAutomaticReconnect_fst (builder : ConnectionBuilder) (param : ReconnectionParam) :
    (builder.withAutomaticReconnect param).1 = { builder with
      keepAliveInterval := param.keepAliveInterval.getD 15
      reconnectionHandler :=
        (param.handler.toOption.map some).getD builder.reconnectionHandler } := by
  unfold withAutomaticReconnect
  cases param.handler <;> rfl

theorem configureLogging_fst (builder : ConnectionBuilder) (level : LoggingLevel)
    (socketTrace withHandler : Bool) :
    (builder.configureLogging level socketTrace withHandler).1 = { builder with
      changes := builder.changes ++
        (BuilderCall.configureLogging level socketTrace withHandler).changes builder.logger
      enableTrace := (BuilderCall.configureLogging level socketTrace withHandler).enableTrace.getD
        builder.enableTrace } := by
  unfold configureLogging BuilderCall.changes BuilderCall.enableTrace
  cases withHandler with
  | true => simp
  | false => cases level <;> rfl

/-- What a call does to each attribute. -/
structure Assigns (builder : ConnectionBuilder) (call : BuilderCall) : Prop where
  hubUrl : (call.apply builder).hubUrl = (call.target.map (some ·.1)).getD builder.hubUrl
  authFunction : (call.apply builder).authFunction =
    (call.target.map (·.2.authFunction)).getD builder.authFunction
  skipNegotiation : (call.apply builder).skipNegotiation =
    (call.target.map (·.2.skipNegotiation.getD (.bool false))).getD builder.skipNegotiation
  verifySsl : (call.apply builder).verifySsl =
    (call.target.map (·.2.verifySsl.getD (.bool true))).getD builder.verifySsl
  headers : (call.apply builder).headers = builder.headers.update call.headers
  logger : (call.apply builder).logger = call.logger.getD builder.logger
  enableTrace : (call.apply builder).enableTrace = call.enableTrace.getD builder.enableTrace
  changes : (call.apply builder).changes = builder.changes ++ call.changes builder.logger
  protocol : (call.apply builder).protocol = (call.protocol.map some).getD builder.protocol
  keepAliveInterval : (call.apply builder).keepAliveInterval =
    call.keepAliveInterval.getD builder.keepAliveInterval
  policy : (call.apply builder).reconnectionHandler =
    (call.policy.map some).getD builder.reconnectionHandler

theorem assigns (builder : ConnectionBuilder) (call : BuilderCall) : Assigns builder call := by
  cases call with
  | withUrl hubUrl options =>
      have h := withUrl_fst builder hubUrl options
      cases htarget : (BuilderCall.withUrl hubUrl options).target with
      | none =>
          have hsame : (BuilderCall.withUrl hubUrl options).apply builder = builder := by
            simpa [BuilderCall.apply, htarget] using h
          constructor <;> rw [hsame] <;>
            simp [BuilderCall.headers, BuilderCall.logger, BuilderCall.enableTrace,
              BuilderCall.changes, BuilderCall.protocol, BuilderCall.keepAliveInterval,
              BuilderCall.policy, htarget, Dict.update]
      | some target =>
          have hsame : (BuilderCall.withUrl hubUrl options).apply builder =
              (builder.assignUrl target.1 target.2).1 := by
            simpa [BuilderCall.apply, htarget] using h
          rw [assignUrl_fst] at hsame
          constructor <;> rw [hsame] <;>
            simp [BuilderCall.headers, BuilderCall.logger, BuilderCall.enableTrace,
              BuilderCall.changes, BuilderCall.protocol, BuilderCall.keepAliveInterval,
              BuilderCall.policy, htarget]
  | withLogger logger => constructor <;> first | rfl | exact (List.append_nil _).symm
  | configureLogging level socketTrace withHandler =>
      have h : (BuilderCall.configureLogging level socketTrace withHandler).apply builder = _ :=
        configureLogging_fst builder level socketTrace withHandler
      constructor <;> rw [h] <;> rfl
  | withHubProtocol protocol => constructor <;> first | rfl | exact (List.append_nil _).symm
  | withAutomaticReconnect param =>
      have h : (BuilderCall.withAutomaticReconnect param).apply builder = _ :=
        withAutomaticReconnect_fst builder param
      constructor <;> rw [h] <;> first | rfl | exact (List.append_nil _).symm

/-! ## All calls -/

variable (calls : List BuilderCall)

/-- The last call that asks for an attribute counts. -/
theorem called_last {β γ : Type} {get : ConnectionBuilder → β} {asked : BuilderCall → Option γ}
    {assigned : γ → β}
    (h : ∀ builder call,
      get (BuilderCall.apply builder call) = ((asked call).map assigned).getD (get builder)) :
    get (called calls) = ((calls.filterMap asked).getLast?.map assigned).getD (get new) := by
  have hlast : get (called calls) = _ := Python.foldl_assigned h new calls
  rwa [← List.map_filterMap, List.getLast?_map] at hlast

theorem configures (json : PyJson) : (called calls).build json = configured json calls := by
  have hurl := called_last calls fun builder call => (assigns builder call).hubUrl
  have hauth := called_last calls fun builder call => (assigns builder call).authFunction
  have hskip := called_last calls fun builder call => (assigns builder call).skipNegotiation
  have hssl := called_last calls fun builder call => (assigns builder call).verifySsl
  have hprotocol := called_last calls fun builder call => (assigns builder call).protocol
  have hpolicy := called_last calls fun builder call => (assigns builder call).policy
  have hinterval : (called calls).keepAliveInterval = _ :=
    Python.foldl_assigned (fun builder call => (assigns builder call).keepAliveInterval) new calls
  have hlogger : (called calls).logger = _ :=
    Python.foldl_assigned (fun builder call => (assigns builder call).logger) new calls
  have htrace : (called calls).enableTrace = _ :=
    Python.foldl_assigned (fun builder call => (assigns builder call).enableTrace) new calls
  have hheaders : (called calls).headers = _ :=
    Python.foldl_collected (fun builder call => (assigns builder call).headers) new calls
  unfold build configured
  rw [hurl]
  cases htarget : (calls.filterMap (·.target)).getLast? with
  | none => rfl
  | some target =>
      rw [htarget] at hauth hskip hssl
      rw [hauth, hskip, hssl, hprotocol, hpolicy, hinterval, hlogger, htrace, hheaders]
      cases (calls.filterMap BuilderCall.protocol).getLast? <;>
        cases (calls.filterMap BuilderCall.policy).getLast? <;> rfl

/-- The changes behind some calls of a builder. -/
theorem changes_foldl (builder : ConnectionBuilder) :
    (calls.foldl BuilderCall.apply builder).changes =
      builder.changes ++ allChanges builder.logger calls := by
  induction calls generalizing builder with
  | nil => exact (List.append_nil _).symm
  | cons call calls ih =>
      rw [List.foldl_cons, ih, (assigns builder call).changes, (assigns builder call).logger,
        List.append_assoc]
      rfl

/-- Whatever is called, and whatever raises, `build` makes what the calls ask for, and nothing
else is done to loggers. -/
theorem build_called (json : PyJson) :
    (called calls).build json = configured json calls ∧
      (called calls).changes = allChanges 0 calls :=
  ⟨configures calls json, changes_foldl calls new⟩

/-- A connection starts with the headers of all calls of `with_url`. -/
theorem headers_new {arguments : ConnectionArguments}
    (h : (called calls).build json = .ok arguments) (urllib : Urllib) (str : PyStr)
    (accepted : arguments.skipNegotiation.isTrue = false → urllib.refusal arguments.url = none) :
    (State.new (arguments.config urllib str accepted)).headers =
      Dict.update [] (calls.flatMap (·.headers)) := by
  rw [configures] at h
  unfold configured at h
  split at h
  · cases h
  · cases h
    rfl

/-! ## The order of calls -/

/-- The calls of some methods. -/
def callsOf (group : BuilderGroup) (calls : List BuilderCall) : List BuilderCall :=
  calls.filter (·.group = group)

/-- The headers are those of the calls of `with_url` that pass the checks. -/
theorem headers_target :
    calls.flatMap (·.headers) = (calls.filterMap (·.target)).flatMap (·.2.headersOrEmpty) := by
  induction calls with
  | nil => rfl
  | cons call calls ih =>
      rw [List.flatMap_cons, ih]
      cases h : call.target <;> simp [BuilderCall.headers, h]

/-- Loggers are changed by the calls about logging only. -/
theorem allChanges_logging (logger : Nat) :
    allChanges logger (callsOf .logging calls) =
      allChanges logger calls := by
  induction calls generalizing logger with
  | nil => rfl
  | cons call calls ih =>
      unfold callsOf at ih ⊢
      rw [List.filter_cons]
      split_ifs with hgroup
      · exact congrArg (call.changes logger ++ ·) (ih _)
      · have hother : call.group ≠ .logging := by simpa using hgroup
        have hasks := BuilderCall.asks call
        simp [allChanges, hasks.changes hother, hasks.logger hother, ih]

variable {calls} {calls' : List BuilderCall}

/-- What is asked for by calls of one group only. -/
theorem filterMap_group {β : Type} {asked : BuilderCall → Option β} {group : BuilderGroup}
    (hasked : ∀ call, call.group ≠ group → asked call = none)
    (h : callsOf group calls = callsOf group calls') :
    calls.filterMap asked = calls'.filterMap asked := by
  have hother (call : BuilderCall) (hcall : decide (call.group = group) = false) :
      asked call = none :=
    hasked call (of_decide_eq_false hcall)
  rw [← Python.filterMap_filter hother, ← Python.filterMap_filter hother calls']
  exact congrArg _ h

/-- Calls of different groups can change places. -/
theorem build_reordered (json : PyJson)
    (h : ∀ group, callsOf group calls = callsOf group calls') :
    (called calls).build json = (called calls').build json ∧
      (called calls).changes = (called calls').changes := by
  have htarget := filterMap_group (fun call => (BuilderCall.asks call).target) (h .url)
  have hlogger := filterMap_group (fun call => (BuilderCall.asks call).logger) (h .logging)
  have htrace := filterMap_group (fun call => (BuilderCall.asks call).enableTrace) (h .logging)
  have hprotocol := filterMap_group (fun call => (BuilderCall.asks call).protocol) (h .protocol)
  have hinterval :=
    filterMap_group (fun call => (BuilderCall.asks call).keepAliveInterval) (h .reconnection)
  have hpolicy := filterMap_group (fun call => (BuilderCall.asks call).policy) (h .reconnection)
  have hheaders : calls.flatMap (·.headers) = calls'.flatMap (·.headers) := by
    rw [headers_target, headers_target, htarget]
  constructor
  · rw [configures, configures]
    unfold configured
    rw [htarget, hlogger, htrace, hprotocol, hinterval, hpolicy, hheaders]
  · have hchanges : ∀ calls, (called calls).changes = allChanges 0 calls :=
      fun calls => changes_foldl calls new
    rw [hchanges, hchanges, ← allChanges_logging, h .logging, allChanges_logging]

theorem build_reordered_protocol :
    (called [.withHubProtocol (JsonHubProtocol.protocol JsonText.python), .withLogger 1,
        .withUrl "http://localhost/hub" .absent, .configureLogging (.known 10) true false]).build
          JsonText.python =
        (called [.withUrl "http://localhost/hub" .absent, .withLogger 1,
          .configureLogging (.known 10) true false,
          .withHubProtocol (JsonHubProtocol.protocol JsonText.python)]).build JsonText.python ∧
      (called [.withHubProtocol (JsonHubProtocol.protocol JsonText.python), .withLogger 1,
        .withUrl "http://localhost/hub" .absent,
        .configureLogging (.known 10) true false]).changes =
        (called [.withUrl "http://localhost/hub" .absent, .withLogger 1,
          .configureLogging (.known 10) true false,
          .withHubProtocol (JsonHubProtocol.protocol JsonText.python)]).changes :=
  build_reordered JsonText.python fun group => by cases group <;> rfl

/-- The calls about logging cannot change places with each other. -/
example : (called [.withLogger 1, .configureLogging (.known 10) true false]).changes ≠
    (called [.configureLogging (.known 10) true false, .withLogger 1]).changes := by decide

end ConnectionBuilder

end GeventSignalR
