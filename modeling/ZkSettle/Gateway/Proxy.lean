import ZkSettle.Gateway.Metering

/-!
# The proxy

A call of `proxy_to_upstream`, from the reservation of its place in the quota to the
response. The database, the rate limiter, the client and the upstream answer at their own
pace, so a call goes on by one answer at a time, each of which may be a failure; `advance`
is what the code does between two of its `await`s.
-/
namespace ZkSettle.Gateway

/-! ## What goes upstream -/

abbrev HeaderMap := List (String × List UInt8)

structure Request where
  method : String
  path : String
  query : Option String
  headers : HeaderMap

structure UpstreamRequest where
  method : String
  url : String
  headers : HeaderMap
  body : List UInt8

structure UpstreamResponse where
  status : Nat
  headers : HeaderMap
  body : List UInt8

structure Config where
  upstreamUrl : String
  indexerUrl : Option String
  upstreamToken : Option String

def HOP_BY_HOP : List String :=
  ["connection", "keep-alive", "proxy-authenticate", "proxy-authorization", "te", "trailers",
    "transfer-encoding", "upgrade", "host", "authorization"]

def eqIgnoreAsciiCase (a b : String) : Bool :=
  a.toList.map Char.toLower == b.toList.map Char.toLower

def isHopByHop (name : String) : Bool := HOP_BY_HOP.any fun h => eqIgnoreAsciiCase h name

def filterHopByHop (src : HeaderMap) : HeaderMap := src.filter fun header => !isHopByHop header.1

def startsWith (text start : String) : Bool := start.toList.isPrefixOf text.toList

/-- `strip_prefix`, or the text itself. -/
def stripPrefix (text start : String) : String :=
  if startsWith text start then String.ofList (text.toList.drop start.length) else text

def pickUpstream (pathAfterV1 : String) (config : Config) : String :=
  if pathAfterV1 = "/events" ∨ startsWith pathAfterV1 "/events/" ∨
      startsWith pathAfterV1 "/events?" then
    config.indexerUrl.getD config.upstreamUrl
  else config.upstreamUrl

/-- A text as the value of a header: visible ASCII and tabs. -/
def headerValue (text : String) : Option (List UInt8) :=
  let bytes := text.toUTF8.toList
  if bytes.all fun b => (32 ≤ b && b < 127) || b == 9 then some bytes else none

/-- `HeaderMap::insert`: the name keeps this value alone. -/
def HeaderMap.insert (headers : HeaderMap) (name : String) (value : List UInt8) : HeaderMap :=
  headers.filter (fun header => !eqIgnoreAsciiCase header.1 name) ++ [(name, value)]

def upstreamRequest (config : Config) (req : Request) (body : List UInt8) : UpstreamRequest :=
  let path := stripPrefix req.path "/v1"
  let query := (req.query.map ("?" ++ ·)).getD ""
  let upstreamBase := pickUpstream path config
  let isIssuer := upstreamBase == config.upstreamUrl
  let headers := filterHopByHop req.headers
  let bearer :=
    if isIssuer then config.upstreamToken.bind fun token => headerValue ("Bearer " ++ token)
    else none
  { method := req.method
    url := upstreamBase ++ path ++ query
    headers := match bearer with
      | some value => headers.insert "authorization" value
      | none => headers
    body }

theorem isHopByHop_of_eqIgnoreAsciiCase {name : String}
    (same : eqIgnoreAsciiCase "authorization" name = true) : isHopByHop name = true := by
  rw [isHopByHop, List.any_eq_true]
  exact ⟨"authorization", by simp [HOP_BY_HOP], same⟩

/-- The authorization that the upstream sees is the gateway's own, and only the issuer sees
it: what the client has sent stays behind. -/
theorem upstreamRequest_authorization (config : Config) (req : Request) (body : List UInt8)
    {name : String} {value : List UInt8}
    (sent : (name, value) ∈ (upstreamRequest config req body).headers)
    (authorization : eqIgnoreAsciiCase "authorization" name = true) :
    pickUpstream (stripPrefix req.path "/v1") config = config.upstreamUrl ∧ ∃ token,
      config.upstreamToken = some token ∧ headerValue ("Bearer " ++ token) = some value := by
  -- the client's own header is among the filtered ones
  have filtered : (name, value) ∉ filterHopByHop req.headers := by
    intro kept
    have other := (List.mem_filter.mp kept).2
    rw [isHopByHop_of_eqIgnoreAsciiCase authorization] at other
    cases other
  simp only [upstreamRequest] at sent
  split at sent
  next bearer injected =>
    split at injected
    next issuer =>
      obtain ⟨token, configured, valid⟩ := Option.bind_eq_some_iff.mp injected
      rcases List.mem_append.mp sent with kept | new
      · exact absurd (List.mem_filter.mp kept).1 filtered
      · cases List.mem_singleton.mp new
        exact ⟨by simpa using issuer, token, configured, valid⟩
    next indexer => cases injected
  next absent => exact absurd sent filtered

/-! ## A call -/

inductive GatewayError where
  | rateLimited
  | quotaExhausted
  | upstream (message : String)
  | invalidSignature
  | invalidWallet
  | messageExpired
  | invalidMessage
  | config (message : String)
  | database (message : String)
  deriving DecidableEq, Repr

/-- `is_success() || is_redirection()` -/
def billable (status : Nat) : Bool := 200 ≤ status && status < 400

/-- The `await` that a call has come to. -/
inductive Stage where
  /-- `try_reserve` -/
  | entered
  /-- the check of the rate limiter -/
  | reserved
  /-- the release after the rate limiter's refusal -/
  | limited
  /-- the body of the request -/
  | admitted
  | sending (request : UpstreamRequest)
  /-- `record_daily`, or the release of an error response -/
  | answered (response : UpstreamResponse)
  /-- the release after a failure of `record_daily` -/
  | unrecorded (response : UpstreamResponse) (paid : billable response.status = true)
  | ended (result : Except GatewayError UpstreamResponse)

/-- `period` and `released` are for the statements: the code does not keep them. -/
structure Call where
  now : Nat
  request : Request
  stage : Stage
  /-- the start of the period that the reservation was taken in -/
  period : Option Nat
  /-- the reservation has been given back -/
  released : Bool

/-- What a call awaits, and how it turns out. -/
inductive Event where
  | tryReserve (fault : Option String)
  | check (allowed : Bool)
  /-- what the client sends, or the fault on the way -/
  | readBody (body : Except String (List UInt8))
  | send (answer : Except String UpstreamResponse)
  | recordDaily (fault : Option RecordFault)
  /-- a failure is only logged -/
  | release (failed : Bool)

/-- The rows of the key. -/
structure Rows where
  usage : Option UsageRecord
  daily : DailyUsage

def BODY_LIMIT : Nat := 1024 * 1024

/-- `axum::body::to_bytes` -/
def toBytes (body : Except String (List UInt8)) (limit : Nat) : Except String (List UInt8) :=
  match body with
  | .error fault => .error fault
  | .ok bytes => if bytes.length ≤ limit then .ok bytes else .error "length limit exceeded"

def intoResponse (response : UpstreamResponse) : UpstreamResponse :=
  { response with headers := filterHopByHop response.headers }

/-- A release, and the end of the call whether it fails or not. -/
def Call.giveBack (call : Call) (rows : Rows) (failed : Bool)
    (result : Except GatewayError UpstreamResponse) : Rows × Call :=
  if failed then (rows, { call with stage := .ended result })
  else ({ rows with usage := release rows.usage },
    { call with stage := .ended result, released := true })

/-- `proxy_to_upstream` from one `await` to the next. -/
def Call.advance (tier : Tier) (config : Config) (rows : Rows) (call : Call) :
    Event → Except Unit (Rows × Call)
  | .tryReserve fault =>
    match call.stage, fault with
    | .entered, some message =>
      .ok (rows, { call with stage := .ended (.error (.database message)) })
    | .entered, none =>
      match tryReserve rows.usage call.now tier.monthlyLimit with
      | (usage, true) =>
        .ok ({ rows with usage },
          { call with stage := .reserved, period := usage.map UsageRecord.periodStart })
      | (usage, false) =>
        .ok ({ rows with usage }, { call with stage := .ended (.error .quotaExhausted) })
    | _, _ => .error ()
  | .check allowed =>
    match call.stage with
    | .reserved => .ok (rows, { call with stage := if allowed then .admitted else .limited })
    | _ => .error ()
  | .readBody body =>
    match call.stage, toBytes body BODY_LIMIT with
    | .admitted, .ok bytes =>
      .ok (rows, { call with stage := .sending (upstreamRequest config call.request bytes) })
    | .admitted, .error message =>
      -- the `?` leaves without a release
      .ok (rows, { call with stage := .ended (.error (.upstream message)) })
    | _, _ => .error ()
  | .send answer =>
    match call.stage, answer with
    | .sending _, .ok response => .ok (rows, { call with stage := .answered response })
    | .sending _, .error message =>
      -- and so does this one
      .ok (rows, { call with stage := .ended (.error (.upstream message)) })
    | _, _ => .error ()
  | .recordDaily fault =>
    match call.stage with
    | .answered response =>
      if paid : billable response.status = true then
        .ok ({ rows with daily := recordDaily rows.daily call.now fault },
          { call with stage := if fault.isSome then .unrecorded response paid
              else .ended (.ok (intoResponse response)) })
      else .error ()
    | _ => .error ()
  | .release failed =>
    match call.stage with
    | .limited => .ok (call.giveBack rows failed (.error .rateLimited))
    | .unrecorded response _ => .ok (call.giveBack rows failed (.ok (intoResponse response)))
    | .answered response =>
      if billable response.status then .error ()
      else .ok (call.giveBack rows failed (.ok (intoResponse response)))
    | _ => .error ()

end ZkSettle.Gateway
