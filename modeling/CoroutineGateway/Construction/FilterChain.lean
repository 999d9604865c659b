import CoroutineGateway.Construction.GatewayConfig

/-!
# The filters a request goes through

`gateway/gateway_filter_chain.cpp`: the blacklist, the rate limit and the authentication, in this
order; the first filter that rejects a request ends the chain.  Every reading of a clock is an
argument, and each filter's own state is passed along.
-/

namespace CoroutineGateway

namespace HttpStatus

def ok : ℤ := 200
def badRequest : ℤ := 400
def unauthorized : ℤ := 401
def forbidden : ℤ := 403
def methodNotAllowed : ℤ := 405
def payloadTooLarge : ℤ := 413
def tooManyRequests : ℤ := 429
def internalError : ℤ := 500
def badGateway : ℤ := 502

/-- `status_text` -/
def statusText (code : ℤ) : Bytes :=
  if code = ok then ascii "OK"
  else if code = badRequest then ascii "Bad Request"
  else if code = unauthorized then ascii "Unauthorized"
  else if code = forbidden then ascii "Forbidden"
  else if code = methodNotAllowed then ascii "Method Not Allowed"
  else if code = payloadTooLarge then ascii "Payload Too Large"
  else if code = tooManyRequests then ascii "Too Many Requests"
  else if code = internalError then ascii "Internal Server Error"
  else if code = badGateway then ascii "Bad Gateway"
  else ascii "Error"

end HttpStatus

/-- `GatewayRequestContext`, without the client's socket. -/
structure GatewayRequestContext where
  method : Bytes
  path : Bytes
  version : Bytes
  clientAddress : Bytes
  rawRequest : Bytes

/-- What a filter answers: it lets the request pass, or sets a status and a body. -/
inductive Verdict where
  | pass
  | reject (status : ℤ) (body : Bytes)
  deriving DecidableEq

/-- The clocks a request reads on its way through the chain. -/
structure Clocks where
  /-- `std::time` in the rate limit. -/
  rate : ℤ
  /-- The reading the cache is asked with. -/
  auth : ℤ
  /-- The reading in `verify_hs256`. -/
  verify : ℤ

variable {A : Type*}

/-- `BlacklistFilter::apply` -/
def BlacklistFilter.apply (cfg : GatewayConfig A) (ctx : GatewayRequestContext) : Verdict :=
  if cfg.blacklist = [] then .pass
  else if ctx.clientAddress = [] then .pass
  else if ctx.clientAddress ∈ cfg.blacklist then
    .reject HttpStatus.forbidden (ascii "blocked\n")
  else .pass

/-- `RateLimitFilter` -/
structure RateLimitFilter where
  lastSec : ℤ
  /-- `m_count`, an `int` -/
  count : ℤ

namespace RateLimitFilter

/-- `RateLimitFilter()` -/
def init : RateLimitFilter := ⟨0, 0⟩

/-- `apply` -/
def apply (f : RateLimitFilter) (cfg : GatewayConfig A) (now : ℤ) : Verdict × RateLimitFilter :=
  if cfg.maxQps ≤ 0 then (.pass, f)
  else
    let f : RateLimitFilter := if now ≠ f.lastSec then ⟨now, 0⟩ else f
    let f : RateLimitFilter := { f with count := Int.bmod (f.count + 1) (2 ^ 32) }
    if f.count > cfg.maxQps then
      (.reject HttpStatus.tooManyRequests (ascii "too many requests\n"), f)
    else (.pass, f)

end RateLimitFilter

namespace AuthFilter

/-- The token a request carries: the text after the first `Authorization:` of the header block,
without the blanks around it and without `Bearer `.  Both branches of the filter start so. -/
def token (rawRequest : Bytes) : Option Bytes :=
  let headers := Seq.substr rawRequest 0 (Seq.find (crlf ++ crlf) rawRequest)
  (Seq.afterUntil (ascii "Authorization:") crlf headers).map fun line =>
    let val := (Text.trim line).getD []
    let be := ascii "Bearer "
    if be.isPrefixOf val then val.drop be.length else val

/-- The answer to a request that is not authorized. -/
def unauthorized : Verdict := .reject HttpStatus.unauthorized (ascii "unauthorized\n")

/-- What is done with a token that `verify_hs256` has accepted. -/
def remember (ssl : OpenSsl) (cache : JwtCache) (token : Bytes) : JwtCache :=
  let exp := (Jwt.getExp ssl token).getD 0
  if exp > 0 then cache.putValid token exp else cache

/-- The branch of `apply` for `jwt_enabled`. -/
def applyJwt (ssl : OpenSsl) (cfg : GatewayConfig A) (cache : JwtCache)
    (ctx : GatewayRequestContext) (clocks : Clocks) : Verdict × JwtCache :=
  match token ctx.rawRequest with
  | none => (unauthorized, cache)
  | some token =>
    let (cached, cache) := cache.isValidCached token clocks.auth
    if cached then (.pass, cache)
    else
      match Jwt.verifyHs256 ssl clocks.verify token cfg.jwtSettings with
      | .error _ => (unauthorized, cache)
      | .ok _ => (.pass, remember ssl cache token)

/-- The branch of `apply` for the tokens of the routes. -/
def applyRoute (cfg : GatewayConfig A) (ctx : GatewayRequestContext) : Verdict :=
  match cfg.routeOf ctx.path with
  | none => .pass
  | some rc =>
    if rc.requiredToken = [] then .pass
    else
      match token ctx.rawRequest with
      | none => unauthorized
      | some clientToken => if clientToken ≠ rc.requiredToken then unauthorized else .pass

/-- `AuthFilter::apply` -/
def apply (ssl : OpenSsl) (cfg : GatewayConfig A) (cache : JwtCache)
    (ctx : GatewayRequestContext) (clocks : Clocks) : Verdict × JwtCache :=
  if cfg.jwtEnabled then applyJwt ssl cfg cache ctx clocks else (applyRoute cfg ctx, cache)

end AuthFilter

/-- The state of the filters. -/
structure GatewayFilterChain where
  rateLimit : RateLimitFilter
  cache : JwtCache

namespace GatewayFilterChain

/-- The filters before the first request. -/
def init : GatewayFilterChain := ⟨.init, .init⟩

/-- `GatewayFilterChain::apply` -/
def apply (filters : GatewayFilterChain) (ssl : OpenSsl) (cfg : GatewayConfig A)
    (ctx : GatewayRequestContext) (clocks : Clocks) : Verdict × GatewayFilterChain :=
  match BlacklistFilter.apply cfg ctx with
  | .reject status body => (.reject status body, filters)
  | .pass =>
    let (verdict, rateLimit) := filters.rateLimit.apply cfg clocks.rate
    let filters := { filters with rateLimit }
    match verdict with
    | .reject status body => (.reject status body, filters)
    | .pass =>
      let (verdict, cache) := AuthFilter.apply ssl cfg filters.cache ctx clocks
      (verdict, { filters with cache })

end GatewayFilterChain

end CoroutineGateway
