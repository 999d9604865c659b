import CoroutineGateway.Construction.Jwt
import CoroutineGateway.Construction.LruCache

/-!
# The configuration of the gateway

`GatewayConfig` (`gateway/gateway_config.cpp`) and `GatewayRouter` (`gateway/gateway_router.cpp`),
with the constants of `util/gateway_constants.h` they read.  The type `A` is that of resolved
addresses, and `Address::LookupAnyIPAddress` is a parameter of the functions that call it.

A `const RouteConfig*` points into `m_routes`; it is the position there.  The cache of verified
tokens is a singleton that `load_from_file` changes while it is still parsing, so it is passed
along with the configuration.

`m_required_token` and `m_inited` are left out, since nothing reads what they hold.
-/

namespace CoroutineGateway

/-- `RouteConfig` -/
structure RouteConfig (A : Type*) where
  pathPrefix : Bytes
  targets : List Bytes
  resolvedTargets : List A
  exact : Bool
  requiredToken : Bytes

/-- A `std::unique_ptr<TrieNode>`; a node has one child for each byte. -/
inductive TrieNode where
  | null
  | node (route : Option ℕ) (children : UInt8 → TrieNode)

namespace TrieNode

/-- `route` -/
def route : TrieNode → Option ℕ
  | null => none
  | node route _ => route

/-- `children` -/
def children : TrieNode → UInt8 → TrieNode
  | null => fun _ => null
  | node _ children => children

/-- The loop of `build_trie` over one prefix, which creates the missing nodes, and
`node->route = &r` at its end. -/
def insert (r : ℕ) : Bytes → TrieNode → TrieNode
  | [], t => node (some r) t.children
  | c :: path, t => node t.route (Function.update t.children c (insert r path (t.children c)))

/-- The loop of `match_route` over the path; `best` is the route found so far. -/
def longest : Bytes → TrieNode → Option ℕ → Option ℕ
  | [], _, best => best
  | c :: path, t, best =>
    match t.children c with
    | null => best
    | node route children => longest path (node route children) (route <|> best)

end TrieNode

/-- `GatewayConfig` -/
structure GatewayConfig (A : Type*) where
  routes : List (RouteConfig A)
  blacklist : List Bytes
  maxQps : ℤ
  configPath : Bytes
  maxBodySize : ℤ
  timeoutConnect : ℤ
  timeoutSend : ℤ
  timeoutRecv : ℤ
  jwtEnabled : Bool
  jwtSecret : Bytes
  jwtIssuer : Bytes
  jwtAudience : Bytes
  jwtAlg : Bytes
  trieRoot : TrieNode
  /-- `m_exact_map` -/
  exactMap : Bytes → Option ℕ

namespace GatewayConfig

variable {A : Type*}

/-- `GatewayConfig()` -/
def init : GatewayConfig A where
  routes := []
  blacklist := []
  maxQps := 0
  configPath := []
  maxBodySize := 4 * 1024 * 1024
  timeoutConnect := 2000
  timeoutSend := 2000
  timeoutRecv := 2000
  jwtEnabled := false
  jwtSecret := []
  jwtIssuer := []
  jwtAudience := []
  jwtAlg := ascii "HS256"
  trieRoot := .null
  exactMap _ := none

/-- What `verify_hs256` is called with. -/
def jwtSettings (cfg : GatewayConfig A) : Jwt.Settings :=
  ⟨cfg.jwtSecret, cfg.jwtIssuer, cfg.jwtAudience⟩

/-! ## Routes -/

/-- `match_route` -/
def matchRoute (cfg : GatewayConfig A) (path : Bytes) : Option ℕ :=
  match cfg.exactMap path with
  | some r => some r
  | none => cfg.trieRoot.longest path none

/-- `*match_route(path)` -/
def routeOf (cfg : GatewayConfig A) (path : Bytes) : Option (RouteConfig A) :=
  (cfg.matchRoute path).bind (cfg.routes[·]?)

/-- One iteration of `build_trie`. -/
def addRoute (t : TrieNode × (Bytes → Option ℕ)) (r : RouteConfig A × ℕ) :
    TrieNode × (Bytes → Option ℕ) :=
  if r.1.exact then (t.1, Function.update t.2 r.1.pathPrefix (some r.2))
  else (t.1.insert r.2 r.1.pathPrefix, t.2)

/-- `build_trie` -/
def buildTrie (cfg : GatewayConfig A) : GatewayConfig A :=
  let t := cfg.routes.zipIdx.foldl addRoute (.node none fun _ => .null, fun _ => none)
  { cfg with trieRoot := t.1, exactMap := t.2 }

/-! ## Parsing -/

/-- The keywords of a configuration file, `CFG_*`. -/
inductive Directive where
  | route | exact | black | qps | token | maxBodySize
  | timeoutConnectMs | timeoutSendMs | timeoutRecvMs
  | jwtEnabled | jwtSecret | jwtIssuer | jwtAudience | jwtAlg | jwtCacheCapacity
  deriving DecidableEq

namespace Directive

def keyword : Directive → Bytes
  | route => ascii "route"
  | exact => ascii "exact"
  | black => ascii "black"
  | qps => ascii "qps"
  | token => ascii "token"
  | maxBodySize => ascii "max_body_size"
  | timeoutConnectMs => ascii "timeout_connect_ms"
  | timeoutSendMs => ascii "timeout_send_ms"
  | timeoutRecvMs => ascii "timeout_recv_ms"
  | jwtEnabled => ascii "jwt_enabled"
  | jwtSecret => ascii "jwt_secret"
  | jwtIssuer => ascii "jwt_issuer"
  | jwtAudience => ascii "jwt_audience"
  | jwtAlg => ascii "jwt_alg"
  | jwtCacheCapacity => ascii "jwt_cache_capacity"

/-- The keywords in the order in which the first word of a line is compared with them. -/
def all : List Directive :=
  [route, exact, black, qps, token, maxBodySize, timeoutConnectMs, timeoutSendMs, timeoutRecvMs,
    jwtEnabled, jwtSecret, jwtIssuer, jwtAudience, jwtAlg, jwtCacheCapacity]

def ofWord (type : Bytes) : Option Directive := all.find? (·.keyword = type)

end Directive

/-- The local variables of `load_from_file`, and the cache. -/
structure Draft (A : Type*) where
  routes : List (RouteConfig A)
  blacklist : List Bytes
  maxQps : ℤ
  routeTokens : Bytes → Option Bytes
  maxBodySize : ℤ
  timeoutConnect : ℤ
  timeoutSend : ℤ
  timeoutRecv : ℤ
  jwtEnabled : Bool
  jwtSecret : Bytes
  jwtIssuer : Bytes
  jwtAudience : Bytes
  jwtAlg : Bytes
  cache : JwtCache

/-- The variables before the first line. -/
def draft (cfg : GatewayConfig A) (cache : JwtCache) : Draft A where
  routes := []
  blacklist := []
  maxQps := 0
  routeTokens _ := none
  maxBodySize := cfg.maxBodySize
  timeoutConnect := cfg.timeoutConnect
  timeoutSend := cfg.timeoutSend
  timeoutRecv := cfg.timeoutRecv
  jwtEnabled := cfg.jwtEnabled
  jwtSecret := cfg.jwtSecret
  jwtIssuer := cfg.jwtIssuer
  jwtAudience := cfg.jwtAudience
  jwtAlg := cfg.jwtAlg
  cache

namespace Draft

/-- The branches for `route` and `exact`: a path and a list of targets separated by commas. -/
def addRoute (d : Draft A) (exact : Bool) (args : Bytes) : Draft A :=
  let (pathPrefix, args) := Text.readWord args
  let (targets, _) := Text.readWord args
  if pathPrefix = [] ∨ targets = [] then d
  else
    let items := (Text.getlines 44 targets).filter (· ≠ [])
    if items = [] then d
    else
      let rc : RouteConfig A :=
        { pathPrefix, targets := items, resolvedTargets := [], exact, requiredToken := [] }
      { d with routes := d.routes ++ [rc] }

/-- The branches that read a number and take it if it is positive. -/
def positive (d : Draft A) (bits : ℕ) (args : Bytes) (set : ℤ → Draft A) : Draft A :=
  let v := Text.readInt bits args
  if v > 0 then set v else d

/-- The branch of a directive; `args` is what follows the keyword. -/
def apply (d : Draft A) (args : Bytes) : Directive → Draft A
  | .route => d.addRoute false args
  | .exact => d.addRoute true args
  | .black =>
    let ip := (Text.readWord args).1
    if ip ≠ [] then { d with blacklist := d.blacklist ++ [ip] } else d
  | .qps => d.positive 31 args fun qps => { d with maxQps := qps }
  | .token =>
    let (pfx, args) := Text.readWord args
    let (token, _) := Text.readWord args
    if pfx ≠ [] ∧ token ≠ [] then
      { d with routeTokens := Function.update d.routeTokens pfx (some token) }
    else d
  | .maxBodySize => d.positive 63 args fun v => { d with maxBodySize := v }
  | .timeoutConnectMs => d.positive 31 args fun v => { d with timeoutConnect := v }
  | .timeoutSendMs => d.positive 31 args fun v => { d with timeoutSend := v }
  | .timeoutRecvMs => d.positive 31 args fun v => { d with timeoutRecv := v }
  | .jwtEnabled =>
    let v := (Text.readWord args).1
    { d with jwtEnabled := v = ascii "on" ∨ v = ascii "true" ∨ v = ascii "1" }
  | .jwtSecret => { d with jwtSecret := (Text.readWord args).1 }
  | .jwtIssuer => { d with jwtIssuer := (Text.readWord args).1 }
  | .jwtAudience => { d with jwtAudience := (Text.readWord args).1 }
  | .jwtAlg => { d with jwtAlg := (Text.readWord args).1 }
  | .jwtCacheCapacity =>
    let v := Text.readInt 31 args
    if h : v > 0 then { d with cache := d.cache.setCapacity ⟨v, .inr h⟩ } else d

/-- One iteration of the loop over the lines. -/
def readLine (d : Draft A) (line : Bytes) : Draft A :=
  let (type, args) := Text.readWord line
  match Directive.ofWord type with
  | some directive => d.apply args directive
  | none => d

/-- Is there a default route? -/
def hasDefault (d : Draft A) : Bool :=
  d.routes.any fun r => !r.exact && r.pathPrefix = ascii "/"

/-- The loop over the parsed routes that resolves their targets and sets their tokens. -/
def finishRoutes (d : Draft A) (lookup : Bytes → Option A) : List (RouteConfig A) :=
  d.routes.map fun r =>
    { r with
      resolvedTargets := r.targets.filterMap lookup
      requiredToken := (d.routeTokens r.pathPrefix).getD r.requiredToken }

end Draft

/-- The critical section of `load_from_file`. -/
def commit (cfg : GatewayConfig A) (lookup : Bytes → Option A) (path : Bytes) (d : Draft A) :
    GatewayConfig A × JwtCache :=
  let cfg : GatewayConfig A :=
    { cfg with
      routes := d.finishRoutes lookup
      blacklist := d.blacklist
      maxQps := if d.maxQps > 0 then d.maxQps else cfg.maxQps
      maxBodySize := d.maxBodySize
      timeoutConnect := d.timeoutConnect
      timeoutSend := d.timeoutSend
      timeoutRecv := d.timeoutRecv
      jwtEnabled := d.jwtEnabled
      jwtSecret := d.jwtSecret
      jwtIssuer := d.jwtIssuer
      jwtAudience := d.jwtAudience
      jwtAlg := d.jwtAlg
      configPath := path }
  (cfg.buildTrie, d.cache.clear)

/-- `load_from_file`; `file` is what is read at `path`, `none` if it cannot be opened. -/
def loadFromFile (cfg : GatewayConfig A) (cache : JwtCache) (lookup : Bytes → Option A)
    (path : Bytes) (file : Option Bytes) : Bool × GatewayConfig A × JwtCache :=
  match file with
  | none => (false, cfg, cache)
  | some text =>
    let lines := (Text.getlines lf text).filter (· ≠ [])
    let d := lines.foldl Draft.readLine (cfg.draft cache)
    if d.routes = [] then (false, cfg, d.cache)
    else if d.hasDefault then (true, cfg.commit lookup path d)
    else (false, cfg, d.cache)

/-- `reload` -/
def reload (cfg : GatewayConfig A) (cache : JwtCache) (lookup : Bytes → Option A)
    (file : Option Bytes) : Bool × GatewayConfig A × JwtCache :=
  if cfg.configPath = [] then (false, cfg, cache)
  else cfg.loadFromFile cache lookup cfg.configPath file

/-! ## The router -/

/-- `GatewayRouter::pick_upstream`; `index` is the counter `s_index`. -/
def pickUpstream (cfg : GatewayConfig A) (lookup : Bytes → Option A) (index : ℕ)
    (path : Bytes) : Option A × ℕ :=
  match cfg.routeOf path with
  | none => (none, index)
  | some rc =>
    if rc.resolvedTargets = [] ∧ rc.targets = [] then (none, index)
    else
      let next := (index + 1) % 2 ^ 64
      if rc.resolvedTargets ≠ [] then
        (rc.resolvedTargets[index % rc.resolvedTargets.length]?, next)
      else (rc.targets[index % rc.targets.length]?.bind lookup, next)

end GatewayConfig

end CoroutineGateway
