import CoroutineGateway.Construction.FilterChain

/-!
# A client's connection

`gateway_conn` (`server/gateway_conn.cpp`), which reads a request from a client, and forwards it
to an upstream and the answer back.

The client is a stream of bytes, and every system call takes its result from a list of results.
A `recv` that returns `n` delivers the next `n` bytes of the stream; `none` stands for a result
the call cannot have, because the buffer or the stream is shorter.  A list that has run out, like
a result that is not positive, is the end of the connection.  The bytes go through `m_read_buf`
on their way into `m_request`; of the buffer the model keeps the size and the position.
-/

namespace CoroutineGateway

/-- `gateway_conn::READ_BUFFER_SIZE` -/
def READ_BUFFER_SIZE : ℕ := 16 * 1024

/-- `"\r\n\r\n"` -/
abbrev blankLine : Bytes := crlf ++ crlf

/-- `gateway_conn`, without the client's socket. -/
structure GatewayConn where
  readIdx : ℕ
  request : Bytes
  contentLength : ℤ
  /-- The keys of `m_upstreams`. -/
  upstreams : List Bytes
  oversize : Bool

/-- The client's socket: what it has still to deliver, and what the next calls of `recv` return. -/
structure Client where
  valid : Bool
  pending : Bytes
  results : List ℤ

namespace GatewayConn

/-- `init` -/
def init : GatewayConn := ⟨0, [], 0, [], false⟩

/-! ## Reading a request -/

/-- `recv(buf, len, 0)` returning `n`: the bytes delivered, none if `n <= 0`, and the stream
after them. -/
def recv (len : ℕ) (n : ℤ) (pending : Bytes) : Option (Bytes × Bytes) :=
  if n ≤ 0 then some ([], pending)
  else if n ≤ len ∧ n ≤ pending.length then
    some (pending.take n.toNat, pending.drop n.toNat)
  else none

/-- The outcome of a part of `read_once`: whether it goes on (or returns true), and what is left
of the stream and of the results. -/
structure Read where
  ok : Bool
  conn : GatewayConn
  pending : Bytes
  results : List ℤ

/-- The loop that reads until the headers are complete. -/
def readHeaders (conn : GatewayConn) (pending : Bytes) : List ℤ → Option Read
  | [] => some ⟨(Seq.find blankLine conn.request).isSome, conn, pending, []⟩
  | n :: results =>
    if (Seq.find blankLine conn.request).isSome then some ⟨true, conn, pending, n :: results⟩
    else if READ_BUFFER_SIZE ≤ conn.readIdx then some ⟨false, conn, pending, n :: results⟩
    else
      match recv (READ_BUFFER_SIZE - conn.readIdx) n pending with
      | none => none
      | some ([], pending) => some ⟨false, conn, pending, results⟩
      | some (chunk, pending) =>
        let conn : GatewayConn :=
          { conn with
            readIdx := conn.readIdx + chunk.length
            request := conn.request ++ chunk }
        if conn.request.length > 64 * 1024 then some ⟨false, conn, pending, results⟩
        else readHeaders conn pending results

/-- The number `read_once` takes from the headers: the one after the first `Content-Length:`, or
zero. -/
def parseContentLength (request : Bytes) : ℤ :=
  let headers := Seq.substr request 0 (Seq.find blankLine request)
  match Seq.afterUntil (ascii "Content-Length:") crlf headers with
  | none => 0
  | some line =>
    match Text.trim line with
    | none => 0
    | some num => Text.strtol num

/-- The loop that reads the body; `got` is `have`. -/
def readBody (conn : GatewayConn) (got : ℕ) (pending : Bytes) : List ℤ → Option Read
  | [] => some ⟨conn.contentLength.toNat ≤ got, conn, pending, []⟩
  | n :: results =>
    if got < conn.contentLength.toNat then
      let conn : GatewayConn :=
        if READ_BUFFER_SIZE ≤ conn.readIdx then { conn with readIdx := 0 } else conn
      match recv READ_BUFFER_SIZE n pending with
      | none => none
      | some ([], pending) => some ⟨false, conn, pending, results⟩
      | some (chunk, pending) =>
        readBody { conn with request := conn.request ++ chunk } (got + chunk.length) pending results
    else some ⟨true, conn, pending, n :: results⟩

/-- What follows the headers in `read_once`. -/
def readRest (maxBody : ℤ) (r : Read) : Option Read :=
  let conn := { r.conn with contentLength := parseContentLength r.conn.request }
  if conn.contentLength > 0 ∧ conn.contentLength > maxBody then
    some { r with conn := { conn with oversize := true } }
  else if conn.contentLength > 0 then
    let pos := (Seq.find blankLine conn.request).getD 0
    readBody conn (conn.request.length - (pos + 4)) r.pending r.results
  else some { r with conn }

/-- `read_once`; `maxBody` is `max_body_size()`. -/
def readOnce (maxBody : ℤ) (conn : GatewayConn) (client : Client) : Option Read :=
  if !client.valid then some ⟨false, conn, client.pending, client.results⟩
  else
    match readHeaders conn client.pending client.results with
    | none => none
    | some r => if r.ok then readRest maxBody r else some r

/-- `parse_request_line` -/
def parseRequestLine (request : Bytes) : Option (Bytes × Bytes × Bytes) := do
  let pos ← Seq.find crlf request
  let line := request.take pos
  let p1 ← Seq.find [32] line
  let p2 ← Seq.findFrom [32] line (p1 + 1)
  return (line.take p1, Seq.substr line (p1 + 1) (some (p2 - p1 - 1)), line.drop (p2 + 1))

/-! ## Sending -/

/-- The loop that sends a buffer: what was accepted, whether that is all of it, and the results
that are left.  A result that is larger than what was offered counts as all of it. -/
def sendAll : List ℤ → Bytes → Bytes × Bool × List ℤ
  | results, [] => ([], true, results)
  | [], _ :: _ => ([], false, [])
  | n :: results, c :: buf =>
    if n ≤ 0 then ([], false, results)
    else
      let r := sendAll results ((c :: buf).drop n.toNat)
      ((c :: buf).take n.toNat ++ r.1, r.2)

/-- The text `send_simple_response` sends. -/
def simpleResponse (status : ℤ) (statusText body : Bytes) : Bytes :=
  ascii "HTTP/1.1 " ++ Text.intToString status ++ ascii " " ++ statusText ++ crlf ++
    ascii "Content-Type: text/plain\r\nConnection: close\r\nContent-Length: " ++
    Text.toDecimal body.length ++ crlf ++ crlf ++ body

/-- The loop that passes the upstream's answer on to the client: what the client has received.
A chunk that is empty is a `recv` that failed. -/
def relay : List Bytes → List ℤ → Bytes
  | [], _ => []
  | chunk :: chunks, sends =>
    let chunk := chunk.take 4096
    if chunk = [] then []
    else
      let (sent, ok, sends) := sendAll sends chunk
      if ok then sent ++ relay chunks sends else sent

end GatewayConn

/-! ## The gateway -/

/-- `GatewayMetrics`, three `unsigned long long`. -/
structure GatewayMetrics where
  totalRequests : ℕ
  upstreamErrors : ℕ
  filterRejects : ℕ

namespace GatewayMetrics

def init : GatewayMetrics := ⟨0, 0, 0⟩

/-- `on_request` -/
def onRequest (m : GatewayMetrics) : GatewayMetrics :=
  { m with totalRequests := (m.totalRequests + 1) % 2 ^ 64 }

/-- `on_upstream_error` -/
def onUpstreamError (m : GatewayMetrics) : GatewayMetrics :=
  { m with upstreamErrors := (m.upstreamErrors + 1) % 2 ^ 64 }

/-- `on_filter_reject` -/
def onFilterReject (m : GatewayMetrics) : GatewayMetrics :=
  { m with filterRejects := (m.filterRejects + 1) % 2 ^ 64 }

/-- `render_plain` -/
def renderPlain (m : GatewayMetrics) : Bytes :=
  ascii "total_requests " ++ Text.toDecimal m.totalRequests ++ [lf] ++
    ascii "upstream_errors " ++ Text.toDecimal m.upstreamErrors ++ [lf] ++
    ascii "filter_rejects " ++ Text.toDecimal m.filterRejects ++ [lf]

end GatewayMetrics

/-- The singletons that serve all connections. -/
structure Gateway (A : Type*) where
  config : GatewayConfig A
  filters : GatewayFilterChain
  metrics : GatewayMetrics
  /-- `s_index` of the router. -/
  index : ℕ

/-- Everything `process` gets from outside. -/
structure Surroundings (A : Type*) where
  ssl : OpenSsl
  lookup : Bytes → Option A
  /-- `Address::toString` -/
  toString : A → Bytes
  /-- The file at the configuration's path. -/
  configFile : Option Bytes
  /-- `toString` of the client's address, if it has one. -/
  remoteAddress : Option Bytes
  clocks : Clocks
  /-- Whether the socket cached for the upstream is connected. -/
  cachedConnected : Bool
  /-- Whether a new socket can be created and connected. -/
  connects : Bool
  upstreamSends : List ℤ
  upstreamRecvs : List Bytes
  clientSends : List ℤ

/-- What a call of `process` has done, and what it returns. -/
structure Processed (A : Type*) where
  result : Bool
  conn : GatewayConn
  gateway : Gateway A
  toUpstream : Bytes
  toClient : Bytes

namespace GatewayConn

variable {A : Type*}

/-- `get_upstream_socket`: the key of the socket and the keys of `m_upstreams` afterwards, `none`
for a null pointer. -/
def getUpstreamSocket (env : Surroundings A) (addr : Option A) (upstreams : List Bytes) :
    Option (Bytes × List Bytes) :=
  match addr with
  | none => none
  | some addr =>
    let key := env.toString addr
    let known := upstreams.contains key
    if known && env.cachedConnected then some (key, upstreams)
    else if env.connects then some (key, if known then upstreams else key :: upstreams)
    else none

/-- A call of `process` that ends with an answer of the gateway's own. -/
def respond (env : Surroundings A) (conn : GatewayConn) (gateway : Gateway A)
    (toUpstream : Bytes) (status : ℤ) (body : Bytes) : Processed A :=
  let response := simpleResponse status (HttpStatus.statusText status) body
  ⟨false, conn, gateway, toUpstream, (sendAll env.clientSends response).1⟩

/-- The end of `process`, for a request that no filter has rejected. -/
def forward (env : Surroundings A) (conn : GatewayConn) (gateway : Gateway A)
    (request path : Bytes) : Processed A :=
  let (addr, index) := gateway.config.pickUpstream env.lookup gateway.index path
  let gateway := { gateway with index }
  match getUpstreamSocket env addr conn.upstreams with
  | none =>
    respond env conn gateway [] HttpStatus.badGateway (ascii "no upstream available\n")
  | some (_, upstreams) =>
    let conn := { conn with upstreams }
    let (sent, ok, _) := sendAll env.upstreamSends request
    if ok then ⟨false, conn, gateway, sent, relay env.upstreamRecvs env.clientSends⟩
    else
      let gateway := { gateway with metrics := gateway.metrics.onUpstreamError }
      respond env conn gateway sent HttpStatus.badGateway (ascii "send to upstream failed\n")

/-- The part of `process` that applies the filters. -/
def filtered (env : Surroundings A) (conn : GatewayConn) (gateway : Gateway A)
    (request method path version : Bytes) : Processed A :=
  let ctx : GatewayRequestContext :=
    { method, path, version, clientAddress := env.remoteAddress.getD [], rawRequest := request }
  let (verdict, filters) := gateway.filters.apply env.ssl gateway.config ctx env.clocks
  let gateway := { gateway with filters }
  match verdict with
  | .pass => forward env conn gateway request path
  | .reject status body =>
    let gateway := { gateway with metrics := gateway.metrics.onFilterReject }
    respond env conn gateway [] (if status = 0 then HttpStatus.forbidden else status)
      (if body = [] then ascii "forbidden\n" else body)

/-- `process` -/
def process (env : Surroundings A) (conn : GatewayConn) (gateway : Gateway A) : Processed A :=
  let request := conn.request
  let conn := { conn with request := [], readIdx := 0 }
  let gateway := { gateway with metrics := gateway.metrics.onRequest }
  match parseRequestLine request with
  | none =>
    respond env conn gateway [] HttpStatus.badRequest (ascii "invalid request line\n")
  | some (method, path, version) =>
    if (ascii "/__admin/metrics").isPrefixOf path then
      respond env conn gateway [] HttpStatus.ok gateway.metrics.renderPlain
    else if (ascii "/__admin/reload").isPrefixOf path then
      let (ok, config, cache) :=
        gateway.config.reload gateway.filters.cache env.lookup env.configFile
      let gateway := { gateway with config, filters := { gateway.filters with cache } }
      if ok then respond env conn gateway [] HttpStatus.ok (ascii "reload ok\n")
      else respond env conn gateway [] HttpStatus.internalError (ascii "reload failed\n")
    else if conn.oversize then
      respond env conn gateway [] HttpStatus.payloadTooLarge (ascii "body too large\n")
    else filtered env conn gateway request method path version

end GatewayConn

end CoroutineGateway
