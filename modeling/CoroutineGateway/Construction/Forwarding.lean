import CoroutineGateway.Construction.GatewayConn
import CoroutineGateway.Framework.Machine

/-!
# Passing a request on, call by call

The end of `gateway_conn::process` (`server/gateway_conn.cpp`), from the test on `upstream` on: the
loop that sends the request, `send_simple_response` where that fails, and the two loops that pass
the answer on.  A step is a system call with its result, so that a run can be looked at between any
two calls, and an upstream can answer without end.  A result larger than what was offered is no
step.

A position in a buffer stands for the pointer to it.  The totals, which are only logged, are left
out.
-/

namespace CoroutineGateway

/-- Where the call of `process` stands. -/
inductive ForwardPc where
  /-- Before `upstream->send(buf, left, 0)`. -/
  | sendRequest (buf left : ℕ)
  /-- Before `m_client->send(buf, left, 0)` of `send_simple_response`. -/
  | sendResponse (buf left : ℕ)
  /-- Before `upstream->recv(buf, sizeof(buf), 0)`. -/
  | receive
  /-- Before `m_client->send(buf + sent, n - sent, 0)`; `chunk` is the `n` bytes in `buf`. -/
  | sendChunk (chunk : Bytes) (sent : ℕ)
  | returned
  deriving DecidableEq

/-- A call of `process` that has got a socket to the upstream. -/
structure Forwarding where
  request : Bytes
  pc : ForwardPc
  /-- What the upstream has accepted. -/
  toUpstream : Bytes
  /-- What the client has accepted. -/
  toClient : Bytes
  deriving DecidableEq

/-- A system call and its result. -/
inductive ForwardAction where
  | upstreamSend (n : ℤ)
  /-- The bytes received, none if the result is not positive. -/
  | upstreamRecv (bytes : Bytes)
  | clientSend (n : ℤ)

namespace Forwarding

open GatewayConn

/-- The size of `buf`. -/
def bufferSize : ℕ := 4096

/-- What `send_simple_response` sends when the upstream does not take the request. -/
def sendFailed : Bytes :=
  simpleResponse HttpStatus.badGateway (HttpStatus.statusText HttpStatus.badGateway)
    (ascii "send to upstream failed\n")

/-- `while (left > 0)`, in the loop that sends the request. -/
def sendingRequest (buf left : ℕ) : ForwardPc :=
  if 0 < left then .sendRequest buf left else .receive

/-- `while (left > 0)` of `send_simple_response`. -/
def sendingResponse (buf left : ℕ) : ForwardPc :=
  if 0 < left then .sendResponse buf left else .returned

/-- `while (sent < n)` -/
def sendingChunk (chunk : Bytes) (sent : ℕ) : ForwardPc :=
  if sent < chunk.length then .sendChunk chunk sent else .receive

/-- There is a socket to the upstream. -/
def init (request : Bytes) : Forwarding := ⟨request, sendingRequest 0 request.length, [], []⟩

/-- A call of `process` up to there; `none` where it ends before. -/
def start {A : Type*} (env : Surroundings A) (conn : GatewayConn) (gateway : Gateway A) :
    Option Forwarding :=
  match parseRequestLine conn.request with
  | none => none
  | some (method, path, version) =>
    if (ascii "/__admin/metrics").isPrefixOf path then none
    else if (ascii "/__admin/reload").isPrefixOf path then none
    else if conn.oversize then none
    else
      let ctx : GatewayRequestContext :=
        { method, path, version, clientAddress := env.remoteAddress.getD []
          rawRequest := conn.request }
      match (gateway.filters.apply env.ssl gateway.config ctx env.clocks).1 with
      | .reject _ _ => none
      | .pass =>
        let addr := (gateway.config.pickUpstream env.lookup gateway.index path).1
        (getUpstreamSocket env addr conn.upstreams).map fun _ => init conn.request

/-- `upstream->send(buf, left, 0)` and what follows. -/
def upstreamSend (s : Forwarding) (buf left : ℕ) (n : ℤ) : Option Forwarding :=
  if n ≤ 0 then some { s with pc := sendingResponse 0 sendFailed.length }
  else if n ≤ left then
    some { s with
      pc := sendingRequest (buf + n.toNat) (left - n.toNat)
      toUpstream := s.toUpstream ++ (s.request.drop buf).take n.toNat }
  else none

/-- `m_client->send(buf, left, 0)` of `send_simple_response`. -/
def sendResponse (s : Forwarding) (buf left : ℕ) (n : ℤ) : Option Forwarding :=
  if n ≤ 0 then some { s with pc := .returned }
  else if n ≤ left then
    some { s with
      pc := sendingResponse (buf + n.toNat) (left - n.toNat)
      toClient := s.toClient ++ (sendFailed.drop buf).take n.toNat }
  else none

/-- `upstream->recv(buf, sizeof(buf), 0)` and what follows. -/
def upstreamRecv (s : Forwarding) (bytes : Bytes) : Option Forwarding :=
  if bytes = [] then some { s with pc := .returned }
  else if bytes.length ≤ bufferSize then some { s with pc := sendingChunk bytes 0 }
  else none

/-- `m_client->send(buf + sent, n - sent, 0)` and what follows; `k` is the `s` of the source. -/
def sendChunk (s : Forwarding) (chunk : Bytes) (sent : ℕ) (k : ℤ) : Option Forwarding :=
  if k ≤ 0 then some { s with pc := .returned }
  else if k ≤ (chunk.length - sent : ℕ) then
    some { s with
      pc := sendingChunk chunk (sent + k.toNat)
      toClient := s.toClient ++ (chunk.drop sent).take k.toNat }
  else none

/-- The calls, in the order `process` makes them. -/
def machine : Machine Forwarding ForwardAction where
  step s a :=
    match s.pc, a with
    | .sendRequest buf left, .upstreamSend n => s.upstreamSend buf left n
    | .sendResponse buf left, .clientSend n => s.sendResponse buf left n
    | .receive, .upstreamRecv bytes => s.upstreamRecv bytes
    | .sendChunk chunk sent, .clientSend k => s.sendChunk chunk sent k
    | _, _ => none

end Forwarding

end CoroutineGateway
