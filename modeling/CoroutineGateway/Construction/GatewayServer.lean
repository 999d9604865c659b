import CoroutineGateway.Construction.Forwarding
import CoroutineGateway.Construction.ReadOnce
import Mathlib.Logic.Function.Basic

/-!
# The server

`gateway_server` (`server/gateway_server.cpp`): the configuration it starts with, and the handlers
of its clients, each of which reads a request and processes it.

The handlers are fibers that share the singletons.  A handler that waits in a system call lets the
others go on, so that between two `recv`s, or between two `send`s, the configuration may be another
one.  `GatewayServer.machine` has the handlers of a server with one worker thread, which take turns
at their system calls and nowhere else: a step is what a handler does with the result of a call, up
to the next one.  What `process` does up to its first call on an upstream is one step, with the
result of `connect`, of which the others see nothing; so are the `send`s of an answer of the
gateway's own, which come last.  The request and the upstream's answer are passed on call by call,
as `Construction/Forwarding.lean` has it.

`process` never returns true (`GatewayConn.process_result`), so a handler leaves its loop after one
request.
-/

namespace CoroutineGateway

variable {A : Type*}

/-- `set_config_path` -/
def GatewayConfig.setConfigPath (cfg : GatewayConfig A) (path : Bytes) : GatewayConfig A :=
  { cfg with configPath := path }

namespace Gateway

/-- The singletons before `main` does anything with them. -/
def init : Gateway A := ⟨.init, .init, .init, 0⟩

/-- `set_config_path` and `load_from_file` -/
def load (g : Gateway A) (lookup : Bytes → Option A) (path : Bytes) (file : Option Bytes) :
    Gateway A :=
  let (_, config, cache) :=
    (g.config.setConfigPath path).loadFromFile g.filters.cache lookup path file
  { g with config, filters := { g.filters with cache } }

/-- The constructor of `gateway_server`.  Of a path `files` says whether there is a file, and what
is read from it, unless it cannot be opened. -/
def start (lookup : Bytes → Option A) (files : Bytes → Option (Option Bytes)) : Gateway A :=
  match files (ascii "../../conf/gateway.conf") with
  | some file => init.load lookup (ascii "../../conf/gateway.conf") file
  | none =>
    match files (ascii "../conf/gateway.conf") with
    | some file => init.load lookup (ascii "../conf/gateway.conf") file
    | none => init

/-- The singletons when `process` has a socket to the upstream: the request has been counted, and
has passed the filters and the router. -/
def forwarding (env : Surroundings A) (conn : GatewayConn) (g : Gateway A) : Gateway A :=
  match GatewayConn.parseRequestLine conn.request with
  | none => g
  | some (method, path, version) =>
    let ctx : GatewayRequestContext :=
      { method, path, version, clientAddress := env.remoteAddress.getD []
        rawRequest := conn.request }
    { g with
      metrics := g.metrics.onRequest
      filters := (g.filters.apply env.ssl g.config ctx env.clocks).2
      index := (g.config.pickUpstream env.lookup g.index path).2 }

/-- What a system call of `process` does to the singletons: a `send` to the upstream that fails is
counted. -/
def afterCall (g : Gateway A) : ForwardAction → Gateway A
  | .upstreamSend n => if n ≤ 0 then { g with metrics := g.metrics.onUpstreamError } else g
  | _ => g

end Gateway

lemma GatewayConn.process_result (env : Surroundings A) (conn : GatewayConn) (g : Gateway A) :
    (process env conn g).result = false := by
  simp only [process, filtered, forward]
  repeat' split
  all_goals rfl

/-- A call of `process`, with what it finds: `gateway` are the singletons when it begins. -/
structure ServerCall (A : Type*) where
  env : Surroundings A
  conn : GatewayConn
  gateway : Gateway A

/-- Where the handler of a client stands. -/
inductive HandlerState (A : Type*) where
  | absent
  /-- The client was not valid. -/
  | rejected
  /-- In `read_once`, at a `recv` or at its return. -/
  | reading (r : GatewayConn.Reading)
  /-- In `process`, with a socket to the upstream, after `calls`. -/
  | forwarding (call : ServerCall A) (calls : List ForwardAction) (f : Forwarding)
  /-- `process` has answered by itself. -/
  | answered (call : ServerCall A) (p : Processed A)

/-- The handler of a client. -/
structure ClientHandler (A : Type*) where
  /-- The client when it came, with the results that the calls of `recv` have had since. -/
  client : Client
  /-- What `max_body_size()` was at the last `recv` over the headers. -/
  limit : ℤ
  state : HandlerState A

namespace ClientHandler

def init : ClientHandler A := ⟨⟨false, [], []⟩, 0, .absent⟩

/-- The call of `process` that the handler has made. -/
def call (h : ClientHandler A) : Option (ServerCall A) :=
  match h.state with
  | .forwarding call _ _ | .answered call _ => some call
  | _ => none

/-- What an upstream has been sent. -/
def toUpstream (h : ClientHandler A) : Bytes :=
  match h.state with
  | .forwarding _ _ f => f.toUpstream
  | .answered _ p => p.toUpstream
  | _ => []

/-- What the client has been sent. -/
def toClient (h : ClientHandler A) : Bytes :=
  match h.state with
  | .forwarding _ _ f => f.toClient
  | .answered _ p => p.toClient
  | _ => []

/-- `handleClient` up to the first `recv`. -/
def handleClient (maxBody : ℤ) (client : Client) : ClientHandler A where
  client := { client with results := [] }
  limit := maxBody
  state :=
    if client.valid then .reading (GatewayConn.Reading.start maxBody .init client) else .rejected

/-- A `recv` of `read_once` returns `n`. -/
def recv (h : ClientHandler A) (maxBody n : ℤ) (r r' : GatewayConn.Reading) : ClientHandler A where
  client := { h.client with results := h.client.results ++ [n] }
  limit := if r.pc = .headers then maxBody else h.limit
  state := .reading r'

end ClientHandler

/-- The server, with the handler of each client. -/
structure GatewayServer (A : Type*) where
  gateway : Gateway A
  handler : ℕ → ClientHandler A

/-- The steps; `o` is the handler that takes one. -/
inductive ServerAction (A : Type*) where
  | handleClient (o : ℕ) (client : Client)
  /-- A `recv` of `read_once` returns. -/
  | recv (o : ℕ) (n : ℤ)
  /-- `read_once` has returned true, and `process` gets to an upstream or to its end. -/
  | process (o : ℕ) (env : Surroundings A)
  /-- A later system call of `process` returns. -/
  | call (o : ℕ) (a : ForwardAction)

namespace GatewayServer

/-- The constructor. -/
def start (lookup : Bytes → Option A) (files : Bytes → Option (Option Bytes)) : GatewayServer A :=
  ⟨Gateway.start lookup files, fun _ => .init⟩

/-- The handler `o` goes on to `h`. -/
def setHandler (s : GatewayServer A) (o : ℕ) (h : ClientHandler A) : GatewayServer A :=
  { s with handler := Function.update s.handler o h }

/-- `process` up to its first call on the upstream, or to its end. -/
def process (s : GatewayServer A) (o : ℕ) (env : Surroundings A) (conn : GatewayConn) :
    GatewayServer A :=
  let call : ServerCall A := ⟨env, conn, s.gateway⟩
  match Forwarding.start env conn s.gateway with
  | some f =>
    { s.setHandler o { s.handler o with state := .forwarding call [] f } with
      gateway := s.gateway.forwarding env conn }
  | none =>
    let p := GatewayConn.process env conn s.gateway
    { s.setHandler o { s.handler o with state := .answered call p } with gateway := p.gateway }

/-- The handlers of one worker thread. -/
def machine : Machine (GatewayServer A) (ServerAction A) where
  step s
    | .handleClient o client =>
      match (s.handler o).state with
      | .absent => some (s.setHandler o (.handleClient s.gateway.config.maxBodySize client))
      | _ => none
    | .recv o n =>
      match (s.handler o).state with
      | .reading r =>
        (r.step s.gateway.config.maxBodySize n).map fun r' =>
          s.setHandler o ((s.handler o).recv s.gateway.config.maxBodySize n r r')
      | _ => none
    | .process o env =>
      match (s.handler o).state with
      | .reading ⟨.returned true, conn, _⟩ => some (s.process o env conn)
      | _ => none
    | .call o a =>
      match (s.handler o).state with
      | .forwarding call calls f =>
        (Forwarding.machine.step f a).map fun f' =>
          { s.setHandler o { s.handler o with state := .forwarding call (calls ++ [a]) f' } with
            gateway := s.gateway.afterCall a }
      | _ => none

end GatewayServer

end CoroutineGateway
