import CoroutineGateway.Construction.GatewayServer
import CoroutineGateway.Framework.Machine
import Mathlib.Logic.Function.Basic

/-!
# The connections' slots

The handlers of the gateway's clients (`gateway_server::handleClient`, `server/gateway_server.cpp`)
share an array of `gateway_conn`s, in which each takes the entry at the number of its client's
descriptor.  `ConnectionSlots` is the machine of the handlers, the `Socket`s and the descriptors
that are open for them.  Nothing locks the array, and the handlers run on several threads: each of
them tests `g_conns`, allocates the array and uses its entry in separate steps, and reads the
pointer anew for every call.

What a handler reads and forwards is the subject of `Construction/GatewayServer.lean`; here
`readOnce` and `connect` carry their outcome, and `process` is the steps in which it uses sockets.
As it always returns false (`GatewayConn.process_result`), a handler calls it once.

`::close` and the assignment to `m_sock` after it are two steps where the client is closed, as the
descriptor may be given away in between.  A socket that is closed elsewhere is known to one handler
only.  A `Socket` is closed before its last pointer goes, so that its destructor does nothing.
-/

namespace CoroutineGateway

/-- `GW_MAX_FD` -/
def GW_MAX_FD : ℕ := 65536

/-- `Socket`: `m_sock`, with `none` for -1, and `m_isConnected`. -/
structure Socket where
  sock : Option ℕ
  isConnected : Bool

/-- The sockets of a `gateway_conn`, by number. -/
structure ConnSlot (K : Type*) where
  client : Option ℕ
  upstreams : List (K × ℕ)

/-- Where a handler is, with the array `a`, the entry `d` of it and the upstream's socket `u` that
it holds there. -/
inductive HandlerPhase (K : Type*) where
  | absent
  /-- At `if (!client->isValid())` -/
  | start
  /-- At `if (!g_conns)` -/
  | testing
  /-- At `g_conns = new gateway_conn[GW_MAX_FD]` -/
  | allocating
  /-- At `g_conns[client_socket].init(client)` -/
  | initializing
  /-- At `while (client->isConnected())` -/
  | looping (d : ℕ)
  /-- In `read_once` -/
  | reading (a d : ℕ)
  /-- At `g_conns[client_socket].process()` -/
  | complete (d : ℕ)
  /-- In `process`, before anything is sent -/
  | processing (a d : ℕ)
  /-- In `get_upstream_socket`, at `sock->connect(addr, cto)` -/
  | connecting (a d : ℕ) (k : K) (u : ℕ)
  /-- In `process`, passing on the upstream's answer, or sending one of the gateway's own -/
  | answering (a d : ℕ) (u : Option ℕ)
  /-- At `client->close()` -/
  | closing
  /-- In `client->close()`, after `::close(m_sock)` -/
  | closed
  | finished

/-- The gateway's sockets and handlers.  A handler has the number of its client's socket. -/
structure ConnectionSlots (K : Type*) where
  /-- How many sockets have been made. -/
  made : ℕ
  socket : ℕ → Socket
  /-- The socket for which a descriptor is open. -/
  files : ℕ → Option ℕ
  phase : ℕ → HandlerPhase K
  /-- How many arrays have been allocated. -/
  arrays : ℕ
  /-- `g_conns` -/
  conns : Option ℕ
  /-- The entries of the arrays. -/
  slots : ℕ × ℕ → ConnSlot K
  /-- An entry was used that the array does not have. -/
  outOfBounds : Bool

/-- The atomic steps; `o` is the handler that takes one. -/
inductive SlotAction (K : Type*) where
  /-- `Socket::accept` in `TcpServer::startAccept`, with the new descriptor -/
  | accept (d : ℕ)
  | isValid (o : ℕ)
  | testConns (o : ℕ)
  | allocate (o : ℕ)
  | initConn (o : ℕ)
  | isConnected (o : ℕ)
  | readOnce (o : ℕ) (ok : Bool)
  | process (o : ℕ)
  /-- `process` answers by itself, before it asks for an upstream. -/
  | respond (o : ℕ)
  /-- `get_upstream_socket` up to `newSock`, with the new descriptor; `none` also stands for a path
  that has no upstream. -/
  | getUpstreamSocket (o : ℕ) (k : K) (e : Option ℕ)
  | connect (o : ℕ) (ok : Bool)
  | processEnd (o : ℕ)
  | close (o : ℕ)
  | closeEnd (o : ℕ)

namespace ConnectionSlots

variable {K : Type*}

def init : ConnectionSlots K where
  made := 0
  socket _ := ⟨none, false⟩
  files _ := none
  phase _ := .absent
  arrays := 0
  conns := none
  slots _ := ⟨none, []⟩
  outOfBounds := false

/-- The handler `o` goes on to `p`. -/
def goto (s : ConnectionSlots K) (o : ℕ) (p : HandlerPhase K) : ConnectionSlots K :=
  { s with phase := Function.update s.phase o p }

/-- A new socket with the descriptor `d`. -/
def newSocket (s : ConnectionSlots K) (d : ℕ) (isConnected : Bool) : ConnectionSlots K :=
  { s with
    made := s.made + 1
    socket := Function.update s.socket s.made ⟨some d, isConnected⟩
    files := Function.update s.files d (some s.made) }

/-- `Socket::close` -/
def close (s : ConnectionSlots K) (u : ℕ) : ConnectionSlots K :=
  { s with
    socket := Function.update s.socket u ⟨none, false⟩
    files :=
      match (s.socket u).sock with
      | none => s.files
      | some e => Function.update s.files e none }

/-- The loop of `gateway_conn::init` that closes the upstreams' sockets. -/
def closeUpstreams (s : ConnectionSlots K) (upstreams : List (K × ℕ)) : ConnectionSlots K :=
  upstreams.foldl (fun s kv => if (s.socket kv.2).isConnected then s.close kv.2 else s) s

/-- `gateway_conn::init` -/
def initConn (s : ConnectionSlots K) (o a d : ℕ) : ConnectionSlots K :=
  { s.closeUpstreams (s.slots (a, d)).upstreams with
    slots := Function.update s.slots (a, d) ⟨some o, []⟩
    outOfBounds := s.outOfBounds || decide (GW_MAX_FD ≤ d) }

variable [DecidableEq K]

/-- The socket of the upstream `k` that the entry has, if it is connected. -/
def connected (s : ConnectionSlots K) (a d : ℕ) (k : K) : Option ℕ :=
  ((s.slots (a, d)).upstreams.lookup k).filter fun u => (s.socket u).isConnected

/-- The end of `Socket::connect`, and `m_upstreams[key] = ent`. -/
def store (s : ConnectionSlots K) (a d : ℕ) (k : K) (u : ℕ) : ConnectionSlots K :=
  let slot := s.slots (a, d)
  { s with
    socket := Function.update s.socket u { s.socket u with isConnected := true }
    slots := Function.update s.slots (a, d)
      { slot with upstreams := (k, u) :: slot.upstreams.filter fun kv => kv.1 ≠ k } }

/-- The machine of the handlers.  A null pointer that is followed and the index -1 are `none`. -/
def machine : Machine (ConnectionSlots K) (SlotAction K) where
  step s
    | .accept d =>
      if s.files d = none then some ((s.newSocket d true).goto s.made .start) else none
    | .isValid o =>
      match s.phase o with
      | .start => some (s.goto o (if (s.socket o).sock.isSome then .testing else .closing))
      | _ => none
    | .testConns o =>
      match s.phase o with
      | .testing => some (s.goto o (if s.conns.isNone then .allocating else .initializing))
      | _ => none
    | .allocate o =>
      match s.phase o with
      | .allocating =>
        some { s.goto o .initializing with conns := some s.arrays, arrays := s.arrays + 1 }
      | _ => none
    | .initConn o =>
      match s.phase o, s.conns, (s.socket o).sock with
      | .initializing, some a, some d => some ((s.initConn o a d).goto o (.looping d))
      | _, _, _ => none
    | .isConnected o =>
      match s.phase o, s.conns with
      | .looping d, some a =>
        some (s.goto o (if (s.socket o).isConnected then .reading a d else .closing))
      | _, _ => none
    | .readOnce o ok =>
      match s.phase o with
      | .reading a d =>
        -- an entry without a client, or with one that is closed, reads nothing
        let valid := ((s.slots (a, d)).client.bind fun c => (s.socket c).sock).isSome
        if ok && !valid then none else some (s.goto o (if ok then .complete d else .closing))
      | _ => none
    | .process o =>
      match s.phase o, s.conns with
      | .complete d, some a => some (s.goto o (.processing a d))
      | _, _ => none
    | .respond o =>
      match s.phase o with
      | .processing a d => some (s.goto o (.answering a d none))
      | _ => none
    | .getUpstreamSocket o k e =>
      match s.phase o with
      | .processing a d =>
        match s.connected a d k, e with
        | some u, _ => some (s.goto o (.answering a d (some u)))
        | none, none => some (s.goto o (.answering a d none))
        | none, some e =>
          if s.files e = none then
            some ((s.newSocket e false).goto o (.connecting a d k s.made))
          else none
      | _ => none
    | .connect o ok =>
      match s.phase o with
      | .connecting a d k u =>
        some (if ok then (s.store a d k u).goto o (.answering a d (some u))
          else (s.close u).goto o (.answering a d none))
      | _ => none
    | .processEnd o =>
      match s.phase o with
      | .answering _ _ _ => some (s.goto o .closing)
      | _ => none
    | .close o =>
      match s.phase o, (s.socket o).sock with
      | .closing, some d =>
        some { s.goto o .closed with
          socket := Function.update s.socket o ⟨some d, false⟩
          files := Function.update s.files d none }
      | .closing, none => some (s.goto o .closed)
      | _, _ => none
    | .closeEnd o =>
      match s.phase o with
      | .closed =>
        some { s.goto o .finished with socket := Function.update s.socket o ⟨none, false⟩ }
      | _ => none

end ConnectionSlots

end CoroutineGateway
