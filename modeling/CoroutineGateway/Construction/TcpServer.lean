import CoroutineGateway.Framework.Machine
import Mathlib.Data.List.Range

/-!
# The accept loops of `TcpServer`

`start` schedules one fiber with `startAccept` for every socket in `m_socks`, and `stop` sets
`m_isStop` and schedules one that closes and drops the sockets (`server/tcp_server.cc`).  A loop
tests `m_isStop` only between two calls of `accept`, so that it goes on for a while after `stop`.

The tasks of `m_acceptWorker` are taken in any order, as several workers do.  What `accept` returns
is up to the environment, but for a closed socket it is an error.  The sockets are numbered in the
order in which `bind` makes them; the timeout that a client is given, SSL and the log are left out.
-/

namespace CoroutineGateway

/-- Where a fiber stands in `TcpServer::startAccept`, for clients `K`. -/
inductive AcceptPc (K : Type*) where
  /-- Before the test of `m_isStop`. -/
  | test
  /-- In `sock->accept()`. -/
  | accept
  /-- `accept` has returned a client, which is not scheduled yet. -/
  | schedule (client : K)

/-- The tasks that `TcpServer` gives to `m_acceptWorker`. -/
inductive AcceptTask where
  | startAccept (sock : ℕ)
  /-- The function that `stop` schedules. -/
  | closeSocks
  deriving DecidableEq

/-- A server, with the fibers that accept its clients. -/
structure TcpServer (K : Type*) where
  /-- `m_isStop` -/
  isStop : Bool
  /-- `m_socks` -/
  socks : List ℕ
  /-- The number of the sockets made by `bind`. -/
  made : ℕ
  /-- The sockets that the function of `stop` has closed. -/
  closed : List ℕ
  /-- What is queued for `m_acceptWorker`. -/
  tasks : List AcceptTask
  /-- The fibers in `startAccept`, each with its socket. -/
  loops : List (ℕ × AcceptPc K)
  /-- The clients that `accept` has returned, in order. -/
  accepted : List (ℕ × K)
  /-- The clients for which `handleClient` was scheduled, in order. -/
  handed : List (ℕ × K)

/-- The steps. -/
inductive TcpServerAction (K : Type*) where
  /-- `bind`; whether `bind` and `listen` succeed on the socket for each address. -/
  | bind (oks : List Bool)
  | start
  | stop
  /-- A task is taken from the queue of `m_acceptWorker`. -/
  | run (i : ℕ)
  /-- The test of `m_isStop` in a loop. -/
  | test (i : ℕ)
  /-- `accept` returns, with a client or with an error. -/
  | accept (i : ℕ) (client : Option K)
  /-- `handleClient` is scheduled for the client. -/
  | schedule (i : ℕ)

namespace TcpServer

variable {K : Type*}

/-- After the construction. -/
def init : TcpServer K := ⟨true, [], 0, [], [], [], [], []⟩

/-- `TcpServer::bind`: the socket is kept where all went well, and if there is a failure then all
sockets are dropped, with those of earlier calls. -/
def bind (s : TcpServer K) (oks : List Bool) : TcpServer K :=
  { s with
    socks := if oks.all id then s.socks ++ List.range' s.made oks.length else []
    made := s.made + oks.length }

/-- `TcpServer::start` -/
def start (s : TcpServer K) : TcpServer K :=
  if s.isStop then
    { s with isStop := false, tasks := s.tasks ++ s.socks.map .startAccept }
  else s

/-- `TcpServer::stop` -/
def stop (s : TcpServer K) : TcpServer K :=
  { s with isStop := true, tasks := s.tasks ++ [.closeSocks] }

/-- A task begins. -/
def begin (s : TcpServer K) : AcceptTask → TcpServer K
  | .startAccept sock => { s with loops := s.loops ++ [(sock, .test)] }
  | .closeSocks => { s with closed := s.closed ++ s.socks, socks := [] }

/-- The machine of the server. -/
def machine : Machine (TcpServer K) (TcpServerAction K) where
  step s
    | .bind oks => some (s.bind oks)
    | .start => some s.start
    | .stop => some s.stop
    | .run i => s.tasks[i]?.map fun t => { s with tasks := s.tasks.eraseIdx i }.begin t
    | .test i =>
      match s.loops[i]? with
      | some (sock, .test) =>
        some { s with
          loops := if s.isStop then s.loops.eraseIdx i else s.loops.set i (sock, .accept) }
      | _ => none
    | .accept i client =>
      match s.loops[i]?, client with
      | some (sock, .accept), none => some { s with loops := s.loops.set i (sock, .test) }
      | some (sock, .accept), some client =>
        if sock ∈ s.closed then none
        else
          some { s with
            loops := s.loops.set i (sock, .schedule client)
            accepted := s.accepted ++ [(sock, client)] }
      | _, _ => none
    | .schedule i =>
      match s.loops[i]? with
      | some (sock, .schedule client) =>
        some { s with
          loops := s.loops.set i (sock, .test), handed := s.handed ++ [(sock, client)] }
      | _ => none

end TcpServer

end CoroutineGateway
