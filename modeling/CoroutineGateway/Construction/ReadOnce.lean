import CoroutineGateway.Construction.GatewayConn
import CoroutineGateway.Framework.Machine

/-!
# The steps of `read_once`

`read_once` (`server/gateway_conn.cpp`) from one `recv` to the next, for what is to hold in the
middle of a call.  The state is the connection at a `recv` or after the return, with what the client
has still to deliver; a step is what the call does with the result of the `recv`, up to the next one
or the return.
-/

namespace CoroutineGateway

namespace GatewayConn

/-- Where a call of `read_once` stands. -/
inductive ReadPc where
  /-- At the `recv` in the loop over the headers. -/
  | headers
  /-- At the `recv` in the loop over the body; `got` is `have`. -/
  | body (got : ℕ)
  | returned (ok : Bool)
  deriving DecidableEq

/-- A call of `read_once`. -/
structure Reading where
  pc : ReadPc
  conn : GatewayConn
  pending : Bytes

namespace Reading

/-- The offset into `m_read_buf` and the length that the `recv` is called with. -/
def window (s : Reading) : Option (ℕ × ℕ) :=
  match s.pc with
  | .headers => some (s.conn.readIdx, READ_BUFFER_SIZE - s.conn.readIdx)
  | .body _ => some (0, READ_BUFFER_SIZE)
  | .returned _ => none

/-- The condition of the loop over the body. -/
def atBody (conn : GatewayConn) (got : ℕ) (pending : Bytes) : Reading :=
  if got < conn.contentLength.toNat then ⟨.body got, conn, pending⟩
  else ⟨.returned true, conn, pending⟩

/-- What follows the loop over the headers. -/
def afterHeaders (maxBody : ℤ) (conn : GatewayConn) (pending : Bytes) : Reading :=
  let conn := { conn with contentLength := parseContentLength conn.request }
  if conn.contentLength > 0 ∧ conn.contentLength > maxBody then
    ⟨.returned true, { conn with oversize := true }, pending⟩
  else if conn.contentLength > 0 then
    let pos := (Seq.find blankLine conn.request).getD 0
    atBody conn (conn.request.length - (pos + 4)) pending
  else ⟨.returned true, conn, pending⟩

/-- The condition of the loop over the headers, and the test at its start. -/
def atHeaders (maxBody : ℤ) (conn : GatewayConn) (pending : Bytes) : Reading :=
  if (Seq.find blankLine conn.request).isSome then afterHeaders maxBody conn pending
  else if READ_BUFFER_SIZE ≤ conn.readIdx then ⟨.returned false, conn, pending⟩
  else ⟨.headers, conn, pending⟩

/-- The call up to its first `recv`. -/
def start (maxBody : ℤ) (conn : GatewayConn) (client : Client) : Reading :=
  if !client.valid then ⟨.returned false, conn, client.pending⟩
  else atHeaders maxBody conn client.pending

/-- The rest of an iteration of the loop over the headers. -/
def gotHeaders (maxBody : ℤ) (conn : GatewayConn) (chunk pending : Bytes) : Reading :=
  if chunk = [] then ⟨.returned false, conn, pending⟩
  else
    let conn : GatewayConn :=
      { conn with
        readIdx := conn.readIdx + chunk.length
        request := conn.request ++ chunk }
    if conn.request.length > 64 * 1024 then ⟨.returned false, conn, pending⟩
    else atHeaders maxBody conn pending

/-- The rest of an iteration of the loop over the body. -/
def gotBody (conn : GatewayConn) (got : ℕ) (chunk pending : Bytes) : Reading :=
  if chunk = [] then ⟨.returned false, conn, pending⟩
  else atBody { conn with request := conn.request ++ chunk } (got + chunk.length) pending

/-- `if (m_read_idx >= READ_BUFFER_SIZE) m_read_idx = 0;` -/
def rewind (conn : GatewayConn) : GatewayConn :=
  if READ_BUFFER_SIZE ≤ conn.readIdx then { conn with readIdx := 0 } else conn

/-- The `recv` returns `n`. -/
def step (maxBody : ℤ) (s : Reading) (n : ℤ) : Option Reading :=
  match s.pc with
  | .headers =>
    (recv (READ_BUFFER_SIZE - s.conn.readIdx) n s.pending).map fun r =>
      gotHeaders maxBody s.conn r.1 r.2
  | .body got =>
    (recv READ_BUFFER_SIZE n s.pending).map fun r => gotBody (rewind s.conn) got r.1 r.2
  | .returned _ => none

end Reading

/-- A call of `read_once`; the actions are the results of the calls of `recv`. -/
def readMachine (maxBody : ℤ) : Machine Reading ℤ := ⟨Reading.step maxBody⟩

end GatewayConn

end CoroutineGateway
