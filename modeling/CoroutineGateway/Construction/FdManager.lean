import CoroutineGateway.Framework.SlotTable
import Mathlib.Algebra.Order.Ring.Int

/-!
# The timeouts of descriptors

`FdCtx` and `FdManager` (`CoroutineLibrary/fd_manager.cpp`), the hooked `setsockopt` and `close`
(`hook.cpp`) as far as they go there, and the four functions of `Socket` (`util/socket.cc`) that
set and read a timeout.  Hooks are enabled.

A `std::shared_ptr<FdCtx>` is a number: the count of contexts made before.  A descriptor is not
negative, and one that fits in an `int` times `1.5` is exact as a `double`.  The kernel is left
out, save what `fstat` tells the constructor of `FdCtx`.
-/

namespace CoroutineGateway

/-- `SO_RCVTIMEO` and `SO_SNDTIMEO`, of the level `SOL_SOCKET`; `setsockopt` has nothing to do for
any other option. -/
inductive TimeoutOption where
  | rcvTimeo
  | sndTimeo
  deriving DecidableEq

/-- `struct timeval` -/
structure Timeval where
  tvSec : ℤ
  tvUsec : ℤ

/-- The milliseconds that `setsockopt` makes of it, as a `uint64_t`. -/
def Timeval.millis (v : Timeval) : ℕ :=
  ((v.tvSec * 1000 + v.tvUsec.tdiv 1000) % 2 ^ 64).toNat

/-- `struct timeval tv{int(v / 1000), int(v % 1000 * 1000)}` -/
def Timeval.ofMillis (v : ℤ) : Timeval :=
  ⟨(v.tdiv 1000).bmod (2 ^ 32), (v.tmod 1000 * 1000).bmod (2 ^ 32)⟩

/-- The conversion of a `uint64_t` to `int64_t`. -/
def toInt64 (v : ℕ) : ℤ := if v < 2 ^ 63 then v else v - 2 ^ 64

namespace FdManager

/-- `FdCtx` -/
structure Ctx where
  isInit : Bool
  isSocket : Bool
  sysNonblock : Bool
  userNonblock : Bool
  isClosed : Bool
  fd : ℕ
  recvTimeout : ℕ
  sendTimeout : ℕ

namespace Ctx

/-- `FdCtx(int fd)`; `fstat` is `none` where `fstat` fails, and else whether the file is a
socket. -/
def new (fd : ℕ) (fstat : Option Bool) : Ctx where
  isInit := fstat.isSome
  isSocket := fstat.getD false
  sysNonblock := fstat.getD false
  userNonblock := false
  isClosed := false
  fd
  recvTimeout := 2 ^ 64 - 1
  sendTimeout := 2 ^ 64 - 1

/-- `setTimeout` -/
def setTimeout (c : Ctx) (type : TimeoutOption) (v : ℕ) : Ctx :=
  if type = .rcvTimeo then { c with recvTimeout := v } else { c with sendTimeout := v }

/-- `getTimeout` -/
def getTimeout (c : Ctx) (type : TimeoutOption) : ℕ :=
  if type = .rcvTimeo then c.recvTimeout else c.sendTimeout

end Ctx

end FdManager

/-- `FdManager` -/
structure FdManager where
  /-- `m_datas` -/
  datas : List (Option ℕ)
  /-- What the pointers point to. -/
  heap : List FdManager.Ctx
  /-- An index outside `m_datas` was used. -/
  outOfRange : Bool

namespace FdManager

/-- `FdManager()` -/
def init : FdManager := ⟨SlotTable.resize [] 64, [], false⟩

/-- The use of an index. -/
def index (s : FdManager) (fd : ℕ) : FdManager :=
  { s with outOfRange := s.outOfRange || decide (s.datas.length ≤ fd) }

/-- `m_datas[fd]`, read. -/
def read (s : FdManager) (fd : ℕ) : Option ℕ × FdManager :=
  (SlotTable.entry s.datas fd, s.index fd)

/-- `m_datas[fd]`, written. -/
def write (s : FdManager) (fd : ℕ) (p : Option ℕ) : FdManager :=
  { s.index fd with datas := s.datas.set fd p }

/-- `m_datas.resize(fd*1.5)`, if the vector is too small. -/
def grow (s : FdManager) (fd : ℕ) : FdManager :=
  if s.datas.length ≤ fd then { s with datas := SlotTable.resize s.datas (fd * 3 / 2) } else s

/-- The part of `get` under the write lock. -/
def create (s : FdManager) (fd : ℕ) (fstat : Option Bool) : Option ℕ × FdManager :=
  let s := s.grow fd
  let s := { s.write fd (some s.heap.length) with heap := s.heap ++ [Ctx.new fd fstat] }
  s.read fd

/-- `get` -/
def get (s : FdManager) (fd : ℕ) (autoCreate : Bool) (fstat : Option Bool) :
    Option ℕ × FdManager :=
  if s.datas.length ≤ fd then
    if autoCreate = false then (none, s) else s.create fd fstat
  else
    let r := s.read fd
    if r.1.isSome ∨ autoCreate = false then r else r.2.create fd fstat

/-- `get(fd)` -/
def lookup (s : FdManager) (fd : ℕ) : Option ℕ × FdManager := s.get fd false none

/-- `del` -/
def del (s : FdManager) (fd : ℕ) : FdManager :=
  if s.datas.length ≤ fd then s else s.write fd none

/-! ## The hooks -/

/-- `setsockopt` -/
def setsockopt (s : FdManager) (fd : ℕ) (optname : TimeoutOption) (optval : Timeval) :
    FdManager :=
  let r := s.lookup fd
  match r.1 with
  | some p => { r.2 with heap := r.2.heap.modify p (·.setTimeout optname optval.millis) }
  | none => r.2

/-- `close` -/
def close (s : FdManager) (fd : ℕ) : FdManager :=
  let r := s.lookup fd
  if r.1.isSome then r.2.del fd else r.2

/-! ## `Socket` -/

/-- `setSendTimeout` and `setRecvTimeout`. -/
def setTimeout (type : TimeoutOption) (s : FdManager) (sock : ℕ) (v : ℤ) : FdManager :=
  s.setsockopt sock type (Timeval.ofMillis v)

/-- `getSendTimeout` and `getRecvTimeout`. -/
def getTimeout (type : TimeoutOption) (s : FdManager) (sock : ℕ) : ℤ × FdManager :=
  let r := s.lookup sock
  match r.1.bind fun p => r.2.heap[p]? with
  | some c => (toInt64 (c.getTimeout type), r.2)
  | none => (-1, r.2)

/-- `setSendTimeout` -/
def setSendTimeout : FdManager → ℕ → ℤ → FdManager := setTimeout .sndTimeo

/-- `setRecvTimeout` -/
def setRecvTimeout : FdManager → ℕ → ℤ → FdManager := setTimeout .rcvTimeo

/-- `getSendTimeout` -/
def getSendTimeout : FdManager → ℕ → ℤ × FdManager := getTimeout .sndTimeo

/-- `getRecvTimeout` -/
def getRecvTimeout : FdManager → ℕ → ℤ × FdManager := getTimeout .rcvTimeo

end FdManager

/-- A timeout that fits in the seconds of a `struct timeval`. -/
abbrev Millis := {v : ℤ // 0 ≤ v ∧ v < 2 ^ 31 * 1000}

/-- What is done with a descriptor. -/
inductive FdOp where
  /-- The kernel has opened the descriptor, and `get(fd, true)` is called. -/
  | create (fd : ℕ) (fstat : Option Bool)
  | setSendTimeout (fd : ℕ) (v : Millis)
  | setRecvTimeout (fd : ℕ) (v : Millis)
  | getSendTimeout (fd : ℕ)
  | getRecvTimeout (fd : ℕ)
  | close (fd : ℕ)

/-- The descriptor of an operation. -/
def FdOp.fd : FdOp → ℕ
  | create fd _ => fd
  | setSendTimeout fd _ => fd
  | setRecvTimeout fd _ => fd
  | getSendTimeout fd => fd
  | getRecvTimeout fd => fd
  | close fd => fd

/-- The effect of an operation. -/
def FdManager.apply (s : FdManager) : FdOp → FdManager
  | .create fd fstat => (s.get fd true fstat).2
  | .setSendTimeout fd v => s.setSendTimeout fd v
  | .setRecvTimeout fd v => s.setRecvTimeout fd v
  | .getSendTimeout fd => (s.getSendTimeout fd).2
  | .getRecvTimeout fd => (s.getRecvTimeout fd).2
  | .close fd => s.close fd

end CoroutineGateway
