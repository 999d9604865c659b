import CoroutineGateway.Construction.DoIo

/-!
# The status flags of a hooked descriptor

`FdCtx::init` (`fd_manager.cpp`) and the hooked `fcntl` and `ioctl` (`hook.cpp`), as far as the
status flags of one descriptor go.  The kernel keeps one `O_NONBLOCK` for a descriptor.  The
library needs it set on every socket, and the user who has asked for nothing is to see it clear.

What the kernel does with the flags is a parameter: `StatusCalls` says of the three calls only what
they do to `O_NONBLOCK` when they succeed.
-/

namespace CoroutineGateway

/-- `O_NONBLOCK` -/
def oNonblock : BitVec 32 := 0o4000

/-- `flags & O_NONBLOCK`, as a truth value. -/
def nonblock (flags : BitVec 32) : Bool := flags &&& oNonblock != 0

/-- The kernel's calls on the status flags of a descriptor in a state `K`. -/
structure StatusCalls (K : Type*) where
  /-- `fcntl_f(fd, F_GETFL)` -/
  getfl : K → BitVec 32
  /-- `fcntl_f(fd, F_SETFL, arg)`; the flags it does not change are up to the kernel. -/
  setfl : K → BitVec 32 → K
  /-- `ioctl_f(fd, FIONBIO, &value)` -/
  fionbio : K → BitVec 32 → K
  nonblock_setfl : ∀ k arg, nonblock (getfl (setfl k arg)) = nonblock arg
  nonblock_fionbio : ∀ k value, nonblock (getfl (fionbio k value)) = (value != 0)

/-- `FdCtx` with the members that only `init`, `fcntl` and `ioctl` use. -/
structure StatusCtx extends FdCtx where
  isInit : Bool
  sysNonblock : Bool

/-- A descriptor: the kernel's side, and what `FdMgr::GetInstance()->get(fd)` returns. -/
structure HookedFd (K : Type*) where
  kernel : K
  ctx : Option StatusCtx

/-- The context the three functions act on: none if it is missing, closed or not a socket. -/
def HookedFd.hooked {K : Type*} (d : HookedFd K) : Option StatusCtx :=
  d.ctx.filter fun ctx => !(ctx.isClosed || !ctx.isSocket)

/-- A call of the user on the descriptor. -/
inductive StatusCall where
  /-- `fcntl(fd, F_SETFL, arg)` -/
  | setfl (arg : BitVec 32)
  /-- `fcntl(fd, F_GETFL)` -/
  | getfl
  /-- `ioctl(fd, FIONBIO, &value)` -/
  | fionbio (value : BitVec 32)
  deriving DecidableEq

namespace StatusCalls

variable {K : Type*} (c : StatusCalls K)

/-- `FdCtx::init` of a new context; `fstat` is `none` where `fstat` fails, and else whether the
file is a socket. -/
def init (k : K) (fstat : Option Bool) : HookedFd K :=
  let isSocket := fstat.getD false
  let ctx : StatusCtx :=
    { isSocket, userNonblock := false, isClosed := false, timeout := fun _ => false
      isInit := fstat.isSome, sysNonblock := isSocket }
  let kernel :=
    if isSocket ∧ ¬ nonblock (c.getfl k) then c.setfl k (c.getfl k ||| oNonblock) else k
  ⟨kernel, some ctx⟩

/-- `fcntl(fd, F_SETFL, arg)` -/
def fcntlSetfl (d : HookedFd K) (arg : BitVec 32) : HookedFd K :=
  match d.hooked with
  | none => { d with kernel := c.setfl d.kernel arg }
  | some ctx =>
    let arg' := if ctx.sysNonblock then arg ||| oNonblock else arg &&& ~~~oNonblock
    ⟨c.setfl d.kernel arg', some { ctx with userNonblock := nonblock arg }⟩

/-- `fcntl(fd, F_GETFL)` -/
def fcntlGetfl (d : HookedFd K) : BitVec 32 :=
  let arg := c.getfl d.kernel
  match d.hooked with
  | none => arg
  | some ctx => if ctx.userNonblock then arg ||| oNonblock else arg &&& ~~~oNonblock

/-- `ioctl(fd, FIONBIO, &value)` -/
def ioctlFionbio (d : HookedFd K) (value : BitVec 32) : HookedFd K :=
  match d.hooked with
  | none => { d with kernel := c.fionbio d.kernel value }
  | some ctx => ⟨c.fionbio d.kernel value, some { ctx with userNonblock := value != 0 }⟩

/-- One call of the user. -/
def call (d : HookedFd K) : StatusCall → HookedFd K
  | .setfl arg => c.fcntlSetfl d arg
  | .getfl => d
  | .fionbio value => c.ioctlFionbio d value

end StatusCalls

end CoroutineGateway
