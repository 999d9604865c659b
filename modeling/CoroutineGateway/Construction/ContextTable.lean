import CoroutineGateway.Construction.EventRegistry

/-!
# The table of contexts under several threads

`m_fdContexts` is a vector of pointers.  `addEvent` (`CoroutineLibrary/ioscheduler.cpp`) compares
its size with the descriptor under the read lock.  Where the vector is too small it lets go of that
lock, and calls `contextResize` under the write lock with a size that depends on the descriptor
alone.  The rest happens under the mutex of the `FdContext` it has got.  Several calls are under way
at a time, each at one of these places.

Pointers are numbers, given out in the order in which the `FdContext`s are made.  A negative
descriptor is less than any size.  The size stays below `2^31`, where a table would no longer fit
in memory, so that its conversion to `int` is left out.
-/

namespace CoroutineGateway

/-- The arguments of `addEvent` beside the descriptor, and the fiber it is called from. -/
structure AddEventCall (F C : Type*) where
  this : F
  event : Event
  cb : Option C

/-- Where a thread stands in `addEvent`. -/
inductive AddEventPc (F C : Type*) where
  /-- In no call of `addEvent`. -/
  | idle
  /-- The vector was too small, and the write lock is to be taken. -/
  | resize (fd : ℕ) (call : AddEventCall F C)
  /-- The thread has got the `FdContext`. -/
  | register (fd ptr : ℕ) (call : AddEventCall F C)

/-- What the threads `T` share of `IOManager`. -/
structure ContextTable (T F C : Type*) where
  /-- `m_fdContexts` -/
  fdContexts : List ℕ
  /-- What the pointers point to. -/
  heap : ℕ → FdContext F C
  /-- How many `FdContext`s were made. -/
  created : ℕ
  /-- `m_pendingEventCount` -/
  pendingEventCount : ℤ
  /-- The masks that the kernel holds for `m_epfd`. -/
  epoll : ℕ → Option (Finset Event)
  pc : T → AddEventPc F C
  /-- The descriptors with the `FdContext`s that `contextResize` has made for them, for the
  record. -/
  given : List (ℕ × ℕ)
  /-- Every successful registration, for the record. -/
  registered : List (ℕ × Event)
  /-- An index outside the vector was used. -/
  outOfRange : Bool

/-- The steps of a thread. -/
inductive ContextTableOp (T F C : Type*) where
  /-- `addEvent` is called, with its check under the read lock. -/
  | addEvent (th : T) (fd : ℤ) (call : AddEventCall F C)
  /-- The section under the write lock. -/
  | resize (th : T)
  /-- The section under the mutex of the `FdContext`; `fail` is for `epoll_ctl`. -/
  | register (th : T) (fail : Bool)

namespace ContextTable

variable {T F C : Type*}

/-- `IOManager::contextResize` -/
def contextResize (s : ContextTable T F C) (size : ℕ) : ContextTable T F C :=
  let new := size - s.fdContexts.length
  { s with
    fdContexts := s.fdContexts.take size ++ List.range' s.created new
    heap := fun ptr =>
      if s.created ≤ ptr ∧ ptr < s.created + new then
        .new (s.fdContexts.length + (ptr - s.created))
      else s.heap ptr
    created := s.created + new
    given := s.given ++ (List.range new).map fun i => (s.fdContexts.length + i, s.created + i) }

/-- The constructor; `tickleFd` is `m_tickleFds[0]`. -/
def init (tickleFd : ℕ) : ContextTable T F C :=
  ({ fdContexts := [], heap := fun _ => .new 0, created := 0, pendingEventCount := 0
     epoll := fun fd => if fd = tickleFd then some {.read} else none
     pc := fun _ => .idle, given := [], registered := [], outOfRange := false } :
    ContextTable T F C).contextResize 32

variable [DecidableEq T]

/-- A thread goes on. -/
def goOn (s : ContextTable T F C) (th : T) (pc : AddEventPc F C) : ContextTable T F C :=
  { s with pc := Function.update s.pc th pc }

/-- `fd_ctx = m_fdContexts[fd]` -/
def give (s : ContextTable T F C) (th : T) (fd : ℕ) (call : AddEventCall F C) :
    ContextTable T F C :=
  match s.fdContexts[fd]? with
  | none => { s with outOfRange := true }.goOn th .idle
  | some ptr => s.goOn th (.register fd ptr call)

/-- The section of `addEvent` under the mutex of the `FdContext`; `none` where its assertion
fails. -/
def register (s : ContextTable T F C) (fd ptr : ℕ) (call : AddEventCall F C) (fail : Bool) :
    Option (ContextTable T F C) :=
  let c := s.heap ptr
  if call.event ∈ c.events then some s
  else
    let op := if c.events ≠ ∅ then EpollOp.mod else EpollOp.add
    match epollCtl s.epoll fail op fd (insert call.event c.events) with
    | none => some s
    | some epoll =>
      let x := c.getEventContext call.event
      if x.scheduler = false ∧ x.fiber.isNone ∧ x.cb.isNone then
        some { s with
          heap := Function.update s.heap ptr (c.setEvent call.event
            (IOManager.waiter call.this call.cb) (insert call.event c.events))
          epoll := epoll
          pendingEventCount := s.pendingEventCount + 1
          registered := (fd, call.event) :: s.registered }
      else none

/-- The machine of all interleavings of `addEvent`. -/
def machine : Machine (ContextTable T F C) (ContextTableOp T F C) where
  step s
    | .addEvent th fd call =>
      match s.pc th with
      | .idle =>
        if fd < s.fdContexts.length then
          match fd with
          | .ofNat fd => some (s.give th fd call)
          | .negSucc _ => some { s with outOfRange := true }
        else some (s.goOn th (.resize fd.toNat call))
      | _ => none
    | .resize th =>
      match s.pc th with
      | .resize fd call => some ((s.contextResize (fd * 3 / 2)).give th fd call)
      | _ => none
    | .register th fail =>
      match s.pc th with
      | .register fd ptr call => (s.register fd ptr call fail).map fun s => s.goOn th .idle
      | _ => none

end ContextTable

end CoroutineGateway
