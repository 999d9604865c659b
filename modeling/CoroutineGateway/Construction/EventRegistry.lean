import CoroutineGateway.Construction.Task
import CoroutineGateway.Framework.Machine
import Mathlib.Algebra.Ring.Nat
import Mathlib.Data.Finset.Basic
import Mathlib.Data.Fintype.Defs

/-!
# The event registry

The `FdContext`s of `IOManager` (`CoroutineLibrary/ioscheduler.h`, `ioscheduler.cpp`) with the
operations on them: `addEvent`, `delEvent`, `cancelEvent`, `cancelAll`, and what `idle` does with
one event that `epoll_wait` has reported.

An event mask is a finite set of events.  The kernel's side of epoll is the mask it holds for
each descriptor; `epoll_ctl` fails when asked to (`fail`) and where the kernel would refuse the
operation, and then changes nothing.  The pipe of `tickle()` is registered by the constructor
and has no part in the `FdContext`s.

An operation is `none` where an assertion of the source fails, or where a null scheduler would
be dereferenced.  Calls come from the workers of this `IOManager`, so that
`Scheduler::GetThis()` is never null; `scheduler` records only whether the pointer is set.

Descriptors are not negative here.  A negative one passes the tests against the size of
`m_fdContexts` and is then an index before its beginning, which is undefined behaviour.  Of the
models that take any `int`, `RemovalOp.run` has no outcome there, and `ContextTable.machine` notes
that the index is out of range.
-/

namespace CoroutineGateway

/-- `IOManager::Event` -/
inductive Event where
  | read
  | write
  deriving DecidableEq

/-- `IOManager::FdContext::EventContext` -/
structure EventContext (F C : Type*) where
  /-- `scheduler != nullptr` -/
  scheduler : Bool
  fiber : Option F
  cb : Option C
  deriving DecidableEq

namespace EventContext

variable {F C : Type*}

/-- `FdContext::resetEventContext` -/
def reset : EventContext F C := ⟨false, none, none⟩

/-- What `triggerEvent` hands to `scheduleLock`: the callback, or else the fiber. -/
def task (x : EventContext F C) : ScheduleTask F C :=
  match x.cb with
  | some c => .ofCb c (-1)
  | none => ⟨x.fiber, none, -1⟩

end EventContext

/-- `IOManager::FdContext` -/
structure FdContext (F C : Type*) where
  read : EventContext F C
  write : EventContext F C
  fd : ℕ
  events : Finset Event

namespace FdContext

variable {F C : Type*}

/-- A new `FdContext`. -/
def new (fd : ℕ) : FdContext F C := ⟨.reset, .reset, fd, ∅⟩

/-- `FdContext::getEventContext` -/
def getEventContext (c : FdContext F C) : Event → EventContext F C
  | .read => c.read
  | .write => c.write

/-- Writing the mask and the result of `getEventContext`. -/
def setEvent (c : FdContext F C) (e : Event) (x : EventContext F C) (events : Finset Event) :
    FdContext F C :=
  match e with
  | .read => { c with read := x, events := events }
  | .write => { c with write := x, events := events }

/-- `FdContext::triggerEvent`: the context afterwards, and the task it schedules. -/
def triggerEvent (c : FdContext F C) (e : Event) : Option (FdContext F C × ScheduleTask F C) :=
  if e ∈ c.events ∧ (c.getEventContext e).scheduler then
    some (c.setEvent e .reset (c.events.erase e), (c.getEventContext e).task)
  else none

end FdContext

/-- The operations of `epoll_ctl`. -/
inductive EpollOp where
  | add
  | mod
  | del

/-- `epoll_ctl` on the masks that the kernel holds; `none` is a failure. -/
def epollCtl (epoll : ℕ → Option (Finset Event)) (fail : Bool) (op : EpollOp) (fd : ℕ)
    (events : Finset Event) : Option (ℕ → Option (Finset Event)) :=
  if fail then none
  else
    match op, epoll fd with
    | .add, none => some (Function.update epoll fd (some events))
    | .add, some _ => none
    | .mod, some _ => some (Function.update epoll fd (some events))
    | .mod, none => none
    | .del, some _ => some (Function.update epoll fd none)
    | .del, none => none

/-- The part of `IOManager` that the operations on events use. -/
structure IOManager (F C : Type*) where
  /-- `m_fdContexts` -/
  fdContexts : List (FdContext F C)
  /-- `m_pendingEventCount` -/
  pendingEventCount : ℤ
  /-- The masks that the kernel holds for `m_epfd`. -/
  epoll : ℕ → Option (Finset Event)
  /-- Every call of `scheduleLock`, for the record. -/
  scheduled : List (ScheduleTask F C)
  /-- The waiter of every successful `addEvent`, for the record. -/
  added : List (ScheduleTask F C)
  /-- Every waiter that `delEvent` has removed, for the record. -/
  removed : List (ScheduleTask F C)

/-- An event that `epoll_wait` reports for the `FdContext` of `fd`. -/
structure EpollEvent where
  fd : ℕ
  events : Finset Event
  /-- `EPOLLERR | EPOLLHUP` -/
  errHup : Bool

namespace IOManager

variable {F C : Type*}

/-- `IOManager::contextResize`: entries beyond the old size are new contexts. -/
def contextResize (cs : List (FdContext F C)) (size : ℕ) : List (FdContext F C) :=
  cs.take size ++ (List.range' cs.length (size - cs.length)).map .new

/-- The constructor; `tickleFd` is `m_tickleFds[0]`. -/
def init (tickleFd : ℕ) : IOManager F C where
  fdContexts := contextResize [] 32
  pendingEventCount := 0
  epoll fd := if fd = tickleFd then some {.read} else none
  scheduled := []
  added := []
  removed := []

/-- `m_fdContexts[fd]` -/
def context (m : IOManager F C) (fd : ℕ) : FdContext F C := m.fdContexts.getD fd (.new fd)

/-- Writing through the pointer `m_fdContexts[fd]`. -/
def setContext (m : IOManager F C) (fd : ℕ) (c : FdContext F C) : IOManager F C :=
  { m with fdContexts := m.fdContexts.set fd c }

/-- `FdContext::triggerEvent` on the context of `fd`. -/
def triggerEvent (m : IOManager F C) (fd : ℕ) (e : Event) : Option (IOManager F C) :=
  match (m.context fd).triggerEvent e with
  | some (c, task) => some { m.setContext fd c with scheduled := m.scheduled ++ [task] }
  | none => none

/-- `if (events & e) { triggerEvent(e); --m_pendingEventCount; }` -/
def triggerIf (m : IOManager F C) (fd : ℕ) (events : Finset Event) (e : Event) :
    Option (IOManager F C) :=
  if e ∈ events then
    match m.triggerEvent fd e with
    | some m' => some { m' with pendingEventCount := m'.pendingEventCount - 1 }
    | none => none
  else some m

/-- The look-up of the context in `addEvent`, which grows the table where it has to. -/
def reserve (m : IOManager F C) (fd : ℕ) : IOManager F C :=
  if fd < m.fdContexts.length then m
  else { m with fdContexts := contextResize m.fdContexts (fd * 3 / 2) }

/-- The context of an event after `addEvent` from the fiber `this`. -/
def waiter (this : F) : Option C → EventContext F C
  | some cb => ⟨true, none, some cb⟩
  | none => ⟨true, some this, none⟩

/-- `IOManager::addEvent` from the fiber `this` in the state `state`. -/
def addEvent (m : IOManager F C) (this : F) (state : FiberState) (fd : ℕ) (event : Event)
    (cb : Option C) (fail : Bool) : Option (IOManager F C × ℤ) :=
  let m := m.reserve fd
  let c := m.context fd
  if event ∈ c.events then some (m, -1)
  else
    let op := if c.events ≠ ∅ then EpollOp.mod else EpollOp.add
    match epollCtl m.epoll fail op fd (insert event c.events) with
    | none => some (m, -1)
    | some epoll =>
      let x := c.getEventContext event
      if x.scheduler = false ∧ x.fiber.isNone ∧ x.cb.isNone ∧ (cb = none → state = .running) then
        some ({ m.setContext fd (c.setEvent event (waiter this cb) (insert event c.events)) with
          epoll := epoll, pendingEventCount := m.pendingEventCount + 1,
          added := m.added ++ [(waiter this cb).task] }, 0)
      else none

/-- `IOManager::delEvent`; the result `-1` after a failure of `epoll_ctl` is `true` as a
`bool`. -/
def delEvent (m : IOManager F C) (fd : ℕ) (event : Event) (fail : Bool) : IOManager F C × Bool :=
  if fd < m.fdContexts.length then
    let c := m.context fd
    if event ∉ c.events then (m, false)
    else
      let newEvents := c.events.erase event
      let op := if newEvents ≠ ∅ then EpollOp.mod else EpollOp.del
      match epollCtl m.epoll fail op fd newEvents with
      | none => (m, true)
      | some epoll =>
        ({ m.setContext fd (c.setEvent event .reset newEvents) with
          epoll := epoll, pendingEventCount := m.pendingEventCount - 1,
          removed := m.removed ++ [(c.getEventContext event).task] }, true)
  else (m, false)

/-- `IOManager::cancelEvent` -/
def cancelEvent (m : IOManager F C) (fd : ℕ) (event : Event) (fail : Bool) :
    Option (IOManager F C × Bool) :=
  if fd < m.fdContexts.length then
    let c := m.context fd
    if event ∉ c.events then some (m, false)
    else
      let newEvents := c.events.erase event
      let op := if newEvents ≠ ∅ then EpollOp.mod else EpollOp.del
      match epollCtl m.epoll fail op fd newEvents with
      | none => some (m, true)
      | some epoll =>
        (({ m with epoll := epoll, pendingEventCount := m.pendingEventCount - 1 } :
          IOManager F C).triggerEvent fd event).map fun m => (m, true)
  else some (m, false)

/-- `IOManager::cancelAll` -/
def cancelAll (m : IOManager F C) (fd : ℕ) (fail : Bool) : Option (IOManager F C × Bool) :=
  if fd < m.fdContexts.length then
    if (m.context fd).events = ∅ then some (m, false)
    else
      match epollCtl m.epoll fail .del fd ∅ with
      | none => some (m, true)
      | some epoll =>
        (({ m with epoll := epoll } : IOManager F C).triggerIf fd (m.context fd).events
          .read).bind fun m =>
        (m.triggerIf fd (m.context fd).events .write).bind fun m =>
        -- `assert(fd_ctx->events == 0)`
        if (m.context fd).events = ∅ then some (m, true) else none
  else some (m, false)

/-- The events `idle` reads off a report: an error or a hang-up stands for what is registered. -/
def realEvents (m : IOManager F C) (r : EpollEvent) : Finset Event :=
  if r.errHup then r.events ∪ (m.context r.fd).events else r.events

/-- The body of the loop in `idle` for a report that is not the tickle event. -/
def dispatch (m : IOManager F C) (r : EpollEvent) (fail : Bool) : Option (IOManager F C) :=
  let c := m.context r.fd
  let real := m.realEvents r
  if c.events ∩ real = ∅ then some m
  else
    let left := c.events \ real
    let op := if left ≠ ∅ then EpollOp.mod else EpollOp.del
    match epollCtl m.epoll fail op c.fd left with
    | none => some m
    | some epoll =>
      (({ m with epoll := epoll } : IOManager F C).triggerIf r.fd real .read).bind fun m =>
        m.triggerIf r.fd real .write

end IOManager

/-! ## The registry and the workers that call it -/

/-- The registry and what its workers are doing.  A fiber is the worker's own one, which runs the
scheduler, or any other.  Worker `w` is inside the fiber `current w` (`Fiber::GetThis()`), and
`inbox w` are the reports of its last `epoll_wait` that it has not handled yet. -/
structure Registry (W F C : Type*) where
  manager : IOManager (W ⊕ F) C
  current : W → W ⊕ F
  state : W ⊕ F → FiberState
  inbox : W → List EpollEvent
  aborted : Bool

/-- What a worker does with the registry. -/
inductive RegistryOp (W F C : Type*) where
  /-- The worker resumes a fiber. -/
  | resume (w : W) (f : F)
  /-- The fiber of the worker yields. -/
  | yield (w : W)
  /-- The function of the worker's fiber returns. -/
  | finish (w : W)
  | addEvent (w : W) (fd : ℕ) (event : Event) (cb : Option C) (fail : Bool)
  | delEvent (w : W) (fd : ℕ) (event : Event) (fail : Bool)
  | cancelEvent (w : W) (fd : ℕ) (event : Event) (fail : Bool)
  | cancelAll (w : W) (fd : ℕ) (fail : Bool)
  /-- `epoll_wait` returns these reports to the worker. -/
  | epollWait (w : W) (events : List EpollEvent)
  /-- The worker handles the first report it has not handled yet. -/
  | dispatch (w : W) (fail : Bool)

namespace Registry

variable {W F C : Type*}

/-- The registry after the constructor, each worker inside its own fiber. -/
def init (tickleFd : ℕ) : Registry W F C where
  manager := .init tickleFd
  current := .inl
  state
    | .inl _ => .running
    | .inr _ => .ready
  inbox _ := []
  aborted := false

/-- The registry after an operation, or a failed assertion. -/
def commit (s : Registry W F C) : Option (IOManager (W ⊕ F) C) → Registry W F C
  | some m => { s with manager := m }
  | none => { s with aborted := true }

/-- `epoll_wait` reports what is registered for an `FdContext`, errors and hang-ups apart. -/
def Reported (s : Registry W F C) (tickleFd : ℕ) (r : EpollEvent) : Prop :=
  r.fd ≠ tickleFd ∧ ∃ events ∈ s.manager.epoll r.fd, r.events ⊆ events

instance (s : Registry W F C) (tickleFd : ℕ) (r : EpollEvent) :
    Decidable (s.Reported tickleFd r) :=
  inferInstanceAs (Decidable (_ ∧ _))

/-- The report that an operation handles. -/
def handled (s : Registry W F C) : RegistryOp W F C → Option EpollEvent
  | .dispatch w _ => (s.inbox w).head?
  | _ => none

variable [DecidableEq W] [DecidableEq F]

/-- The switch to a fiber that is `READY`. -/
def resume (s : Registry W F C) (w : W) (f : F) : Option (Registry W F C) :=
  if s.current w = .inl w then
    (Fiber.resume s.state (.inr f)).map fun state =>
      { s with state := state, current := Function.update s.current w (.inr f) }
  else none

/-- The switch back to the worker's own fiber; `state` is what becomes of the states. -/
def leave (s : Registry W F C) (w : W) (state : Option (W ⊕ F → FiberState)) :
    Option (Registry W F C) :=
  if s.current w ≠ .inl w then
    state.map fun state =>
      { s with state := state, current := Function.update s.current w (.inl w) }
  else none

/-- One operation; each of those on events runs under the mutex of the `FdContext`. -/
def step (tickleFd : ℕ) (s : Registry W F C) : RegistryOp W F C → Option (Registry W F C)
  | .resume w f => s.resume w f
  | .yield w => s.leave w (Fiber.yield s.state (s.current w))
  | .finish w => s.leave w (Fiber.finish s.state (s.current w))
  | .addEvent w fd event cb fail =>
    some (s.commit ((s.manager.addEvent (s.current w) (s.state (s.current w)) fd event cb
      fail).map Prod.fst))
  | .delEvent _ fd event fail => some (s.commit (some (s.manager.delEvent fd event fail).1))
  | .cancelEvent _ fd event fail =>
    some (s.commit ((s.manager.cancelEvent fd event fail).map Prod.fst))
  | .cancelAll _ fd fail => some (s.commit ((s.manager.cancelAll fd fail).map Prod.fst))
  | .epollWait w events =>
    if s.inbox w = [] ∧ ∀ r ∈ events, s.Reported tickleFd r then
      some { s with inbox := Function.update s.inbox w events }
    else none
  | .dispatch w fail =>
    match s.inbox w with
    | [] => none
    | r :: rest =>
      some { s.commit (s.manager.dispatch r fail) with
        inbox := Function.update s.inbox w rest }

/-- The registry under any number of workers, whose operations interleave as they like between
the `epoll_wait` of one of them and its handling of the reports. -/
def machine (tickleFd : ℕ) : Machine (Registry W F C) (RegistryOp W F C) where
  step s a := if s.aborted then none else s.step tickleFd a

/-- The registry with one worker.  It handles a report while what is reported is registered. -/
def soleMachine (tickleFd : ℕ) : Machine (Registry Unit F C) (RegistryOp Unit F C) where
  step s a :=
    if ∀ r ∈ s.handled a, s.Reported tickleFd r then (machine tickleFd).step s a else none

end Registry

end CoroutineGateway
