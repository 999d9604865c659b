import CoroutineGateway.Construction.EventRegistry

/-!
# Hooked I/O on descriptor numbers

`do_io` and the hooked `close`, `socket` and `accept` (`CoroutineLibrary/hook.cpp`) over the
`FdManager` (`fd_manager.cpp`), the event registry, and the kernel's descriptor table: a number
names an open file or nothing, and every file opened gets a generation of its own.

Each fiber is at one place of one of these functions, and its actions are the points where
others can come in between: a look-up in the `FdManager`, one system call, one operation of the
registry, a switch out of the fiber and back.  The condition of a timer is tested when its
callback runs, which can be as late as any time before the call returns.  All fibers run with
`t_hook_enable` set.

`epoll_ctl` fails on a closed number, and closing a file takes its number out of the kernel's
epoll set.  A report of `epoll_wait` can be out of date when it is handled, so `dispatch` takes
any report.  Where an assertion of the registry fails the process is gone, and there is no next
state.
-/

namespace CoroutineGateway

/-- The values of `errno` that `do_io` looks at or sets. -/
inductive Errno where
  | eintr
  | eagain
  | ebadf
  | etimedout
  /-- Any other. -/
  | other
  deriving DecidableEq

/-- What the kernel answers to `fun(fd, …)` on an open file. -/
inductive IoAnswer where
  /-- A count of bytes. -/
  | done (n : ℕ)
  /-- `accept` has opened a connection under this number. -/
  | accepted (fd : ℕ)
  | failed (e : Errno)
  deriving DecidableEq

/-- `FdCtx` -/
structure FdCtx where
  isSocket : Bool
  userNonblock : Bool
  isClosed : Bool
  /-- The timeout for an event is set: `m_recvTimeout` for reading, `m_sendTimeout` for
  writing. -/
  timeout : Event → Bool

/-- Where a call of `do_io` stands. -/
inductive IoPc where
  /-- Before `FdMgr::GetInstance()->get(fd)`. -/
  | lookup
  /-- At a `return fun(fd, …)`. -/
  | direct
  /-- At `retry`, or in the loop on `EINTR`. -/
  | retry
  /-- After `EAGAIN`, before the timer. -/
  | again
  /-- Before `addEvent`. -/
  | add
  /-- `addEvent` has succeeded and the fiber yields. -/
  | parked
  deriving DecidableEq

/-- A call of `do_io`. -/
structure IoCall where
  fd : ℕ
  event : Event
  /-- The function is `accept_f`. -/
  accepts : Bool
  /-- The generation that `fd` named when the call began. -/
  begun : Option ℕ
  /-- `timeout != (uint64_t)-1` -/
  timeout : Bool
  /-- A condition timer of the call has been added. -/
  armed : Bool
  /-- `tinfo->cancelled == ETIMEDOUT` -/
  cancelled : Bool
  pc : IoPc

/-- Where a call of the hooked `close` stands. -/
inductive ClosePc where
  | cancelAll
  | del
  | close
  deriving DecidableEq

/-- What a fiber is doing. -/
inductive Activity where
  | idle
  | io (call : IoCall)
  | closing (fd : ℕ) (pc : ClosePc)
  /-- Before the `get(fd, true)` of `socket` and `accept`. -/
  | creating (fd : ℕ)

/-- One `fun(fd, …)` issued by a call of `do_io`. -/
structure Issue where
  /-- The generation that the number named when the call began. -/
  begun : Option ℕ
  /-- The generation that the system call acted on. -/
  acted : Option ℕ
  /-- What `do_io` returned with, if it returned: a value, or `-1` and `errno`. -/
  returned : Option (Except Errno ℕ)

/-- The end of a call of `do_io`. -/
structure IoEnding where
  /-- The generation that the number named when the call began. -/
  begun : Option ℕ
  /-- The generation that it named when the call returned. -/
  named : Option ℕ
  /-- `do_io` returned `-1`. -/
  failed : Bool

/-- The descriptor table, the `FdManager`, the registry and the fibers. -/
structure DescriptorSystem (F : Type*) where
  /-- The generation of the file that a number names. -/
  kernel : ℕ → Option ℕ
  /-- The generation of the next file. -/
  nextGen : ℕ
  /-- `FdManager::m_datas` -/
  datas : ℕ → Option FdCtx
  /-- The registry, in which nobody registers a callback. -/
  manager : IOManager F Empty
  activity : F → Activity
  /-- How often the fiber has been resumed from a `yield` of `do_io`. -/
  resumed : F → ℕ
  /-- Every system call issued by `do_io`, for the record. -/
  issued : List Issue
  /-- Every return of a call of `do_io`, for the record. -/
  ended : List IoEnding

/-- The atomic steps. -/
inductive DescriptorAction (F : Type*) where
  /-- A call of `do_io` begins. -/
  | begin (f : F) (fd : ℕ) (event : Event) (accepts : Bool)
  /-- The tests before `retry`. -/
  | lookup (f : F)
  /-- `fun(fd, …)`, with the answer on an open file. -/
  | issue (f : F) (answer : IoAnswer)
  /-- `addConditionTimer` -/
  | arm (f : F)
  /-- `addEvent` -/
  | add (f : F) (fail : Bool)
  /-- The fiber runs on after its `yield`. -/
  | resume (f : F)
  /-- The callback of a timer of the call runs. -/
  | fire (f : F) (fail : Bool)
  /-- A worker handles a report of `epoll_wait`. -/
  | dispatch (r : EpollEvent) (fail : Bool)
  /-- `close` begins, with its look-up in the `FdManager`. -/
  | close (f : F) (fd : ℕ)
  /-- `cancelAll` in `close`. -/
  | closeCancel (f : F) (fail : Bool)
  /-- `FdManager::del` in `close`. -/
  | closeDel (f : F)
  /-- `close_f` -/
  | closeF (f : F)
  /-- `socket_f` opens a file under this number. -/
  | socket (f : F) (fd : ℕ)
  /-- `get(fd, true)` after `socket_f` or `accept_f`. -/
  | create (f : F)
  /-- `FdCtx::setUserNonblock`, from `fcntl` or `ioctl`. -/
  | setUserNonblock (fd : ℕ) (v : Bool)
  /-- `FdCtx::setTimeout`, from `setsockopt`. -/
  | setTimeout (fd : ℕ) (event : Event)

namespace DescriptorSystem

variable {F : Type*}

/-- Only the pipe of `tickle()` is open. -/
def init (tickleFd : ℕ) : DescriptorSystem F where
  kernel fd := if fd = tickleFd then some 0 else none
  nextGen := 1
  datas _ := none
  manager := .init tickleFd
  activity _ := .idle
  resumed _ := 0
  issued := []
  ended := []

/-- The kernel opens a file under a free number. -/
def openFile (s : DescriptorSystem F) (fd : ℕ) : Option (DescriptorSystem F) :=
  if s.kernel fd = none then
    some { s with
      kernel := Function.update s.kernel fd (some s.nextGen), nextGen := s.nextGen + 1 }
  else none

/-- `epoll_ctl` on the number fails: as the environment says, or because it is closed. -/
def ctlFails (s : DescriptorSystem F) (fd : ℕ) (fail : Bool) : Bool :=
  fail || (s.kernel fd).isNone

variable [DecidableEq F]

/-- A fiber goes on to something else. -/
def goOn (s : DescriptorSystem F) (f : F) (a : Activity) : DescriptorSystem F :=
  { s with activity := Function.update s.activity f a }

/-- The record of one system call of a call. -/
def record (s : DescriptorSystem F) (c : IoCall) (returned : Option (Except Errno ℕ)) :
    DescriptorSystem F :=
  { s with issued := s.issued ++ [⟨c.begun, s.kernel c.fd, returned⟩] }

/-- A call returns. -/
def finish (s : DescriptorSystem F) (f : F) (c : IoCall) (failed : Bool) : DescriptorSystem F :=
  ({ s with ended := s.ended ++ [⟨c.begun, s.kernel c.fd, failed⟩] } : DescriptorSystem F).goOn f
    .idle

/-- The tests of `do_io` before `retry`. -/
def lookup (s : DescriptorSystem F) (f : F) (c : IoCall) : DescriptorSystem F :=
  match s.datas c.fd with
  | none => s.goOn f (.io { c with pc := .direct })
  | some ctx =>
    if ctx.isClosed then s.finish f c true
    else if !ctx.isSocket || ctx.userNonblock then s.goOn f (.io { c with pc := .direct })
    else s.goOn f (.io { c with pc := .retry, timeout := ctx.timeout c.event })

/-- `fun(fd, …)` and what `do_io` does with the result.  A closed number gives `EBADF`. -/
def issue (s : DescriptorSystem F) (f : F) (c : IoCall) (answer : IoAnswer) :
    Option (DescriptorSystem F) :=
  if s.kernel c.fd = none then
    some ((s.record c (some (.error .ebadf))).finish f c true)
  else
    match answer with
    | .done n =>
      if c.accepts then none else some ((s.record c (some (.ok n))).finish f c false)
    | .accepted fd =>
      if c.accepts then
        ((s.record c (some (.ok fd))).openFile fd).map fun s =>
          (s.finish f c false).goOn f (.creating fd)
      else none
    | .failed .eintr =>
      if c.pc = .direct then some ((s.record c (some (.error .eintr))).finish f c true)
      else some (s.record c none)
    | .failed .eagain =>
      if c.pc = .direct then some ((s.record c (some (.error .eagain))).finish f c true)
      else some ((s.record c none).goOn f (.io { c with pc := .again }))
    | .failed e => some ((s.record c (some (.error e))).finish f c true)

/-- `FdManager::get(fd, true)`; a new context asks the kernel whether the number is open. -/
def create (s : DescriptorSystem F) (fd : ℕ) : DescriptorSystem F :=
  match s.datas fd with
  | some _ => s
  | none =>
    let ctx : FdCtx := ⟨(s.kernel fd).isSome, false, false, fun _ => false⟩
    { s with datas := Function.update s.datas fd (some ctx) }

/-- The fiber has been scheduled and not been resumed since. -/
def scheduled (s : DescriptorSystem F) (f : F) : Prop :=
  s.resumed f < s.manager.scheduled.count (.ofFiber f (-1))

instance (s : DescriptorSystem F) (f : F) : Decidable (s.scheduled f) :=
  inferInstanceAs (Decidable (_ < _))

/-- The steps of a call of `do_io` in the fiber `f`. -/
def ioStep (s : DescriptorSystem F) (f : F) (c : IoCall) :
    DescriptorAction F → Option (DescriptorSystem F)
  | .lookup _ => if c.pc = .lookup then some (s.lookup f c) else none
  | .issue _ answer => if c.pc = .direct ∨ c.pc = .retry then s.issue f c answer else none
  | .arm _ =>
    if c.pc = .again then
      some (s.goOn f (.io { c with pc := .add, armed := c.armed || c.timeout }))
    else none
  | .add _ fail =>
    if c.pc = .add then
      (s.manager.addEvent f .running c.fd c.event none (s.ctlFails c.fd fail)).map
        fun (m, rt) =>
          let s : DescriptorSystem F := { s with manager := m }
          if rt = 0 then s.goOn f (.io { c with pc := .parked }) else s.finish f c true
    else none
  | .resume _ =>
    if c.pc = .parked ∧ s.scheduled f then
      let s : DescriptorSystem F :=
        { s with resumed := Function.update s.resumed f (s.resumed f + 1) }
      some (if c.cancelled then s.finish f c true else s.goOn f (.io { c with pc := .retry }))
    else none
  | .fire _ fail =>
    if c.armed ∧ ¬ c.cancelled then
      (s.manager.cancelEvent c.fd c.event (s.ctlFails c.fd fail)).map fun (m, _) =>
        ({ s with manager := m } : DescriptorSystem F).goOn f (.io { c with cancelled := true })
    else none
  | _ => none

/-- The steps of a fiber that is in none of these functions. -/
def idleStep (s : DescriptorSystem F) (f : F) : DescriptorAction F → Option (DescriptorSystem F)
  | .begin _ fd event accepts =>
    some (s.goOn f (.io ⟨fd, event, accepts, s.kernel fd, false, false, false, .lookup⟩))
  | .close _ fd =>
    some (s.goOn f (.closing fd (if (s.datas fd).isSome then .cancelAll else .close)))
  | .socket _ fd => (s.openFile fd).map fun s => s.goOn f (.creating fd)
  | _ => none

/-- The steps of the hooked `close`. -/
def closeStep (s : DescriptorSystem F) (f : F) (fd : ℕ) (pc : ClosePc) :
    DescriptorAction F → Option (DescriptorSystem F)
  | .closeCancel _ fail =>
    if pc = .cancelAll then
      (s.manager.cancelAll fd (s.ctlFails fd fail)).map fun (m, _) =>
        ({ s with manager := m } : DescriptorSystem F).goOn f (.closing fd .del)
    else none
  | .closeDel _ =>
    if pc = .del then
      some ({ s with datas := Function.update s.datas fd none }.goOn f (.closing fd .close))
    else none
  | .closeF _ =>
    if pc = .close then
      let manager := { s.manager with epoll := Function.update s.manager.epoll fd none }
      some ({ s with kernel := Function.update s.kernel fd none, manager := manager }.goOn f .idle)
    else none
  | _ => none

/-- The fiber that takes the action. -/
def fiberOf : DescriptorAction F → Option F
  | .begin f _ _ _ | .lookup f | .issue f _ | .arm f | .add f _ | .resume f | .fire f _
  | .close f _ | .closeCancel f _ | .closeDel f | .closeF f | .socket f _ | .create f => some f
  | .dispatch _ _ | .setUserNonblock _ _ | .setTimeout _ _ => none

/-- The steps that belong to no fiber in these functions. -/
def otherStep (s : DescriptorSystem F) : DescriptorAction F → Option (DescriptorSystem F)
  | .dispatch r fail =>
    (s.manager.dispatch r (s.ctlFails r.fd fail)).map fun m => { s with manager := m }
  | .setUserNonblock fd v =>
    let ctx := (s.datas fd).map fun ctx => { ctx with userNonblock := v }
    some { s with datas := Function.update s.datas fd ctx }
  | .setTimeout fd event =>
    let ctx := (s.datas fd).map fun ctx =>
      { ctx with timeout := Function.update ctx.timeout event true }
    some { s with datas := Function.update s.datas fd ctx }
  | _ => none

/-- The machine of the descriptor system. -/
def machine : Machine (DescriptorSystem F) (DescriptorAction F) where
  step s a :=
    match fiberOf a with
    | none => s.otherStep a
    | some f =>
      match s.activity f with
      | .idle => s.idleStep f a
      | .io c => s.ioStep f c a
      | .closing fd pc => s.closeStep f fd pc a
      | .creating fd =>
        match a with
        | .create _ => some ((s.create fd).goOn f .idle)
        | _ => none

end DescriptorSystem

end CoroutineGateway
