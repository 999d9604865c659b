import CoroutineGateway.Construction.DoIo
import CoroutineGateway.Construction.Timer

/-!
# Hooked calls that wait

`do_io` from `retry` on and `connect_with_timeout` from `connect_f` on
(`CoroutineLibrary/hook.cpp`), on an open socket that the user has not made non-blocking.  A call
that would block adds a condition timer, registers the event and yields.  It goes on when something
schedules its fiber: `idle`, for a reported event, or `cancelEvent` and `cancelAll`, which other
fibers and the callbacks of timers call.

Callbacks that `listExpiredCb` has returned are queued, and a worker runs them in any order and at
any time later.  A fiber gets registered by these two functions only.  A timer that they have made
is held by a local variable of the call, so that nobody else has a pointer to it.  The callbacks
take a `std::weak_ptr` to the `timer_info`, which is gone when the call has returned.

Between two steps of a call any steps of others can come; with one worker these are the steps
between the `yield` and the return from it.  A worker handles what it has got from `epoll_wait` one
report at a time, and anything can come in between, so that a report may be of a file that has had
the number before.
-/

namespace CoroutineGateway

/-- What the timers of `IOManager` call. -/
inductive TimerFun (U : Type*) where
  /-- The closure of `do_io` and `connect_with_timeout` over `winfo`, `fd` and the event. -/
  | timedOut (info fd : ℕ) (event : Event)
  /-- Any other function. -/
  | user (u : U)

/-- What `epoll_ctl` sets `errno` to when it fails: `EBADF`, or one of its other errors. -/
inductive CtlErrno where
  | ebadf
  | other

/-- The value of `errno`. -/
def CtlErrno.errno : CtlErrno → Errno
  | .ebadf => .ebadf
  | .other => .other

/-- What the kernel holds of the connection of a socket. -/
inductive Connection where
  | unconnected
  | inProgress
  | established
  /-- `SO_ERROR` is set. -/
  | failed (e : Errno)
  deriving DecidableEq

/-- What `connect_f` answers. -/
inductive ConnectAnswer where
  | connected
  /-- `EINPROGRESS` -/
  | inProgress
  | failed (e : Errno)

/-- The two functions. -/
inductive HookedFun where
  | doIo
  | connectWithTimeout
  deriving DecidableEq

/-- Where a call stands. -/
inductive HookPc where
  /-- Before `fun(fd, …)`, at `retry` or in the loop on `EINTR`, or before `connect_f`. -/
  | issue
  /-- Before `addConditionTimer`. -/
  | arm
  /-- Before `addEvent`. -/
  | add
  /-- In `yield`. -/
  | parked
  /-- Before `getsockopt`. -/
  | check
  deriving DecidableEq

/-- A call. -/
structure HookCall where
  which : HookedFun
  fd : ℕ
  event : Event
  /-- `none` for `(uint64_t)-1` -/
  timeout : Option ℕ
  /-- What `tinfo` points to. -/
  info : ℕ
  /-- `timer` of this round. -/
  timer : Option TimerId
  pc : HookPc
  /-- What the `fun(fd, …)` have returned, for the record. -/
  results : List (Except Errno ℕ)
  /-- The timers of all rounds, for the record. -/
  timers : List TimerId

/-- A call that has returned: a value, or `-1` and `errno`. -/
structure HookReturn where
  call : HookCall
  result : Except Errno ℕ
  /-- The connection of the socket at that time. -/
  connection : Connection

/-- What a fiber is doing. -/
inductive HookActivity where
  | idle
  | inCall (c : HookCall)
  | returned (r : HookReturn)

/-- The `IOManager`, the kernel's connections and the fibers. -/
structure HookSystem (F C U : Type*) where
  /-- The `IOManager` as a `TimerManager`. -/
  timers : TimerManager (TimerFun U)
  manager : IOManager F C
  /-- The `timer_info`s that exist, with `cancelled == ETIMEDOUT`. -/
  infos : ℕ → Option Bool
  nextInfo : ℕ
  /-- The callbacks that no worker has run yet. -/
  queued : List (TimerId × Option (Callback (TimerFun U)))
  connection : ℕ → Connection
  activity : F → HookActivity
  /-- The reports of `epoll_wait` that no worker has handled yet. -/
  inbox : List EpollEvent
  /-- How often the fiber has been resumed from one of these `yield`s. -/
  resumed : F → ℕ
  /-- The timers that calls have added. -/
  own : List TimerId
  /-- The timers whose callbacks workers have run, with repetitions, for the record. -/
  ran : List TimerId

/-- What others call on the timers. -/
inductive TimerCall (U : Type*) where
  | addTimer (ms : ℕ) (cb : Option U) (recurring : Bool) (now : ℤ)
  | addConditionTimer (ms : ℕ) (cb : Option U) (cond : ℕ) (recurring : Bool) (now : ℤ)
  | cancel (id : TimerId)
  | refresh (id : TimerId) (now : ℤ)
  | reset (id : TimerId) (ms : ℕ) (fromNow : Bool) (now : ℤ)
  | getNextTimer (now : ℤ)

namespace TimerCall

variable {U : Type*}

/-- The timer that the caller has a pointer to. -/
def target : TimerCall U → Option TimerId
  | .cancel id | .refresh id _ | .reset id _ _ _ => some id
  | _ => none

/-- The manager after the call. -/
def run (m : TimerManager (TimerFun U)) : TimerCall U → TimerManager (TimerFun U)
  | .addTimer ms cb recurring now =>
    (m.addTimer ms (cb.map fun u => .user (.user u)) recurring now).1
  | .addConditionTimer ms cb cond recurring now =>
    (m.addConditionTimer ms (cb.map fun u => .user (.user u)) cond recurring now).1
  | .cancel id => (m.cancel id).2
  | .refresh id now => (m.refresh id now).2
  | .reset id ms fromNow now => (m.reset id ms fromNow now).2
  | .getNextTimer now => (m.getNextTimer now).1

end TimerCall

/-- What others do with the registry. -/
inductive EventCall (F C : Type*) where
  /-- `addEvent` with a callback. -/
  | addEvent (this : F) (fd : ℕ) (event : Event) (cb : C) (fail : Bool)
  | delEvent (fd : ℕ) (event : Event) (fail : Bool)
  | cancelEvent (fd : ℕ) (event : Event) (fail : Bool)
  | cancelAll (fd : ℕ) (fail : Bool)

/-- The registry after the call. -/
def EventCall.run {F C : Type*} (m : IOManager F C) : EventCall F C → Option (IOManager F C)
  | .addEvent this fd event cb fail =>
    (m.addEvent this .running fd event (some cb) fail).map Prod.fst
  | .delEvent fd event fail => some (m.delEvent fd event fail).1
  | .cancelEvent fd event fail => (m.cancelEvent fd event fail).map Prod.fst
  | .cancelAll fd fail => (m.cancelAll fd fail).map Prod.fst

/-- The atomic steps. -/
inductive HookAction (F C U : Type*) where
  /-- A call of `do_io` gets to `retry`. -/
  | doIo (f : F) (fd : ℕ) (event : Event) (timeout : Option ℕ)
  /-- A call of `connect_with_timeout` gets to `connect_f`. -/
  | connect (f : F) (fd : ℕ) (timeout : Option ℕ)
  /-- `fun(fd, …)` -/
  | issue (f : F) (result : Except Errno ℕ)
  /-- `connect_f` -/
  | connectF (f : F) (answer : ConnectAnswer)
  /-- `addConditionTimer`, if there is a timeout. -/
  | arm (f : F) (now : ℤ)
  /-- `addEvent`, and `timer->cancel()` where it fails. -/
  | add (f : F) (ctl : Option CtlErrno)
  /-- The fiber runs on after its `yield`. -/
  | resume (f : F)
  /-- `getsockopt`, and how it fails. -/
  | getsockopt (f : F) (fail : Option Errno)
  /-- A worker runs a queued callback. -/
  | run (i : ℕ) (fail : Bool)
  /-- A worker calls `listExpiredCb` and queues what it returns. -/
  | expire (now now' : ℤ) (fuel : ℕ)
  | timer (call : TimerCall U)
  | event (call : EventCall F C)
  /-- `epoll_wait` returns to a worker in `idle`. -/
  | epollWait (events : List EpollEvent)
  /-- A worker handles a report. -/
  | dispatch (i : ℕ) (fail : Bool)
  /-- The kernel completes a connection, or gives it up, then or later. -/
  | settle (fd : ℕ) (failed : Option Errno)

namespace HookSystem

variable {F C U : Type*}

/-- No call has been made. -/
def init (tickleFd : ℕ) (now : ℤ) : HookSystem F C U where
  timers := .init now
  manager := .init tickleFd
  infos _ := none
  nextInfo := 0
  queued := []
  connection _ := .unconnected
  activity _ := .idle
  inbox := []
  resumed _ := 0
  own := []
  ran := []

/-- `timer->cancel()`, if there is a timer. -/
def cancelTimer (s : HookSystem F C U) (c : HookCall) : HookSystem F C U :=
  match c.timer with
  | some id => { s with timers := (s.timers.cancel id).2 }
  | none => s

/-- The function that a callback calls: that of a condition timer only if the condition is there. -/
def calls (s : HookSystem F C U) : Option (Callback (TimerFun U)) → Option (TimerFun U)
  | some (.user f) => some f
  | some (.onTimer cond (some (.user f))) => if (s.infos cond).isSome then some f else none
  | _ => none

/-- What the closure of `do_io` and `connect_with_timeout` does. -/
def timedOut (s : HookSystem F C U) (info fd : ℕ) (event : Event) (fail : Bool) :
    Option (HookSystem F C U) :=
  if s.infos info = some false then
    (s.manager.cancelEvent fd event fail).map fun (m, _) =>
      { s with infos := Function.update s.infos info (some true), manager := m }
  else some s

/-- A queued callback runs. -/
def runQueued (s : HookSystem F C U) (i : ℕ) (fail : Bool) : Option (HookSystem F C U) :=
  s.queued[i]?.bind fun (id, cb) =>
    let s : HookSystem F C U := { s with queued := s.queued.eraseIdx i, ran := id :: s.ran }
    match s.calls cb with
    | some (.timedOut info fd event) => s.timedOut info fd event fail
    | _ => some s

/-- `listExpiredCb` -/
def expire (s : HookSystem F C U) (now now' : ℤ) (fuel : ℕ) : Option (HookSystem F C U) :=
  (s.timers.listExpiredCb now now' fuel).map fun (m, cbs) =>
    { s with timers := m, queued := s.queued ++ cbs }

/-- The fiber has been scheduled and not been resumed since. -/
def scheduled [DecidableEq F] [DecidableEq C] (s : HookSystem F C U) (f : F) : Prop :=
  s.resumed f < s.manager.scheduled.count (.ofFiber f (-1))

instance [DecidableEq F] [DecidableEq C] (s : HookSystem F C U) (f : F) :
    Decidable (s.scheduled f) :=
  inferInstanceAs (Decidable (_ < _))

/-- `idle` handles a report. -/
def dispatch (s : HookSystem F C U) (i : ℕ) (fail : Bool) : Option (HookSystem F C U) :=
  s.inbox[i]?.bind fun r => (s.manager.dispatch r fail).map fun m =>
    { s with inbox := s.inbox.eraseIdx i, manager := m }

variable [DecidableEq F] [DecidableEq C]

/-- A fiber goes on with its call. -/
def goOn (s : HookSystem F C U) (f : F) (c : HookCall) : HookSystem F C U :=
  { s with activity := Function.update s.activity f (.inCall c) }

/-- A call returns, and `tinfo` goes out of scope. -/
def finish (s : HookSystem F C U) (f : F) (c : HookCall) (result : Except Errno ℕ) :
    HookSystem F C U :=
  { s with
    infos := Function.update s.infos c.info none
    activity := Function.update s.activity f (.returned ⟨c, result, s.connection c.fd⟩) }

/-- A call begins, with a `timer_info` of its own. -/
def start (s : HookSystem F C U) (f : F) (which : HookedFun) (fd : ℕ) (event : Event)
    (timeout : Option ℕ) : HookSystem F C U :=
  { s with
    infos := Function.update s.infos s.nextInfo (some false)
    nextInfo := s.nextInfo + 1 }.goOn f
      ⟨which, fd, event, timeout, s.nextInfo, none, .issue, [], []⟩

/-- `fun(fd, …)` and the tests on its result. -/
def issue (s : HookSystem F C U) (f : F) (c : HookCall) (result : Except Errno ℕ) :
    HookSystem F C U :=
  let c := { c with results := c.results ++ [result] }
  match result with
  | .error .eintr => s.goOn f c
  | .error .eagain => s.goOn f { c with pc := .arm }
  | _ => s.finish f c result

/-- `connect_f` and the tests on its result. -/
def connectF (s : HookSystem F C U) (f : F) (c : HookCall) :
    ConnectAnswer → Option (HookSystem F C U)
  | .connected =>
    some ({ s with connection := Function.update s.connection c.fd .established }.finish f c
      (.ok 0))
  | .inProgress =>
    if s.connection c.fd = .inProgress ∨ s.connection c.fd = .established then none
    else some ({ s with connection := Function.update s.connection c.fd .inProgress }.goOn f
      { c with pc := .arm })
  | .failed e => some (s.finish f c (.error e))

/-- `if(timeout != (uint64_t)-1) { timer = iom->addConditionTimer(…); }` -/
def arm (s : HookSystem F C U) (f : F) (c : HookCall) (now : ℤ) : HookSystem F C U :=
  match c.timeout with
  | none => s.goOn f { c with pc := .add, timer := none }
  | some ms =>
    let id := s.timers.created
    { s with
      timers := (s.timers.addConditionTimer ms (some (.user (.timedOut c.info c.fd c.event))) c.info
        false now).1
      own := id :: s.own }.goOn f
        { c with pc := .add, timer := some id, timers := id :: c.timers }

/-- What `errno` is after `addEvent` has failed: that of `fun` if the event was registered already,
or that of `epoll_ctl`. -/
def addErrno (s : HookSystem F C U) (c : HookCall) (ctl : Option CtlErrno) : Errno :=
  if c.event ∈ (s.manager.context c.fd).events then .eagain
  else (ctl.map CtlErrno.errno).getD .other

/-- `addEvent` and the test on its result. -/
def add (s : HookSystem F C U) (f : F) (c : HookCall) (ctl : Option CtlErrno) :
    Option (HookSystem F C U) :=
  (s.manager.addEvent f .running c.fd c.event none ctl.isSome).map fun (m, rt) =>
    let t : HookSystem F C U := { s with manager := m }
    if rt = 0 then t.goOn f { c with pc := .parked }
    else
      match c.which with
      | .doIo => (t.cancelTimer c).finish f c (.error (s.addErrno c ctl))
      | .connectWithTimeout => (t.cancelTimer c).goOn f { c with pc := .check }

/-- The fiber runs on. -/
def resume (s : HookSystem F C U) (f : F) (c : HookCall) : HookSystem F C U :=
  let t := { s with resumed := Function.update s.resumed f (s.resumed f + 1) }.cancelTimer c
  if s.infos c.info = some true then t.finish f c (.error .etimedout)
  else
    match c.which with
    | .doIo => t.goOn f { c with pc := .issue }
    | .connectWithTimeout => t.goOn f { c with pc := .check }

/-- `getsockopt(fd, SOL_SOCKET, SO_ERROR, …)` and the tests on its result.  The kernel clears the
error when it is read. -/
def getsockopt (s : HookSystem F C U) (f : F) (c : HookCall) :
    Option Errno → HookSystem F C U
  | some e => s.finish f c (.error e)
  | none =>
    match s.connection c.fd with
    | .failed e =>
      { s with connection := Function.update s.connection c.fd .unconnected }.finish f c (.error e)
    | _ => s.finish f c (.ok 0)

/-- The steps of a call. -/
def callStep (s : HookSystem F C U) (f : F) (c : HookCall) :
    HookAction F C U → Option (HookSystem F C U)
  | .issue _ result =>
    if c.pc = .issue ∧ c.which = .doIo then some (s.issue f c result) else none
  | .connectF _ answer =>
    if c.pc = .issue ∧ c.which = .connectWithTimeout then s.connectF f c answer else none
  | .arm _ now => if c.pc = .arm then some (s.arm f c now) else none
  | .add _ ctl => if c.pc = .add then s.add f c ctl else none
  | .resume _ => if c.pc = .parked ∧ s.scheduled f then some (s.resume f c) else none
  | .getsockopt _ fail =>
    if c.pc = .check ∧ c.which = .connectWithTimeout then some (s.getsockopt f c fail) else none
  | _ => none

/-- The steps of a fiber that is in no call. -/
def freeStep (s : HookSystem F C U) (f : F) : HookAction F C U → Option (HookSystem F C U)
  | .doIo _ fd event timeout => some (s.start f .doIo fd event timeout)
  | .connect _ fd timeout => some (s.start f .connectWithTimeout fd .write timeout)
  | _ => none

/-- The steps that belong to no fiber in these functions. -/
def otherStep (s : HookSystem F C U) : HookAction F C U → Option (HookSystem F C U)
  | .run i fail => s.runQueued i fail
  | .expire now now' fuel => s.expire now now' fuel
  | .timer call =>
    if ∀ id ∈ call.target, id < s.timers.created ∧ id ∉ s.own then
      some { s with timers := call.run s.timers }
    else none
  | .event call => (call.run s.manager).map fun m => { s with manager := m }
  | .epollWait events => some { s with inbox := s.inbox ++ events }
  | .dispatch i fail => s.dispatch i fail
  | .settle fd failed =>
    if s.connection fd = .inProgress ∨ (s.connection fd = .established ∧ failed.isSome) then
      some { s with
        connection := Function.update s.connection fd (failed.elim .established .failed) }
    else none
  | _ => none

/-- The fiber that takes the action. -/
def fiberOf : HookAction F C U → Option F
  | .doIo f _ _ _ | .connect f _ _ | .issue f _ | .connectF f _ | .arm f _ | .add f _ | .resume f
  | .getsockopt f _ => some f
  | .run _ _ | .expire _ _ _ | .timer _ | .event _ | .epollWait _ | .dispatch _ _
  | .settle _ _ => none

/-- The machine of hooked calls. -/
def machine : Machine (HookSystem F C U) (HookAction F C U) where
  step s a :=
    match fiberOf a with
    | none => s.otherStep a
    | some f =>
      match s.activity f with
      | .inCall c => s.callStep f c a
      | _ => s.freeStep f a

end HookSystem

end CoroutineGateway
