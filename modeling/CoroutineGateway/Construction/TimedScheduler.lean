import CoroutineGateway.Construction.Scheduler
import CoroutineGateway.Construction.Timer

/-!
# The scheduler and its timers

`IOManager` is a `Scheduler` and a `TimerManager`: `IOManager::idle` asks `getNextTimer` how long it
may wait in `epoll_wait`, and `onTimerInsertedAtFront` is `tickle`.  `TimedScheduler` is the machine
of `Construction/Scheduler.lean` together with the timers, where every critical section of the timer
manager is one more step: the insertion of a timer by any thread that can call, the two calls of
`getNextTimer` in `idle` (one is in `stopping`), and `listExpiredCb`.

`epoll_wait` blocks until a wake time within the timeout it was given, counted from the reading of
the clock that the timeout was computed from; it returns at once where the timeout is zero or there
is something to report.  That a blocked worker wakes up, for whatever reason, is the action `wake`
of the scheduler, and the callbacks of expired timers are pushes of the woken worker.

Timers are added and expire; that a user cancels, refreshes or resets one is not part of the
machine.  The clock does not go back.  `Timer::Timer` and `listExpiredCb` read it before they take
the lock, so other threads may have read it since.
-/

namespace CoroutineGateway

/-- What a worker knows when it calls `epoll_wait`: the milliseconds that `getNextTimer` returned,
and when it read the clock. -/
structure Timeout where
  since : ℤ
  ms : ℕ
  deriving DecidableEq

namespace Timeout

/-- `std::min(next_timeout, MAX_TIMEOUT)` -/
def wait (t : Timeout) : ℕ := min t.ms 5000

/-- The end of the timeout, in nanoseconds. -/
def limit (t : Timeout) : ℤ := t.since + t.wait * 1000000

end Timeout

/-- `IOManager`: the scheduler and the timer manager. -/
structure TimedScheduler (W O C α : Type*) where
  sched : Scheduler W O C
  timers : TimerManager α
  /-- The last reading of the clock. -/
  clock : ℤ
  /-- What `getNextTimer` told a worker since it entered `idle`. -/
  timeout : W → Option Timeout
  /-- Until when a worker in `epoll_wait` is blocked. -/
  wakeTime : W → ℤ

/-- The atomic steps. -/
inductive TimedAction (W O C α : Type*) where
  /-- A step of the scheduler. -/
  | sched (a : SchedulerAction W O C)
  /-- The critical section of `addTimer`, with the decision to call `onTimerInsertedAtFront`. -/
  | addTimer (th : W ⊕ O) (ms : ℕ) (cb : Option (Callback α)) (recurring : Bool) (now : ℤ)
  /-- `getNextTimer` in `idle`. -/
  | getNextTimer (w : W) (now : ℤ)
  /-- `getNextTimer` in `stopping`, called by some other code. -/
  | stopping (now : ℤ)
  /-- `epoll_wait` finds nothing and blocks. -/
  | block (w : W) (wake : ℤ)
  /-- `epoll_wait` returns at once. -/
  | poll (w : W)
  /-- The critical section of `listExpiredCb`. -/
  | listExpiredCb (w : W) (now now' : ℤ) (fuel : ℕ)

/-- Where the worker stands in `idle`. -/
def Phase.idlePc {C : Type*} : Phase C → Option IdlePc
  | .idle pc => some pc
  | _ => none

namespace TimedScheduler

variable {W O C α : Type*}

/-- The manager after its construction, with every worker about to scan. -/
def init (now : ℤ) : TimedScheduler W O C α where
  sched := .init
  timers := .init now
  clock := now
  timeout _ := none
  wakeTime _ := 0

/-- The worker is at a point of `idle` and free to go on. -/
def AtIdle (s : TimedScheduler W O C α) (w : W) (pc : IdlePc) : Prop :=
  s.sched.aborted = false ∧ s.sched.call (.inl w) = none ∧ (s.sched.phase w).idlePc = some pc

instance (s : TimedScheduler W O C α) (w : W) (pc : IdlePc) : Decidable (s.AtIdle w pc) :=
  inferInstanceAs (Decidable (_ ∧ _ ∧ _))

variable [DecidableEq W] [DecidableEq O]

/-- A step of the scheduler alone. -/
def lift (s : TimedScheduler W O C α) (threadId : W → ℤ) (a : SchedulerAction W O C) :
    Option (TimedScheduler W O C α) :=
  ((Scheduler.machine threadId).step s.sched a).map fun sched => { s with sched }

/-- A step of the scheduler.  Whether `epoll_wait` blocks is a step of its own, a worker that enters
`idle` has not asked for the next timer, and `stopping` asks for no timer. -/
def stepSched (s : TimedScheduler W O C α) (threadId : W → ℤ) :
    SchedulerAction W O C → Option (TimedScheduler W O C α)
  | .block _ => none
  | .idleEnter w =>
    (s.lift threadId (.idleEnter w)).map fun s =>
      { s with timeout := Function.update s.timeout w none }
  | .idleExit w =>
    if (s.timeout w).map Timeout.ms = some (2 ^ 64 - 1) then s.lift threadId (.idleExit w) else none
  | a => s.lift threadId a

/-- `addTimer` -/
def addTimer (s : TimedScheduler W O C α) (th : W ⊕ O) (ms : ℕ) (cb : Option (Callback α))
    (recurring : Bool) (now : ℤ) : TimedScheduler W O C α :=
  let r := s.timers.addTimer ms cb recurring now
  { s with
    timers := r.1
    clock := max s.clock now
    sched := if r.2 then s.sched.setCall th (some .test) else s.sched }

/-- `epoll_wait` blocks. -/
def block (s : TimedScheduler W O C α) (w : W) (wake : ℤ) : TimedScheduler W O C α :=
  { s with
    sched := s.sched.move w (.idle .blocked)
    wakeTime := Function.update s.wakeTime w wake }

/-- The machine of the manager. -/
def machine (threadId : W → ℤ) :
    Machine (TimedScheduler W O C α) (TimedAction W O C α) where
  step s
    | .sched a => s.stepSched threadId a
    | .addTimer th ms cb recurring now =>
      if s.sched.aborted = false ∧ s.sched.mayCall th ∧ s.sched.call th = none then
        some (s.addTimer th ms cb recurring now)
      else none
    | .getNextTimer w now =>
      if s.AtIdle w .entered ∧ s.clock ≤ now then
        let r := s.timers.getNextTimer now
        some { s with
          timers := r.1
          clock := now
          timeout := Function.update s.timeout w (some ⟨now, r.2⟩) }
      else none
    | .stopping now =>
      if s.clock ≤ now then
        some { s with timers := (s.timers.getNextTimer now).1, clock := now }
      else none
    | .block w wake =>
      if s.AtIdle w .entered ∧ ∃ t ∈ s.timeout w, 0 < t.wait ∧ wake ≤ t.limit then
        some (s.block w wake)
      else none
    | .poll w =>
      if s.AtIdle w .entered ∧ (s.timeout w).isSome then
        some { s with sched := s.sched.move w (.idle .woken) }
      else none
    | .listExpiredCb w now now' fuel =>
      if s.AtIdle w .woken ∧ s.clock ≤ now' ∧ now ≤ now' then
        (s.timers.listExpiredCb now now' fuel).map fun r =>
          { s with timers := r.1, clock := now' }
      else none

end TimedScheduler

end CoroutineGateway
