import CoroutineGateway.Construction.TimedScheduler

/-!
# Shutting the manager down

After `Scheduler::stop` has set `m_stopping`, a worker leaves `run()` when its idle fiber has ended
and there is no task for it.  The idle fiber ends when `IOManager::stopping` is true, and that looks
at three things one after the other: at the timers (`getNextTimer`), at `m_pendingEventCount`, and
under `m_mutex` at what `Scheduler::stopping` asks for.  Between them everything can change.

`StoppingManager` is the machine of `Construction/TimedScheduler.lean` with `m_pendingEventCount`,
which `addEvent` increments and the removal of an event decrements, and with the operations on a
timer that a user has.  What a worker has found in `stopping` is recorded; `noEvents` is what it has
found in `m_pendingEventCount` since it last asked for the next timer.  That `Timer::reset` may call
`tickle` is left out, since that wakes up a worker at most.
-/

namespace CoroutineGateway

/-- `IOManager`, with the number of the events that are waited for. -/
structure StoppingManager (W O C α : Type*) where
  timed : TimedScheduler W O C α
  /-- `m_pendingEventCount` -/
  pendingEventCount : ℕ
  /-- The worker has found `m_pendingEventCount == 0`. -/
  noEvents : W → Bool

/-- The atomic steps. -/
inductive StoppingAction (W O C α : Type*) where
  /-- A step of the scheduler with its timers. -/
  | timed (a : TimedAction W O C α)
  /-- `m_pendingEventCount == 0` in `stopping`, called by `idle`. -/
  | readEvents (w : W)
  /-- `++m_pendingEventCount` -/
  | eventAdded (th : W ⊕ O)
  /-- `--m_pendingEventCount` -/
  | eventRemoved (th : W ⊕ O)
  | cancel (th : W ⊕ O) (id : TimerId)
  | refresh (th : W ⊕ O) (id : TimerId) (now : ℤ)
  | reset (th : W ⊕ O) (id : TimerId) (ms : ℕ) (fromNow : Bool) (now : ℤ)

namespace StoppingManager

variable {W O C α : Type*}

/-- The manager after its construction. -/
def init (now : ℤ) : StoppingManager W O C α where
  timed := .init now
  pendingEventCount := 0
  noEvents _ := false

/-- `getNextTimer` has returned `~0ull` to the worker. -/
def noTimers (s : StoppingManager W O C α) (w : W) : Bool :=
  (s.timed.timeout w).map Timeout.ms = some (2 ^ 64 - 1)

/-- The thread can call an operation. -/
def free (s : StoppingManager W O C α) (th : W ⊕ O) : Prop :=
  s.timed.sched.aborted = false ∧ s.timed.sched.mayCall th ∧ s.timed.sched.call th = none

instance (s : StoppingManager W O C α) (th : W ⊕ O) : Decidable (s.free th) :=
  inferInstanceAs (Decidable (_ ∧ _ ∧ _))

/-- The timers after an operation on one of them. -/
def setTimers (s : StoppingManager W O C α) (timers : TimerManager α) : StoppingManager W O C α :=
  { s with timed := { s.timed with timers } }

variable [DecidableEq W] [DecidableEq O]

/-- A step of the scheduler with its timers.  The idle fiber ends only if the worker has found no
event, and the search for events comes after the one for timers. -/
def stepTimed (s : StoppingManager W O C α) (threadId : W → ℤ) (a : TimedAction W O C α) :
    Option (StoppingManager W O C α) :=
  match a with
  | .sched (.idleExit w) =>
    if s.noEvents w then
      ((TimedScheduler.machine threadId).step s.timed a).map fun timed => { s with timed }
    else none
  | .getNextTimer w _ =>
    ((TimedScheduler.machine threadId).step s.timed a).map fun timed =>
      { s with timed, noEvents := Function.update s.noEvents w false }
  | a => ((TimedScheduler.machine threadId).step s.timed a).map fun timed => { s with timed }

/-- The machine of the manager. -/
def machine (threadId : W → ℤ) :
    Machine (StoppingManager W O C α) (StoppingAction W O C α) where
  step s
    | .timed a => s.stepTimed threadId a
    | .readEvents w =>
      if s.timed.AtIdle w .entered ∧ s.noTimers w then
        some { s with noEvents := Function.update s.noEvents w (s.pendingEventCount = 0) }
      else none
    | .eventAdded th =>
      if s.free th then some { s with pendingEventCount := s.pendingEventCount + 1 } else none
    | .eventRemoved th =>
      if s.free th ∧ 0 < s.pendingEventCount then
        some { s with pendingEventCount := s.pendingEventCount - 1 }
      else none
    | .cancel th id =>
      if s.free th then some (s.setTimers (s.timed.timers.cancel id).2) else none
    | .refresh th id now =>
      if s.free th then some (s.setTimers (s.timed.timers.refresh id now).2) else none
    | .reset th id ms fromNow now =>
      if s.free th then some (s.setTimers (s.timed.timers.reset id ms fromNow now).2) else none

end StoppingManager

end CoroutineGateway
