import CoroutineGateway.Construction.Timer
import CoroutineGateway.Framework.Machine

/-!
# Timers under several threads

The operations of `Timer` and `TimerManager` (`CoroutineLibrary/timer.cpp`) take the lock of the
manager once, and are one step each.  `reset` is the exception.  It compares the period without the
lock, takes the timer out of the set under the lock, writes the new period and deadline without it,
and calls `addTimer`, which takes the lock again.
-/

namespace CoroutineGateway

/-- Where a thread stands in `Timer::reset`. -/
inductive ResetPc where
  /-- In no call of `reset`. -/
  | idle
  /-- Before the section that erases the timer. -/
  | erase (id : TimerId) (ms : ℕ) (fromNow : Bool)
  /-- The timer is erased, and its fields are to be written. -/
  | update (id : TimerId) (ms : ℕ) (fromNow : Bool)
  /-- Before `addTimer`. -/
  | add (id : TimerId)
  deriving DecidableEq

/-- The timer that is reset. -/
def ResetPc.timer : ResetPc → Option TimerId
  | .idle => none
  | .erase id _ _ | .update id _ _ | .add id => some id

/-- The timer that `reset` has taken out of the set and not put back yet. -/
def ResetPc.holds : ResetPc → Option TimerId
  | .update id _ _ | .add id => some id
  | _ => none

/-- A manager, and the threads `T` that use it. -/
structure TimerThreads (T α : Type*) where
  manager : TimerManager α
  pc : T → ResetPc
  /-- The timers whose `cancel` returned `true`. -/
  cancelled : List TimerId

/-- The steps of a thread. -/
inductive TimerThreadOp (T α : Type*) where
  | addTimer (th : T) (ms : ℕ) (cb : Option (Callback α)) (recurring : Bool) (now : ℤ)
  | cancel (th : T) (id : TimerId)
  | refresh (th : T) (id : TimerId) (now : ℤ)
  | listExpiredCb (th : T) (now now' : ℤ) (fuel : ℕ)
  /-- `reset` is called, with its first test. -/
  | reset (th : T) (id : TimerId) (ms : ℕ) (fromNow : Bool)
  /-- The section of `reset` that erases the timer. -/
  | erase (th : T)
  /-- The unlocked part of `reset`; `now` is the clock it reads. -/
  | update (th : T) (now : ℤ)
  /-- The section of `addTimer` called by `reset`. -/
  | add (th : T)

namespace TimerThreads

variable {T α : Type*}

/-- A new manager, used by nobody. -/
def init (now : ℤ) : TimerThreads T α := ⟨.init now, fun _ => .idle, []⟩

variable [DecidableEq T]

/-- A thread goes on. -/
def goOn (s : TimerThreads T α) (th : T) (pc : ResetPc) : TimerThreads T α :=
  { s with pc := Function.update s.pc th pc }

/-- The section of `reset` that looks the timer up and erases it; `false` where `reset` returns. -/
def eraseSection (m : TimerManager α) (id : TimerId) : Bool × TimerManager α :=
  if (m.heap id).cb.isNone then (false, m)
  else
    match m.find id with
    | none => (false, m)
    | some it => (true, m.erase it)

/-- The steps of a thread that is in no call of `reset`. -/
def idleStep (s : TimerThreads T α) : TimerThreadOp T α → Option (TimerThreads T α)
  | .addTimer _ ms cb recurring now =>
    some { s with manager := (s.manager.addTimer ms cb recurring now).1 }
  | .cancel _ id =>
    if id < s.manager.created then
      let r := s.manager.cancel id
      some { s with manager := r.2, cancelled := if r.1 then id :: s.cancelled else s.cancelled }
    else none
  | .refresh _ id now =>
    if id < s.manager.created then some { s with manager := (s.manager.refresh id now).2 }
    else none
  | .listExpiredCb _ now now' fuel =>
    (s.manager.listExpiredCb now now' fuel).map fun r => { s with manager := r.1 }
  | .reset th id ms fromNow =>
    if id < s.manager.created then
      some (s.goOn th (if ms = (s.manager.heap id).ms ∧ !fromNow then .idle
        else .erase id ms fromNow))
    else none
  | _ => none

/-- The thread that takes the step. -/
def threadOf : TimerThreadOp T α → T
  | .addTimer th _ _ _ _ | .cancel th _ | .refresh th _ _ | .listExpiredCb th _ _ _
  | .reset th _ _ _ | .erase th | .update th _ | .add th => th

/-- The machine of all interleavings. -/
def machine : Machine (TimerThreads T α) (TimerThreadOp T α) where
  step s a :=
    match s.pc (threadOf a), a with
    | .idle, a => s.idleStep a
    | .erase id ms fromNow, .erase th =>
      let r := eraseSection s.manager id
      some ({ s with manager := r.2 }.goOn th (if r.1 then .update id ms fromNow else .idle))
    | .update id ms fromNow, .update th now =>
      some ({ s with manager := s.manager.resetFields id ms fromNow now }.goOn th (.add id))
    | .add id, .add th => some ({ s with manager := (s.manager.addTimerPtr id).1 }.goOn th .idle)
    | _, _ => none

end TimerThreads

end CoroutineGateway
