import CoroutineGateway.Construction.Timer
import Mathlib.Algebra.Order.Ring.Int

/-!
# Sleeping fibers

The hooked `sleep`, `usleep` and `nanosleep` (`CoroutineLibrary/hook.cpp`), in a fiber with
`t_hook_enable` set: each arms a timer whose callback schedules the fiber again, and yields.  An
`int` or an `unsigned int` of the source has 32 bits, a `long` and a `time_t` 64; sums and products
of signed numbers wrap around, as in the compiled code.
-/

namespace CoroutineGateway

/-- `struct timespec`, with what `nanosleep` allows. -/
structure Timespec where
  tvSec : ℕ
  tvNsec : ℕ
  tvSec_lt : tvSec < 2 ^ 63
  tvNsec_lt : tvNsec < 10 ^ 9

/-- `timeout_ms` in `nanosleep`. -/
def Timespec.timeoutMs (req : Timespec) : ℤ :=
  Int.bmod (Int.bmod (Int.bmod (req.tvSec * 1000) (2 ^ 64) + (req.tvNsec / 1000 / 1000 : ℕ))
    (2 ^ 64)) (2 ^ 32)

namespace TimerManager

variable {α : Type*}

/-- `sleep`, up to the switch out of the fiber; `schedule` is the closure that schedules the fiber,
and `now` the clock `Timer::Timer` reads. -/
def sleep (m : TimerManager α) (seconds : UInt32) (schedule : Callback α) (now : ℤ) :
    TimerManager α × Bool :=
  m.addTimer (seconds * 1000).toNat (some schedule) false now

/-- `usleep` -/
def usleep (m : TimerManager α) (usec : UInt32) (schedule : Callback α) (now : ℤ) :
    TimerManager α × Bool :=
  m.addTimer (usec / 1000).toNat (some schedule) false now

/-- `nanosleep`; the `int` becomes a `uint64_t`. -/
def nanosleep (m : TimerManager α) (req : Timespec) (schedule : Callback α) (now : ℤ) :
    TimerManager α × Bool :=
  m.addTimer (req.timeoutMs % 2 ^ 64).toNat (some schedule) false now

end TimerManager

/-- A call of one of the three functions. -/
inductive SleepCall where
  | sleep (seconds : UInt32)
  | usleep (usec : UInt32)
  | nanosleep (req : Timespec)

namespace SleepCall

/-- The time asked for, in nanoseconds. -/
def duration : SleepCall → ℤ
  | sleep seconds => seconds.toNat * 1000000000
  | usleep usec => usec.toNat * 1000
  | nanosleep req => req.tvSec * 1000000000 + req.tvNsec

/-- The call in a fiber. -/
def arm {α : Type*} (m : TimerManager α) (schedule : Callback α) (now : ℤ) :
    SleepCall → TimerManager α × Bool
  | sleep seconds => m.sleep seconds schedule now
  | usleep usec => m.usleep usec schedule now
  | nanosleep req => m.nanosleep req schedule now

end SleepCall

end CoroutineGateway
