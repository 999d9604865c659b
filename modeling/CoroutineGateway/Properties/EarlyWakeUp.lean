import CoroutineGateway.Construction.Sleep
import Mathlib.Tactic.Ring

/-!
# Waking up too early

A fiber that calls `sleep`, `usleep` or `nanosleep` is to be woken no sooner than the time it asked
for has passed.  The three turn that time into milliseconds in three types: `sleep` loses what does
not fit into an `unsigned int`, `usleep` and `nanosleep` lose the part of a millisecond, and
`nanosleep` goes through an `int`.  `deadline_iff` says for which calls the deadline is late enough.
-/

namespace CoroutineGateway

/-- What a clock can read: a signed 64-bit count of nanoseconds. -/
abbrev TimePoint : Type := {t : ℤ // -2 ^ 63 ≤ t ∧ t < 2 ^ 63}

variable {α : Type*}

/-! ## The deadline -/

lemma next_addTimer_self (m : TimerManager α) (ms : ℕ) (cb : Option (Callback α))
    (recurring : Bool) (now : ℤ) :
    ((m.addTimer ms cb recurring now).1.heap m.created).next = addMs now ms := by
  rw [TimerManager.addTimer, TimerManager.addTimerPtr_heap]
  simp

/-- A signed number of nanoseconds after `now` is late enough when it is as long as `d` and does not
reach beyond the last time, or when it reaches back beyond the first one and comes out again at the
far end. -/
lemma le_bmod_add_iff (now : TimePoint) {x d : ℤ} (hlo : -2 ^ 62 ≤ x) (hhi : x < 2 ^ 62)
    (hd : 0 ≤ d) :
    now + d ≤ Int.bmod (now + x) (2 ^ 64) ↔
      d ≤ x ∧ now + x < (2 : ℤ) ^ 63 ∨ now + x < (-2 ^ 63 : ℤ) ∧ d ≤ x + 2 ^ 64 := by
  obtain ⟨t, ht⟩ := now
  show t + d ≤ Int.bmod (t + x) (2 ^ 64) ↔ d ≤ x ∧ t + x < 2 ^ 63 ∨ t + x < -2 ^ 63 ∧ d ≤ x + 2 ^ 64
  by_cases hback : t + x < -2 ^ 63
  · have hsum : Int.bmod (t + x) (2 ^ 64) = t + x + 2 ^ 64 :=
      (Int.bmod_eq_iff (by omega)).2 ⟨by omega, by omega, by omega⟩
    rw [hsum]
    omega
  by_cases hfit : t + x < 2 ^ 63
  · have hsum : Int.bmod (t + x) (2 ^ 64) = t + x := Int.bmod_eq_of_le (by omega) (by omega)
    rw [hsum]
    omega
  · have hsum : Int.bmod (t + x) (2 ^ 64) = t + x - 2 ^ 64 :=
      (Int.bmod_eq_iff (by omega)).2 ⟨by omega, by omega, by omega⟩
    rw [hsum]
    omega

/-- The deadline of a number of milliseconds that a `uint64_t` was made from. -/
lemma addMs_toNat_emod (t w : ℤ) :
    addMs t (w % 2 ^ 64).toNat = Int.bmod (t + w * 1000000) (2 ^ 64) := by
  have hcast : (((w % 2 ^ 64).toNat : ℕ) : ℤ) = w - (2 ^ 64 : ℕ) * (w / 2 ^ 64) := by omega
  have hshift : t + (w - (2 ^ 64 : ℕ) * (w / 2 ^ 64)) * 1000000
      = t + w * 1000000 - (2 ^ 64 : ℕ) * (w / 2 ^ 64 * 1000000) := by ring
  rw [addMs, hcast, hshift, Int.sub_mul_bmod_self_left]

/-! ## The three calls -/

/-- The milliseconds of a `timespec`, as a number. -/
def Timespec.millis (req : Timespec) : ℕ := req.tvSec * 1000 + req.tvNsec / 1000000

lemma Timespec.timeoutMs_eq (req : Timespec) : req.timeoutMs = Int.bmod req.millis (2 ^ 32) := by
  have hdiv : req.tvNsec / 1000 / 1000 = req.tvNsec / 1000000 := by omega
  have hmillis : (req.millis : ℤ) = req.tvSec * 1000 + (req.tvNsec / 1000 / 1000 : ℕ) := by
    rw [hdiv, millis, Nat.cast_add, Nat.cast_mul, Nat.cast_ofNat]
  have hnarrow : ∀ x : ℤ, Int.bmod (Int.bmod x (2 ^ 64)) (2 ^ 32) = Int.bmod x (2 ^ 32) :=
    fun _ ↦ Int.bmod_bmod_of_dvd (Nat.pow_dvd_pow 2 (by omega))
  unfold timeoutMs
  rw [Int.bmod_add_bmod, hnarrow, hmillis]

namespace SleepCall

/-- The calls at `now` whose deadline comes out late enough.  The last case of `nanosleep` is an
accident: a negative number of milliseconds that leads back beyond the earliest time, which the
arithmetic takes for a late one. -/
def OnTime (now : ℤ) : SleepCall → Prop
  | sleep seconds => seconds.toNat * 1000 < 2 ^ 32 ∧ now + seconds.toNat * 1000000000 < 2 ^ 63
  | usleep usec => 1000 ∣ usec.toNat ∧ now + usec.toNat * 1000 < 2 ^ 63
  | nanosleep req =>
    1000000 ∣ req.tvNsec ∧ req.millis < 2 ^ 31 ∧ now + req.millis * 1000000 < 2 ^ 63 ∨
      2 ^ 31 ≤ req.millis % 2 ^ 32 ∧
        let short : ℤ := 2 ^ 32 - req.millis % 2 ^ 32
        now < short * 1000000 - 2 ^ 63 ∧
          req.tvSec * 1000000000 + req.tvNsec + short * 1000000 ≤ 2 ^ 64

lemma sleep_deadline_iff (m : TimerManager α) (seconds : UInt32) (schedule : Callback α)
    (now : TimePoint) :
    now + (sleep seconds).duration ≤ ((m.sleep seconds schedule now).1.heap m.created).next ↔
      (sleep seconds).OnTime now := by
  have hms : (seconds * 1000).toNat = seconds.toNat * 1000 % 2 ^ 32 := by simp
  have hlt : seconds.toNat < 2 ^ 32 := seconds.toNat_lt
  rw [TimerManager.sleep, next_addTimer_self, addMs, le_bmod_add_iff _ (by omega) (by omega), hms,
    duration, OnTime]
  · omega
  · rw [duration]; omega

lemma usleep_deadline_iff (m : TimerManager α) (usec : UInt32) (schedule : Callback α)
    (now : TimePoint) :
    now + (usleep usec).duration ≤ ((m.usleep usec schedule now).1.heap m.created).next ↔
      (usleep usec).OnTime now := by
  have hms : (usec / 1000).toNat = usec.toNat / 1000 := by simp
  have hlt : usec.toNat < 2 ^ 32 := usec.toNat_lt
  rw [TimerManager.usleep, next_addTimer_self, addMs, le_bmod_add_iff _ (by omega) (by omega), hms,
    duration, OnTime]
  · omega
  · rw [duration]; omega

lemma nanosleep_deadline_iff (m : TimerManager α) (req : Timespec) (schedule : Callback α)
    (now : TimePoint) :
    now + (nanosleep req).duration ≤ ((m.nanosleep req schedule now).1.heap m.created).next ↔
      (nanosleep req).OnTime now := by
  have hd : 0 ≤ (nanosleep req).duration := by rw [duration]; omega
  have hmillis : req.millis = req.tvSec * 1000 + req.tvNsec / 1000000 := rfl
  rw [TimerManager.nanosleep, next_addTimer_self, addMs_toNat_emod, req.timeoutMs_eq]
  by_cases hneg : 2 ^ 31 ≤ req.millis % 2 ^ 32
  · have hw : Int.bmod req.millis (2 ^ 32) = (req.millis % 2 ^ 32 : ℕ) - 2 ^ 32 :=
      (Int.bmod_eq_iff (by omega)).2 ⟨by omega, by omega, by omega⟩
    rw [hw, le_bmod_add_iff _ (by omega) (by omega) hd, duration, OnTime]
    omega
  · have hw : Int.bmod req.millis (2 ^ 32) = (req.millis % 2 ^ 32 : ℕ) :=
      (Int.bmod_eq_iff (by omega)).2 ⟨by omega, by omega, by omega⟩
    rw [hw, le_bmod_add_iff _ (by omega) (by omega) hd, duration, OnTime]
    omega

/-- A call wakes its fiber no sooner than asked exactly when `OnTime` holds of it. -/
theorem deadline_iff (m : TimerManager α) (c : SleepCall) (schedule : Callback α)
    (now : TimePoint) :
    now + c.duration ≤ ((c.arm m schedule now).1.heap m.created).next ↔ c.OnTime now := by
  cases c with
  | sleep seconds => exact sleep_deadline_iff m seconds schedule now
  | usleep usec => exact usleep_deadline_iff m usec schedule now
  | nanosleep req => exact nanosleep_deadline_iff m req schedule now

/-- Half a millisecond, asked for at the epoch, is over at once. -/
theorem deadline_half_millisecond :
    ¬ (0 + (usleep 500).duration ≤
      (((usleep 500).arm (TimerManager.init 0) (.user ()) 0).1.heap 0).next) := by
  intro h
  have hontime := (usleep_deadline_iff (TimerManager.init 0) 500 (.user ()) ⟨0, by decide⟩).1 h
  exact absurd hontime.1 (by decide)

end SleepCall

end CoroutineGateway
