import CoroutineGateway.Framework.OrderedSet
import Mathlib.Algebra.Group.Nat.Defs
import Mathlib.Data.Int.Order.Basic
import Mathlib.Logic.Function.Basic

/-!
# The timer manager of the coroutine library

`Timer` and `TimerManager` (`CoroutineLibrary/timer.h`, `timer.cpp`).  Timers are heap objects
named by the order of their creation, since `m_timers` is a set of shared pointers; the set
itself is the ordered set of `Framework/OrderedSet.lean` under the comparator, which compares
`m_next` and nothing else.

A `time_point` of the system clock is its count of nanoseconds, a signed 64-bit number, and a
`uint64_t` of milliseconds is converted to that count.  The products and sums are taken modulo
`2^64`; the standard leaves an overflow undefined, and this is what the compiled code does.

Every reading of the clock is an argument of the operation that takes it.  The loop of
`listExpiredCb` need not terminate, so it is given a bound on its iterations and returns `none`
when the bound is reached before the loop ends.
-/

namespace CoroutineGateway

/-- A nullable `std::function<void()>` a timer can hold: a function of the user, or the closure
`std::bind(&OnTimer, weak_cond, cb)` that `addConditionTimer` builds. -/
inductive Callback (α : Type*) where
  | user (f : α)
  | onTimer (cond : ℕ) (cb : Option (Callback α))

/-- `Timer`.  `m_manager` is left out, there being one manager. -/
structure Timer (α : Type*) where
  /-- `m_recurring` -/
  recurring : Bool
  /-- `m_ms`, a `uint64_t` -/
  ms : ℕ
  /-- `m_next`, in nanoseconds -/
  next : ℤ
  /-- `m_cb`, `none` for `nullptr` -/
  cb : Option (Callback α)

/-- A `std::shared_ptr<Timer>`: the number of timers created before this one. -/
abbrev TimerId := ℕ

/-- `t + std::chrono::milliseconds(ms)`. -/
def addMs (t : ℤ) (ms : ℕ) : ℤ := Int.bmod (t + ms * 1000000) (2 ^ 64)

/-- `t - std::chrono::milliseconds(ms)`. -/
def subMs (t : ℤ) (ms : ℕ) : ℤ := Int.bmod (t - ms * 1000000) (2 ^ 64)

/-- `TimerManager`, with the timer objects its operations reach. -/
structure TimerManager (α : Type*) where
  /-- The timer objects. -/
  heap : TimerId → Timer α
  /-- How many were created. -/
  created : ℕ
  /-- `m_timers` -/
  timers : List TimerId
  /-- `m_tickled` -/
  tickled : Bool
  /-- `m_previouseTime` -/
  previouseTime : ℤ

namespace TimerManager

variable {α : Type*}

/-- The manager after its constructor, which reads the clock once. -/
def init (now : ℤ) : TimerManager α where
  heap _ := { recurring := false, ms := 0, next := 0, cb := none }
  created := 0
  timers := []
  tickled := false
  previouseTime := now

/-- `Timer::Comparator` compares this. -/
def next (m : TimerManager α) (id : TimerId) : ℤ := (m.heap id).next

/-- Overwrite one timer object. -/
def set (m : TimerManager α) (id : TimerId) (t : Timer α) : TimerManager α :=
  { m with heap := Function.update m.heap id t }

/-- `m_timers.find(timer)` -/
def find (m : TimerManager α) (id : TimerId) : Option TimerId :=
  OrderedSet.find m.next (m.next id) m.timers

/-- `m_timers.erase(it)` -/
def erase (m : TimerManager α) (it : TimerId) : TimerManager α :=
  { m with timers := m.timers.erase it }

/-- `m_timers.insert(timer)` -/
def insert (m : TimerManager α) (id : TimerId) : TimerManager α :=
  { m with timers := (OrderedSet.insert m.next id m.timers).1 }

/-! ## `Timer` -/

/-- `Timer::cancel` -/
def cancel (m : TimerManager α) (id : TimerId) : Bool × TimerManager α :=
  if (m.heap id).cb.isNone then (false, m)
  else
    let m := m.set id { m.heap id with cb := none }
    match m.find id with
    | some it => (true, m.erase it)
    | none => (true, m)

/-- `Timer::refresh`; `now` is the clock it reads. -/
def refresh (m : TimerManager α) (id : TimerId) (now : ℤ) : Bool × TimerManager α :=
  if (m.heap id).cb.isNone then (false, m)
  else
    match m.find id with
    | none => (false, m)
    | some it =>
      let m := m.erase it
      let m := m.set id { m.heap id with next := addMs now (m.heap id).ms }
      (true, m.insert id)

/-- `TimerManager::addTimer(std::shared_ptr<Timer>)`: the insertion, and whether
`onTimerInsertedAtFront` is called. -/
def addTimerPtr (m : TimerManager α) (id : TimerId) : TimerManager α × Bool :=
  let r := OrderedSet.insert m.next id m.timers
  let atFront := decide (r.1.head? = some r.2) && !m.tickled
  ({ m with timers := r.1, tickled := m.tickled || atFront }, atFront)

/-- The unlocked part of `Timer::reset`: the new period and deadline. -/
def resetFields (m : TimerManager α) (id : TimerId) (ms : ℕ) (fromNow : Bool) (now : ℤ) :
    TimerManager α :=
  let start := if fromNow then now else subMs (m.heap id).next (m.heap id).ms
  m.set id { m.heap id with ms := ms, next := addMs start ms }

/-- `Timer::reset`; `now` is the clock it reads when `from_now` is set. -/
def reset (m : TimerManager α) (id : TimerId) (ms : ℕ) (fromNow : Bool) (now : ℤ) :
    Bool × TimerManager α :=
  if ms = (m.heap id).ms ∧ !fromNow then (true, m)
  else if (m.heap id).cb.isNone then (false, m)
  else
    match m.find id with
    | none => (false, m)
    | some it => (true, (((m.erase it).resetFields id ms fromNow now).addTimerPtr id).1)

/-! ## `TimerManager` -/

/-- `TimerManager::addTimer(ms, cb, recurring)`; `now` is the clock `Timer::Timer` reads. -/
def addTimer (m : TimerManager α) (ms : ℕ) (cb : Option (Callback α)) (recurring : Bool)
    (now : ℤ) : TimerManager α × Bool :=
  let id := m.created
  let m := { m.set id { recurring, ms, next := addMs now ms, cb } with created := id + 1 }
  m.addTimerPtr id

/-- `TimerManager::addConditionTimer` -/
def addConditionTimer (m : TimerManager α) (ms : ℕ) (cb : Option (Callback α)) (cond : ℕ)
    (recurring : Bool) (now : ℤ) : TimerManager α × Bool :=
  m.addTimer ms (some (.onTimer cond cb)) recurring now

/-- `TimerManager::getNextTimer`: the milliseconds to the first deadline, `~0ull` without one. -/
def getNextTimer (m : TimerManager α) (now : ℤ) : TimerManager α × ℕ :=
  let m := { m with tickled := false }
  match m.timers with
  | [] => (m, 2 ^ 64 - 1)
  | id :: _ => (m, if now ≥ m.next id then 0 else ((m.next id - now) / 1000000).toNat)

/-- `TimerManager::hasTimer` -/
def hasTimer (m : TimerManager α) : Bool := !m.timers.isEmpty

/-- `TimerManager::detectClockRollover`; `now` is the clock it reads. -/
def detectClockRollover (m : TimerManager α) (now : ℤ) : Bool × TimerManager α :=
  (decide (now < subMs m.previouseTime (60 * 60 * 1000)), { m with previouseTime := now })

/-- The loop condition of `listExpiredCb`: the first timer, if the loop goes on. -/
def due (m : TimerManager α) (now : ℤ) (rollover : Bool) : Option TimerId :=
  match m.timers with
  | [] => none
  | id :: _ => if rollover || decide (m.next id ≤ now) then some id else none

/-- The loop body of `listExpiredCb` on the first timer `temp`, less the `push_back`. -/
def expire (m : TimerManager α) (now : ℤ) (temp : TimerId) : TimerManager α :=
  let m := { m with timers := m.timers.tail }
  if (m.heap temp).recurring then
    (m.set temp { m.heap temp with next := addMs now (m.heap temp).ms }).insert temp
  else
    m.set temp { m.heap temp with cb := none }

/-- The loop of `listExpiredCb`, of at most `fuel` iterations.  The second component lists the
timers expired so far with the callbacks appended to `cbs` for them. -/
def expireLoop (now : ℤ) (rollover : Bool) :
    ℕ → TimerManager α → List (TimerId × Option (Callback α)) →
      Option (TimerManager α × List (TimerId × Option (Callback α)))
  | 0, m, cbs => if (m.due now rollover).isNone then some (m, cbs) else none
  | fuel + 1, m, cbs =>
    match m.due now rollover with
    | none => some (m, cbs)
    | some temp => expireLoop now rollover fuel (m.expire now temp)
        (cbs ++ [(temp, (m.heap temp).cb)])

/-- `TimerManager::listExpiredCb` on an empty `cbs`; `now` is the clock it reads itself, `now'`
the one `detectClockRollover` reads. -/
def listExpiredCb (m : TimerManager α) (now now' : ℤ) (fuel : ℕ) :
    Option (TimerManager α × List (TimerId × Option (Callback α))) :=
  let r := m.detectClockRollover now'
  expireLoop now r.1 fuel r.2 []

/-! ## What the primitive updates leave alone -/

variable (m : TimerManager α) (id : TimerId) (t : Timer α)

@[simp] lemma set_timers : (m.set id t).timers = m.timers := rfl

@[simp] lemma set_created : (m.set id t).created = m.created := rfl

@[simp] lemma set_heap_self : (m.set id t).heap id = t := by simp [set]

@[simp] lemma set_heap_ne {e : TimerId} (h : e ≠ id) : (m.set id t).heap e = m.heap e := by
  simp [set, h]

@[simp] lemma erase_timers (it : TimerId) : (m.erase it).timers = m.timers.erase it := rfl

@[simp] lemma erase_heap (it : TimerId) : (m.erase it).heap = m.heap := rfl

@[simp] lemma erase_created (it : TimerId) : (m.erase it).created = m.created := rfl

@[simp] lemma insert_heap : (m.insert id).heap = m.heap := rfl

@[simp] lemma insert_created : (m.insert id).created = m.created := rfl

@[simp] lemma addTimerPtr_heap : (m.addTimerPtr id).1.heap = m.heap := rfl

/-- Every timer expired by one more turn of the loop was the first of the set. -/
lemma due_eq_some {m : TimerManager α} {now : ℤ} {rollover : Bool} {temp : TimerId}
    (h : m.due now rollover = some temp) : m.timers = temp :: m.timers.tail := by
  unfold due at h
  split at h
  · exact absurd h (by simp)
  · rename_i e l hl
    split_ifs at h
    obtain rfl : e = temp := Option.some.inj h
    simp [hl]

end TimerManager

end CoroutineGateway
