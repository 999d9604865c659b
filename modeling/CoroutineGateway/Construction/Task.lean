import Mathlib.Data.Int.Notation
import Mathlib.Logic.Function.Basic

/-!
# Fibers and tasks

The state of a `Fiber` (`CoroutineLibrary/fiber.h`, `fiber.cpp`) as the scheduler sees it, and
the entries of the task queue (`Scheduler::ScheduleTask`, `scheduler.h`).  The machine context
of a fiber, its stack and its callback are left out: what a fiber does while it runs is up to
the actions of the machines that use it.

`resume` and `yield` carry the assertions of the source; `none` is a failed assertion.
-/

namespace CoroutineGateway

/-- `Fiber::State` -/
inductive FiberState where
  | ready
  | running
  | term
  deriving DecidableEq

namespace Fiber

variable {F : Type*} [DecidableEq F]

/-- `Fiber::resume`, up to the switch into the fiber. -/
def resume (state : F → FiberState) (f : F) : Option (F → FiberState) :=
  if state f = .ready then some (Function.update state f .running) else none

/-- `Fiber::yield`, up to the switch out of the fiber. -/
def yield (state : F → FiberState) (f : F) : Option (F → FiberState) :=
  if state f = .running ∨ state f = .term then
    some (if state f ≠ .term then Function.update state f .ready else state)
  else none

/-- The end of `Fiber::MainFunc`: the fiber terminates and yields. -/
def finish (state : F → FiberState) (f : F) : Option (F → FiberState) :=
  yield (Function.update state f .term) f

lemma yield_of_running {state : F → FiberState} {f : F} (h : state f = .running) :
    yield state f = some (Function.update state f .ready) := by
  simp [yield, h]

@[simp] lemma finish_eq (state : F → FiberState) (f : F) :
    finish state f = some (Function.update state f .term) := by
  simp [finish, yield]

end Fiber

/-- `Scheduler::ScheduleTask` over fibers `F` and callbacks `C`; `thread` is `-1` for a task any
thread may run. -/
structure ScheduleTask (F C : Type*) where
  fiber : Option F
  cb : Option C
  thread : ℤ
  deriving DecidableEq

namespace ScheduleTask

variable {F C : Type*}

/-- The test of `scheduleLock` and of the assertion in `run`: `fiber || cb`. -/
def nonempty (t : ScheduleTask F C) : Bool := t.fiber.isSome || t.cb.isSome

/-- `ScheduleTask(std::shared_ptr<Fiber>, int)` -/
def ofFiber (f : F) (thread : ℤ) : ScheduleTask F C := ⟨some f, none, thread⟩

/-- `ScheduleTask(std::function<void()>, int)` -/
def ofCb (c : C) (thread : ℤ) : ScheduleTask F C := ⟨none, some c, thread⟩

/-- The scan of `run` on the thread `tid` may take the task. -/
def eligible (tid : ℤ) (t : ScheduleTask F C) : Prop := t.thread = -1 ∨ t.thread = tid

instance (tid : ℤ) (t : ScheduleTask F C) : Decidable (t.eligible tid) :=
  inferInstanceAs (Decidable (_ ∨ _))

/-- The task is not pinned to a thread. -/
def unpinned (t : ScheduleTask F C) : Prop := t.thread = -1

instance (t : ScheduleTask F C) : Decidable t.unpinned :=
  inferInstanceAs (Decidable (_ = _))

end ScheduleTask

end CoroutineGateway
