import CoroutineGateway.Construction.Task
import CoroutineGateway.Framework.Machine
import Mathlib.Data.Finset.Basic

/-!
# Switching between fibers

What `Construction/Task.lean` leaves out of a `Fiber` (`CoroutineLibrary/fiber.h`, `fiber.cpp`): its
machine context `m_ctx`, and the three thread-local pointers `t_fiber`, `t_thread_fiber` and
`t_scheduler_fiber` by which `resume` and `yield` find out where to switch.

`FiberSwitch` is the machine of some threads and all fibers.  A context is a stack with the position
at which it was left, counted by the number of times that the stack had been switched to.  `resume`
and `yield` first change the state and `t_fiber` and then call `swapcontext`, which are two steps:
in between other threads go on, and `swap` holds the two contexts of the call.  `swapcontext` itself
is one step.  The fiber of a thread itself, which `GetThis` makes, has the stack of the thread.

As in `Construction/Task.lean` a failed assertion is `none`, and so is a null pointer that is
followed.  `m_runInScheduler` of the fiber of a thread is not initialized, so that this fiber cannot
yield.  `Fiber::reset`, which nobody calls, is left out, and so is the end of a fiber's life.
-/

namespace CoroutineGateway

/-- `ucontext_t`: a stack, and how often it had been switched to when the context was saved. -/
structure Context where
  stack : ℕ
  entry : ℕ
  deriving DecidableEq

/-- The fibers `0, …, fibers - 1` and the threads that run them. -/
structure FiberSwitch (T : Type*) where
  fibers : ℕ
  /-- `m_state` -/
  state : ℕ → FiberState
  /-- `m_runInScheduler` -/
  runInScheduler : ℕ → Bool
  /-- The fiber is that of a thread and has no stack of its own. -/
  main : ℕ → Bool
  /-- `m_ctx` -/
  ctx : ℕ → Context
  /-- How often the stack of a fiber has been switched to. -/
  entries : ℕ → ℕ
  /-- `curr` in the call of `MainFunc` on the stack of a fiber -/
  curr : ℕ → Option ℕ
  /-- On which fiber's stack the thread is, if it has a fiber at all. -/
  running : T → Option ℕ
  /-- `t_fiber` -/
  fiber : T → Option ℕ
  /-- `t_thread_fiber` -/
  threadFiber : T → Option ℕ
  /-- `t_scheduler_fiber` -/
  schedulerFiber : T → Option ℕ
  /-- The thread is about to call `swapcontext(&src->m_ctx, &dst->m_ctx)`. -/
  swap : T → Option (ℕ × ℕ)

/-- The atomic steps. -/
inductive FiberAction (T : Type*) where
  /-- `Fiber::GetThis` -/
  | getThis (th : T)
  /-- `Fiber::Fiber(cb, stacksize, run_in_scheduler)` -/
  | new (runInScheduler : Bool)
  /-- The constructor of a `Scheduler` with `use_caller`, after `GetThis`. -/
  | useCaller (th : T)
  /-- `Fiber::resume`, up to the call of `swapcontext`. -/
  | resume (th : T) (f : ℕ)
  /-- `Fiber::GetThis()->yield()`, up to the call of `swapcontext`. -/
  | yield (th : T)
  /-- The end of `Fiber::MainFunc`, up to the call of `swapcontext`. -/
  | finish (th : T)
  | swapcontext (th : T)

namespace FiberSwitch

variable {T : Type*}

/-- No thread has a fiber. -/
def init : FiberSwitch T where
  fibers := 0
  state _ := .ready
  runInScheduler _ := false
  main _ := false
  ctx f := ⟨f, 0⟩
  entries _ := 0
  curr _ := none
  running _ := none
  fiber _ := none
  threadFiber _ := none
  schedulerFiber _ := none
  swap _ := none

/-- The fiber from which `resume` switches to `f`, and to which `yield` switches back. -/
def returnsTo (s : FiberSwitch T) (th : T) (f : ℕ) : Option ℕ :=
  if s.runInScheduler f then s.schedulerFiber th else s.threadFiber th

/-- A new fiber with a stack of its own: `makecontext` starts it at `MainFunc`. -/
def newFiber (s : FiberSwitch T) (runInScheduler : Bool) : FiberSwitch T :=
  { s with
    fibers := s.fibers + 1
    state := Function.update s.state s.fibers .ready
    runInScheduler := Function.update s.runInScheduler s.fibers runInScheduler
    main := Function.update s.main s.fibers false
    ctx := Function.update s.ctx s.fibers ⟨s.fibers, 0⟩
    entries := Function.update s.entries s.fibers 0
    curr := Function.update s.curr s.fibers none }

variable [DecidableEq T]

/-- The fiber of the thread, made by `GetThis`: the thread is on its stack, and it is the fiber of
the scheduler as well. -/
def newMain (s : FiberSwitch T) (th : T) : FiberSwitch T :=
  { s with
    fibers := s.fibers + 1
    state := Function.update s.state s.fibers .running
    main := Function.update s.main s.fibers true
    ctx := Function.update s.ctx s.fibers ⟨s.fibers, 1⟩
    entries := Function.update s.entries s.fibers 1
    curr := Function.update s.curr s.fibers none
    running := Function.update s.running th (some s.fibers)
    fiber := Function.update s.fiber th (some s.fibers)
    threadFiber := Function.update s.threadFiber th (some s.fibers)
    schedulerFiber := Function.update s.schedulerFiber th (some s.fibers) }

/-- `resume` on the fiber `f`. -/
def resume (s : FiberSwitch T) (th : T) (f : ℕ) : Option (FiberSwitch T) :=
  match Fiber.resume s.state f, s.returnsTo th f with
  | some state, some t => some { s with
      state
      fiber := Function.update s.fiber th (some f)
      swap := Function.update s.swap th (some (t, f)) }
  | _, _ => none

/-- `yield` on the fiber `f`, where `state` is what becomes of the states. -/
def leave (s : FiberSwitch T) (th : T) (f : ℕ) (state : Option (ℕ → FiberState)) :
    Option (FiberSwitch T) :=
  if s.main f then none
  else
    match state, s.returnsTo th f with
    | some state, some t => some { s with
        state
        fiber := Function.update s.fiber th (some t)
        swap := Function.update s.swap th (some (f, t)) }
    | _, _ => none

/-- `swapcontext(&src->m_ctx, &dst->m_ctx)` on a thread that is on the stack of `x`.  A stack that
is switched to for the first time begins with `curr = GetThis()` in `MainFunc`. -/
def swapcontext (s : FiberSwitch T) (th : T) (x src dst : ℕ) : FiberSwitch T :=
  let ctx := Function.update s.ctx src ⟨x, s.entries x⟩
  let stack := (ctx dst).stack
  { s with
    ctx
    entries := Function.update s.entries stack (s.entries stack + 1)
    curr := if s.entries stack = 0 then Function.update s.curr stack (s.fiber th) else s.curr
    running := Function.update s.running th (some stack)
    swap := Function.update s.swap th none }

/-- The machine of the fibers.  A thread that is about to call `swapcontext` does nothing else. -/
def machine : Machine (FiberSwitch T) (FiberAction T) where
  step s
    | .getThis th =>
      if s.swap th = none then some (if s.fiber th = none then s.newMain th else s) else none
    | .new runInScheduler => some (s.newFiber runInScheduler)
    | .useCaller th =>
      if s.swap th = none ∧ (s.fiber th).isSome then
        some { s.newFiber false with
          schedulerFiber := Function.update s.schedulerFiber th (some s.fibers) }
      else none
    | .resume th f => if s.swap th = none ∧ f < s.fibers then s.resume th f else none
    | .yield th =>
      match s.swap th, s.fiber th with
      | none, some f => s.leave th f (Fiber.yield s.state f)
      | _, _ => none
    | .finish th =>
      match s.swap th, (s.running th).bind s.curr with
      | none, some f => s.leave th f (Fiber.finish s.state f)
      | _, _ => none
    | .swapcontext th =>
      match s.swap th, s.running th with
      | some (src, dst), some x => some (s.swapcontext th x src dst)
      | _, _ => none

end FiberSwitch

end CoroutineGateway
