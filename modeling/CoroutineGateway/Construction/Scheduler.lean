import CoroutineGateway.Construction.Task
import CoroutineGateway.Framework.Machine
import Mathlib.Data.List.Basic

/-!
# The scheduler and its workers

`Scheduler` (`CoroutineLibrary/scheduler.h`, `scheduler.cpp`) with the `tickle` and the `idle`
of `IOManager` (`ioscheduler.cpp`), as a machine whose actions are the atomic steps of its
threads: a critical section under `m_mutex`, one access to an atomic counter, one operation on
the tickle pipe, one operation on a fiber or its mutex.

A worker `w : W` runs the loop of `Scheduler::run`, and `phase w` is where it stands in it.
The threads `o : O` are all others that call `scheduleLock` or `tickle`.  A thread inside
`tickle()` is recorded in `call`; a worker takes no step of its own loop before its call
returns.

What happens inside `IOManager::idle` besides waiting on `epoll_wait`, draining the pipe and
scheduling callbacks and fibers is not part of this machine: a wake-up of `epoll_wait`, for
whatever reason, is the action `wake`, and the tasks that the woken worker schedules are pushes
of its own.  `IOManager::stopping` asks in addition for no timer and no pending event, so
`idleExit` is possible where `Scheduler::stopping` is true, and need not happen there.

The counters are integers: that `m_activeThreadCount` and `m_idleThreadCount`, which are
unsigned, never wrap is a theorem and not an assumption.  A failed assertion sets `aborted`, and
nothing happens afterwards.
-/

namespace CoroutineGateway

/-- The two steps of `IOManager::tickle`. -/
inductive TickleCall where
  /-- About to test `hasIdleThreads()`. -/
  | test
  /-- About to write to the pipe. -/
  | write
  deriving DecidableEq

/-- Where a worker stands between dequeuing a task and decrementing `m_activeThreadCount`. -/
inductive ExecPc where
  /-- The task is dequeued. -/
  | taken
  /-- `m_mutex` of the fiber is held. -/
  | locked (f : ℕ)
  /-- Inside `Fiber::resume`. -/
  | inside (f : ℕ)
  /-- `resume` has returned or was skipped; the mutex is still held. -/
  | left (f : ℕ)
  /-- The mutex is released. -/
  | unlocked
  deriving DecidableEq

/-- Where a worker without a task stands. -/
inductive IdlePc where
  /-- Before `m_idleThreadCount++`. -/
  | before
  /-- In `idle()`, not yet in `epoll_wait`. -/
  | entered
  /-- Blocked in `epoll_wait`. -/
  | blocked
  /-- Back from `epoll_wait`. -/
  | woken
  deriving DecidableEq

/-- Where a worker stands in the loop of `Scheduler::run`. -/
inductive Phase (C : Type*) where
  /-- At the top of the loop, about to scan `m_tasks`. -/
  | scan
  | exec (task : ScheduleTask ℕ C) (pc : ExecPc)
  | idle (pc : IdlePc)
  /-- Out of `run()`. -/
  | exited
  deriving DecidableEq

/-- The task of a worker that is between dequeuing it and decrementing
`m_activeThreadCount`. -/
def Phase.job {C : Type*} : Phase C → Option (ScheduleTask ℕ C)
  | .exec t _ => some t
  | _ => none

/-- The scheduler, its workers and the fibers they run. -/
structure Scheduler (W O C : Type*) where
  /-- `m_tasks` -/
  tasks : List (ScheduleTask ℕ C)
  /-- `m_activeThreadCount` -/
  activeThreadCount : ℤ
  /-- `m_idleThreadCount` -/
  idleThreadCount : ℤ
  /-- `m_stopping` -/
  stopFlag : Bool
  phase : W → Phase C
  /-- The `tickle()` calls in progress. -/
  call : W ⊕ O → Option TickleCall
  /-- The idle fiber of the worker is in state `TERM`. -/
  idleTerm : W → Bool
  /-- The bytes in the tickle pipe. -/
  pipe : ℕ
  /-- The task fibers created so far are `0, …, fibers - 1`. -/
  fibers : ℕ
  /-- `Fiber::m_state` -/
  state : ℕ → FiberState
  /-- The holder of `Fiber::m_mutex`. -/
  mutex : ℕ → Option W
  /-- Every non-empty task pushed, for the record. -/
  pushed : List (ScheduleTask ℕ C)
  /-- Every task whose dispatch is over, for the record. -/
  finished : List (ScheduleTask ℕ C)
  aborted : Bool

/-- The atomic steps. -/
inductive SchedulerAction (W O C : Type*) where
  /-- Some code creates a task fiber. -/
  | spawn
  /-- The critical section of `scheduleLock`. -/
  | push (th : W ⊕ O) (task : ScheduleTask ℕ C)
  /-- A thread outside the loop calls `tickle()`: `stop()`, `onTimerInsertedAtFront()`. -/
  | tickle (th : W ⊕ O)
  /-- `hasIdleThreads()` in `tickle()`. -/
  | tickleTest (th : W ⊕ O)
  /-- The write to the pipe in `tickle()`. -/
  | tickleWrite (th : W ⊕ O)
  /-- The critical section of `run()`. -/
  | scan (w : W)
  /-- `std::lock_guard` on the fiber's `m_mutex`; a callback gets its fiber first. -/
  | acquire (w : W)
  /-- The call of `Fiber::resume`, unless the task fiber is found in state `TERM`. -/
  | resume (w : W)
  /-- The fiber yields. -/
  | yield (w : W)
  /-- The fiber's function returns. -/
  | finish (w : W)
  /-- The `lock_guard` is destroyed. -/
  | release (w : W)
  /-- `m_activeThreadCount--` -/
  | retire (w : W)
  /-- `m_idleThreadCount++` and `idle_fiber->resume()` -/
  | idleEnter (w : W)
  /-- `epoll_wait` finds nothing and blocks. -/
  | block (w : W)
  /-- `epoll_wait` returns. -/
  | wake (w : W)
  /-- The pipe is read until it is empty. -/
  | drain (w : W)
  /-- The idle fiber yields; `m_idleThreadCount--`. -/
  | idleLeave (w : W)
  /-- `stopping()` ends the idle fiber; `m_idleThreadCount--`. -/
  | idleExit (w : W)
  /-- `m_stopping = true` -/
  | stop

namespace Scheduler

variable {W O C : Type*}

/-- The scheduler before any task: every worker is about to scan. -/
def init : Scheduler W O C where
  tasks := []
  activeThreadCount := 0
  idleThreadCount := 0
  stopFlag := false
  phase _ := .scan
  call _ := none
  idleTerm _ := false
  pipe := 0
  fibers := 0
  state _ := .ready
  mutex _ := none
  pushed := []
  finished := []
  aborted := false

/-- The loop over `m_tasks` in `run()` on the thread `tid`: the tasks skipped, and the task taken
with the tasks after it. -/
def scanTasks (tid : ℤ) :
    List (ScheduleTask ℕ C) → List (ScheduleTask ℕ C) ×
      Option (ScheduleTask ℕ C × List (ScheduleTask ℕ C))
  | [] => ([], none)
  | t :: ts =>
    if t.thread ≠ -1 ∧ t.thread ≠ tid then
      let r := scanTasks tid ts
      (t :: r.1, r.2)
    else ([], some (t, ts))

/-- `Scheduler::stopping` -/
def stopping (s : Scheduler W O C) : Bool :=
  s.stopFlag && s.tasks.isEmpty && decide (s.activeThreadCount = 0)

/-- Code that calls `scheduleLock` can run on the thread: it is outside the pool, or a worker
inside a fiber or handling what `epoll_wait` returned. -/
def mayCall (s : Scheduler W O C) : W ⊕ O → Bool
  | .inr _ => true
  | .inl w =>
    match s.phase w with
    | .exec _ (.inside _) => true
    | .idle .woken => true
    | _ => false

variable [DecidableEq W] [DecidableEq O]

/-- A worker moves on in its loop. -/
def move (s : Scheduler W O C) (w : W) (p : Phase C) : Scheduler W O C :=
  { s with phase := Function.update s.phase w p }

/-- A thread enters, moves in, or leaves `tickle()`. -/
def setCall (s : Scheduler W O C) (th : W ⊕ O) (c : Option TickleCall) : Scheduler W O C :=
  { s with call := Function.update s.call th c }

/-- A failed assertion. -/
def abort (s : Scheduler W O C) : Scheduler W O C := { s with aborted := true }

/-- The critical section of `scheduleLock`, with the decision to call `tickle()`. -/
def scheduleLock (s : Scheduler W O C) (th : W ⊕ O) (task : ScheduleTask ℕ C) :
    Scheduler W O C :=
  let s' := s.setCall th (if s.tasks.isEmpty then some .test else none)
  if task.nonempty then { s' with tasks := s.tasks ++ [task], pushed := s.pushed ++ [task] }
  else s'

/-- `run()` takes the task `t` out of `m_tasks`, between the tasks `skipped` and `rest`.  As in
the source, whatever is left in the queue makes the worker call `tickle()`. -/
def take (s : Scheduler W O C) (w : W) (skipped : List (ScheduleTask ℕ C))
    (t : ScheduleTask ℕ C) (rest : List (ScheduleTask ℕ C)) : Scheduler W O C :=
  { (s.setCall (.inl w) (if skipped.isEmpty && rest.isEmpty then none else some .test)).move w
      (.exec t .taken) with
    tasks := skipped ++ rest, activeThreadCount := s.activeThreadCount + 1 }

@[simp] lemma take_phase (s : Scheduler W O C) (w : W) (skipped : List (ScheduleTask ℕ C))
    (t : ScheduleTask ℕ C) (rest : List (ScheduleTask ℕ C)) :
    (s.take w skipped t rest).phase = Function.update s.phase w (.exec t .taken) := rfl

@[simp] lemma take_call (s : Scheduler W O C) (w : W) (skipped : List (ScheduleTask ℕ C))
    (t : ScheduleTask ℕ C) (rest : List (ScheduleTask ℕ C)) :
    (s.take w skipped t rest).call = Function.update s.call (.inl w)
      (if skipped.isEmpty && rest.isEmpty then none else some .test) := rfl

/-- `run()` finds no task for this thread: the worker turns to its idle fiber, or leaves when
that has ended. -/
def takeNone (s : Scheduler W O C) (w : W) : Scheduler W O C :=
  (s.setCall (.inl w) (if s.tasks.isEmpty then none else some .test)).move w
    (if s.idleTerm w then .exited else .idle .before)

/-- The critical section of `run()` on the thread `tid`. -/
def dequeue (s : Scheduler W O C) (tid : ℤ) (w : W) : Scheduler W O C :=
  match scanTasks tid s.tasks with
  | (skipped, some (t, rest)) => if t.nonempty then s.take w skipped t rest else s.abort
  | (_, none) => s.takeNone w

/-- The task of the worker gets its fiber, and the fiber's mutex. -/
def acquire (s : Scheduler W O C) (w : W) (t : ScheduleTask ℕ C) : Option (Scheduler W O C) :=
  match t.fiber with
  | some f =>
    if s.mutex f = none then
      some { s.move w (.exec t (.locked f)) with mutex := Function.update s.mutex f (some w) }
    else none
  | none =>
    -- `std::make_shared<Fiber>(task.cb)`, whose mutex nobody else can hold
    some { s.move w (.exec t (.locked s.fibers)) with
      fibers := s.fibers + 1, state := Function.update s.state s.fibers .ready,
      mutex := Function.update s.mutex s.fibers (some w) }

/-- `resume()` on the fiber of the task; a task fiber that has terminated is skipped. -/
def resume (s : Scheduler W O C) (w : W) (t : ScheduleTask ℕ C) (f : ℕ) : Scheduler W O C :=
  if t.fiber.isSome ∧ s.state f = .term then s.move w (.exec t (.left f))
  else
    match Fiber.resume s.state f with
    | some state => { s.move w (.exec t (.inside f)) with state := state }
    | none => s.abort

/-- The switch out of the fiber, by `yield()` or at the end of `MainFunc`: `state` is what
becomes of the states of the fibers. -/
def leave (s : Scheduler W O C) (w : W) (t : ScheduleTask ℕ C) (f : ℕ)
    (state : Option (ℕ → FiberState)) : Scheduler W O C :=
  match state with
  | some state => { s.move w (.exec t (.left f)) with state := state }
  | none => s.abort

/-- The actions of a worker in its loop; `tid` is its thread id.  `none` where the worker is not
at that point of the loop. -/
def workerStep (s : Scheduler W O C) (tid : ℤ) (w : W) :
    SchedulerAction W O C → Option (Scheduler W O C)
  | .scan _ =>
    match s.phase w with
    | .scan => some (s.dequeue tid w)
    | _ => none
  | .acquire _ =>
    match s.phase w with
    | .exec t .taken => s.acquire w t
    | _ => none
  | .resume _ =>
    match s.phase w with
    | .exec t (.locked f) => some (s.resume w t f)
    | _ => none
  | .yield _ =>
    match s.phase w with
    | .exec t (.inside f) => some (s.leave w t f (Fiber.yield s.state f))
    | _ => none
  | .finish _ =>
    match s.phase w with
    | .exec t (.inside f) => some (s.leave w t f (Fiber.finish s.state f))
    | _ => none
  | .release _ =>
    match s.phase w with
    | .exec t (.left f) =>
      some { s.move w (.exec t .unlocked) with mutex := Function.update s.mutex f none }
    | _ => none
  | .retire _ =>
    match s.phase w with
    | .exec t .unlocked =>
      some { s.move w .scan with
        activeThreadCount := s.activeThreadCount - 1, finished := s.finished ++ [t] }
    | _ => none
  | .idleEnter _ =>
    match s.phase w with
    | .idle .before =>
      some { s.move w (.idle .entered) with idleThreadCount := s.idleThreadCount + 1 }
    | _ => none
  | .block _ =>
    match s.phase w with
    | .idle .entered => some (s.move w (.idle .blocked))
    | _ => none
  | .wake _ =>
    match s.phase w with
    | .idle .blocked => some (s.move w (.idle .woken))
    | _ => none
  | .drain _ =>
    match s.phase w with
    | .idle .woken => some { s with pipe := 0 }
    | _ => none
  | .idleLeave _ =>
    match s.phase w with
    | .idle .woken =>
      some { s.move w .scan with idleThreadCount := s.idleThreadCount - 1 }
    | _ => none
  | .idleExit _ =>
    match s.phase w with
    | .idle .entered =>
      if s.stopping then
        some { s.move w .scan with
          idleThreadCount := s.idleThreadCount - 1,
          idleTerm := Function.update s.idleTerm w true }
      else none
    | _ => none
  | _ => none

/-- The worker that takes the action in its loop. -/
def workerOf : SchedulerAction W O C → Option W
  | .scan w | .acquire w | .resume w | .yield w | .finish w | .release w | .retire w
  | .idleEnter w | .block w | .wake w | .drain w | .idleLeave w | .idleExit w => some w
  | _ => none

/-- The actions outside the loop of a worker. -/
def callStep (s : Scheduler W O C) : SchedulerAction W O C → Option (Scheduler W O C)
  | .spawn =>
    some { s with
      fibers := s.fibers + 1, state := Function.update s.state s.fibers .ready }
  | .push th task =>
    if s.mayCall th ∧ s.call th = none ∧ (∀ f ∈ task.fiber, f < s.fibers) then
      some (s.scheduleLock th task)
    else none
  | .tickle th => if s.call th = none then some (s.setCall th (some .test)) else none
  | .tickleTest th =>
    if s.call th = some .test then
      some (s.setCall th (if 0 < s.idleThreadCount then some .write else none))
    else none
  | .tickleWrite th =>
    if s.call th = some .write then some { s.setCall th none with pipe := s.pipe + 1 } else none
  | .stop => some { s with stopFlag := true }
  | _ => none

/-- The machine of the scheduler whose worker `w` runs on the thread `threadId w`. -/
def machine (threadId : W → ℤ) :
    Machine (Scheduler W O C) (SchedulerAction W O C) where
  step s a :=
    if s.aborted then none
    else
      match workerOf a with
      | some w => if s.call (.inl w) = none then s.workerStep (threadId w) w a else none
      | none => s.callStep a

/-! ## What a step can do -/

lemma scanTasks_some {tid : ℤ} {ts skipped rest : List (ScheduleTask ℕ C)}
    {t : ScheduleTask ℕ C} (h : scanTasks tid ts = (skipped, some (t, rest))) :
    ts = skipped ++ t :: rest ∧ (∀ u ∈ skipped, ¬ u.eligible tid) ∧ t.eligible tid := by
  induction ts generalizing skipped with
  | nil => simp [scanTasks] at h
  | cons u us ih =>
    unfold scanTasks at h
    split_ifs at h with hu
    · obtain ⟨rfl, hr⟩ := Prod.mk.inj h
      obtain ⟨hus, hskip, ht⟩ := ih (Prod.ext rfl hr)
      refine ⟨by rw [List.cons_append, ← hus], ?_, ht⟩
      intro v hv
      rcases List.mem_cons.mp hv with rfl | hv
      · exact fun he => he.elim hu.1 hu.2
      · exact hskip v hv
    · obtain ⟨rfl, hr⟩ := Prod.mk.inj h
      obtain ⟨rfl, rfl⟩ := Prod.mk.inj (Option.some.inj hr)
      refine ⟨rfl, by simp, ?_⟩
      by_cases h1 : u.thread = -1
      · exact .inl h1
      · exact .inr (by_contra fun h2 => hu ⟨h1, h2⟩)

lemma scanTasks_none {tid : ℤ} {ts skipped : List (ScheduleTask ℕ C)}
    (h : scanTasks tid ts = (skipped, none)) : ∀ u ∈ ts, ¬ u.eligible tid := by
  induction ts generalizing skipped with
  | nil => simp
  | cons u us ih =>
    unfold scanTasks at h
    split_ifs at h with hu
    · intro v hv
      rcases List.mem_cons.mp hv with rfl | hv
      · exact fun he => he.elim hu.1 hu.2
      · exact ih (Prod.ext rfl (Prod.mk.inj h).2) v hv
    · simp at h

/-- One constructor for each outcome of each action, with everything the step has tested. -/
inductive Transition (threadId : W → ℤ) (s : Scheduler W O C) :
    SchedulerAction W O C → Scheduler W O C → Prop where
  | spawn : Transition threadId s .spawn
      { s with fibers := s.fibers + 1, state := Function.update s.state s.fibers .ready }
  | push (th : W ⊕ O) (task : ScheduleTask ℕ C) (hmay : s.mayCall th) (hcall : s.call th = none)
      (hfiber : ∀ f ∈ task.fiber, f < s.fibers) :
      Transition threadId s (.push th task) (s.scheduleLock th task)
  | tickle (th : W ⊕ O) (hcall : s.call th = none) :
      Transition threadId s (.tickle th) (s.setCall th (some .test))
  | testIdle (th : W ⊕ O) (hcall : s.call th = some .test) (hidle : 0 < s.idleThreadCount) :
      Transition threadId s (.tickleTest th) (s.setCall th (some .write))
  | testBusy (th : W ⊕ O) (hcall : s.call th = some .test) (hidle : s.idleThreadCount ≤ 0) :
      Transition threadId s (.tickleTest th) (s.setCall th none)
  | tickleWrite (th : W ⊕ O) (hcall : s.call th = some .write) :
      Transition threadId s (.tickleWrite th) { s.setCall th none with pipe := s.pipe + 1 }
  | stop : Transition threadId s .stop { s with stopFlag := true }
  | take (w : W) (skipped : List (ScheduleTask ℕ C)) (t : ScheduleTask ℕ C)
      (rest : List (ScheduleTask ℕ C)) (hcall : s.call (.inl w) = none)
      (hphase : s.phase w = .scan) (htasks : s.tasks = skipped ++ t :: rest)
      (hskip : ∀ u ∈ skipped, ¬ u.eligible (threadId w)) (helig : t.eligible (threadId w))
      (hne : t.nonempty) : Transition threadId s (.scan w) (s.take w skipped t rest)
  | takeEmpty (w : W) (t : ScheduleTask ℕ C) (hphase : s.phase w = .scan) (ht : t ∈ s.tasks)
      (hne : ¬ t.nonempty) : Transition threadId s (.scan w) s.abort
  | takeNone (w : W) (hcall : s.call (.inl w) = none) (hphase : s.phase w = .scan)
      (hskip : ∀ u ∈ s.tasks, ¬ u.eligible (threadId w)) :
      Transition threadId s (.scan w) (s.takeNone w)
  | acquire (w : W) (t : ScheduleTask ℕ C) (f : ℕ) (hphase : s.phase w = .exec t .taken)
      (hfiber : t.fiber = some f) (hmutex : s.mutex f = none) :
      Transition threadId s (.acquire w) { s.move w (.exec t (.locked f)) with
        mutex := Function.update s.mutex f (some w) }
  | acquireNew (w : W) (t : ScheduleTask ℕ C) (hphase : s.phase w = .exec t .taken)
      (hfiber : t.fiber = none) :
      Transition threadId s (.acquire w) { s.move w (.exec t (.locked s.fibers)) with
        fibers := s.fibers + 1, state := Function.update s.state s.fibers .ready,
        mutex := Function.update s.mutex s.fibers (some w) }
  | skip (w : W) (t : ScheduleTask ℕ C) (f : ℕ) (hphase : s.phase w = .exec t (.locked f))
      (hfiber : t.fiber.isSome) (hterm : s.state f = .term) :
      Transition threadId s (.resume w) (s.move w (.exec t (.left f)))
  | resume (w : W) (t : ScheduleTask ℕ C) (f : ℕ) (hphase : s.phase w = .exec t (.locked f))
      (hready : s.state f = .ready) :
      Transition threadId s (.resume w) { s.move w (.exec t (.inside f)) with
        state := Function.update s.state f .running }
  | resumeAbort (w : W) (t : ScheduleTask ℕ C) (f : ℕ)
      (hphase : s.phase w = .exec t (.locked f)) (hready : s.state f ≠ .ready)
      (hterm : ¬ (t.fiber.isSome ∧ s.state f = .term)) :
      Transition threadId s (.resume w) s.abort
  | yield (w : W) (t : ScheduleTask ℕ C) (f : ℕ) (hphase : s.phase w = .exec t (.inside f))
      (hrunning : s.state f = .running) :
      Transition threadId s (.yield w) { s.move w (.exec t (.left f)) with
        state := Function.update s.state f .ready }
  | yieldTerm (w : W) (t : ScheduleTask ℕ C) (f : ℕ) (hphase : s.phase w = .exec t (.inside f))
      (hterm : s.state f = .term) :
      Transition threadId s (.yield w) (s.move w (.exec t (.left f)))
  | yieldAbort (w : W) (t : ScheduleTask ℕ C) (f : ℕ)
      (hphase : s.phase w = .exec t (.inside f)) (hready : s.state f = .ready) :
      Transition threadId s (.yield w) s.abort
  | finish (w : W) (t : ScheduleTask ℕ C) (f : ℕ) (hphase : s.phase w = .exec t (.inside f)) :
      Transition threadId s (.finish w) { s.move w (.exec t (.left f)) with
        state := Function.update s.state f .term }
  | release (w : W) (t : ScheduleTask ℕ C) (f : ℕ) (hphase : s.phase w = .exec t (.left f)) :
      Transition threadId s (.release w) { s.move w (.exec t .unlocked) with
        mutex := Function.update s.mutex f none }
  | retire (w : W) (t : ScheduleTask ℕ C) (hphase : s.phase w = .exec t .unlocked) :
      Transition threadId s (.retire w) { s.move w .scan with
        activeThreadCount := s.activeThreadCount - 1, finished := s.finished ++ [t] }
  | idleEnter (w : W) (hphase : s.phase w = .idle .before) :
      Transition threadId s (.idleEnter w) { s.move w (.idle .entered) with
        idleThreadCount := s.idleThreadCount + 1 }
  | block (w : W) (hphase : s.phase w = .idle .entered) :
      Transition threadId s (.block w) (s.move w (.idle .blocked))
  | wake (w : W) (hphase : s.phase w = .idle .blocked) :
      Transition threadId s (.wake w) (s.move w (.idle .woken))
  | drain (w : W) (hphase : s.phase w = .idle .woken) :
      Transition threadId s (.drain w) { s with pipe := 0 }
  | idleLeave (w : W) (hphase : s.phase w = .idle .woken) :
      Transition threadId s (.idleLeave w) { s.move w .scan with
        idleThreadCount := s.idleThreadCount - 1 }
  | idleExit (w : W) (hphase : s.phase w = .idle .entered) (hstop : s.stopping) :
      Transition threadId s (.idleExit w) { s.move w .scan with
        idleThreadCount := s.idleThreadCount - 1,
        idleTerm := Function.update s.idleTerm w true }

variable {threadId : W → ℤ} {s s' : Scheduler W O C}

lemma transition_of_scan {w : W} (hcall : s.call (.inl w) = none) (hphase : s.phase w = .scan) :
    Transition threadId s (.scan w) (s.dequeue (threadId w) w) := by
  unfold dequeue
  split
  next skipped t rest hscan =>
    obtain ⟨htasks, hskip, helig⟩ := scanTasks_some hscan
    split_ifs with hne
    · exact .take w skipped t rest hcall hphase htasks hskip helig hne
    · exact .takeEmpty w t hphase (by simp [htasks]) hne
  next hscan => exact .takeNone w hcall hphase (scanTasks_none hscan)

lemma transition_of_acquire {w : W} {t : ScheduleTask ℕ C} (hphase : s.phase w = .exec t .taken)
    (h : s.acquire w t = some s') : Transition threadId s (.acquire w) s' := by
  unfold acquire at h
  split at h
  next f hfiber =>
    split_ifs at h with hmutex
    obtain rfl := Option.some.inj h
    exact .acquire w t f hphase hfiber hmutex
  next hfiber =>
    obtain rfl := Option.some.inj h
    exact .acquireNew w t hphase hfiber

lemma transition_of_resume {w : W} {t : ScheduleTask ℕ C} {f : ℕ}
    (hphase : s.phase w = .exec t (.locked f)) :
    Transition threadId s (.resume w) (s.resume w t f) := by
  unfold resume
  split_ifs with hterm
  · exact .skip w t f hphase hterm.1 hterm.2
  · unfold Fiber.resume
    split_ifs with hready
    · exact .resume w t f hphase hready
    · exact .resumeAbort w t f hphase hready hterm

lemma transition_of_yield {w : W} {t : ScheduleTask ℕ C} {f : ℕ}
    (hphase : s.phase w = .exec t (.inside f)) :
    Transition threadId s (.yield w) (s.leave w t f (Fiber.yield s.state f)) := by
  cases hstate : s.state f with
  | ready => simpa [leave, Fiber.yield, hstate] using .yieldAbort w t f hphase hstate
  | running => simpa [leave, Fiber.yield, hstate] using .yield w t f hphase hstate
  | term => simpa [leave, Fiber.yield, hstate] using .yieldTerm w t f hphase hstate

lemma transition_of_workerStep {w : W} {a : SchedulerAction W O C} (hw : workerOf a = some w)
    (hcall : s.call (.inl w) = none) (h : s.workerStep (threadId w) w a = some s') :
    Transition threadId s a s' := by
  cases a <;> simp only [workerOf, Option.some.injEq, reduceCtorEq] at hw <;> subst hw <;>
    simp only [workerStep] at h
  case scan w =>
    split at h
    next hphase =>
      obtain rfl := Option.some.inj h
      exact transition_of_scan hcall hphase
    next => cases h
  case acquire w =>
    split at h
    next hphase => exact transition_of_acquire hphase h
    next => cases h
  case resume w =>
    split at h
    next hphase =>
      obtain rfl := Option.some.inj h
      exact transition_of_resume hphase
    next => cases h
  case yield w =>
    split at h
    next hphase =>
      obtain rfl := Option.some.inj h
      exact transition_of_yield hphase
    next => cases h
  case finish w =>
    split at h
    next t f hphase =>
      obtain rfl := Option.some.inj h
      simpa [leave] using .finish w t f hphase
    next => cases h
  case release w =>
    split at h
    next t f hphase =>
      obtain rfl := Option.some.inj h
      exact .release w t f hphase
    next => cases h
  case retire w =>
    split at h
    next t hphase =>
      obtain rfl := Option.some.inj h
      exact .retire w t hphase
    next => cases h
  case idleEnter w =>
    split at h
    next hphase =>
      obtain rfl := Option.some.inj h
      exact .idleEnter w hphase
    next => cases h
  case block w =>
    split at h
    next hphase =>
      obtain rfl := Option.some.inj h
      exact .block w hphase
    next => cases h
  case wake w =>
    split at h
    next hphase =>
      obtain rfl := Option.some.inj h
      exact .wake w hphase
    next => cases h
  case drain w =>
    split at h
    next hphase =>
      obtain rfl := Option.some.inj h
      exact .drain w hphase
    next => cases h
  case idleLeave w =>
    split at h
    next hphase =>
      obtain rfl := Option.some.inj h
      exact .idleLeave w hphase
    next => cases h
  case idleExit w =>
    split at h
    next hphase =>
      split_ifs at h with hstop
      obtain rfl := Option.some.inj h
      exact .idleExit w hphase hstop
    next => cases h

lemma transition_of_callStep {a : SchedulerAction W O C} (h : s.callStep a = some s') :
    Transition threadId s a s' := by
  cases a <;> simp only [callStep, reduceCtorEq] at h
  case spawn =>
    obtain rfl := Option.some.inj h
    exact .spawn
  case push th task =>
    split_ifs at h with hpush
    obtain rfl := Option.some.inj h
    exact .push th task hpush.1 hpush.2.1 hpush.2.2
  case tickle th =>
    split_ifs at h with hcall
    obtain rfl := Option.some.inj h
    exact .tickle th hcall
  case tickleTest th =>
    split_ifs at h with hcall hidle
    · obtain rfl := Option.some.inj h
      exact .testIdle th hcall hidle
    · obtain rfl := Option.some.inj h
      exact .testBusy th hcall (Int.not_lt.mp hidle)
  case tickleWrite th =>
    split_ifs at h with hcall
    obtain rfl := Option.some.inj h
    exact .tickleWrite th hcall
  case stop =>
    obtain rfl := Option.some.inj h
    exact .stop

/-- Every step is one of the transitions. -/
theorem transition_of_step {a : SchedulerAction W O C}
    (h : (machine threadId).step s a = some s') :
    s.aborted = false ∧ Transition threadId s a s' := by
  simp only [machine] at h
  split_ifs at h with habort
  refine ⟨by simpa using habort, ?_⟩
  split at h
  next w hw =>
    split_ifs at h with hcall
    exact transition_of_workerStep hw hcall h
  next => exact transition_of_callStep h

end Scheduler

end CoroutineGateway
