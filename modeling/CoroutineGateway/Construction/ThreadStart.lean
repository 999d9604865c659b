import CoroutineGateway.Framework.Machine
import CoroutineGateway.Framework.Semaphore
import CoroutineGateway.Framework.Text

/-!
# Starting the threads

The constructor of `Thread` (`CoroutineLibrary/thread.cpp`) lends its object to the thread that it
creates: `Thread::run` writes `m_id` and takes the callback out of `m_cb` before it signals
`m_semaphore`, for which the constructor waits.  `Thread` is such an object with the two threads;
its machine has every access to the object as a step, the semaphore's own steps included.

`Scheduler::start` builds its threads one after the other, with `m_mutex` locked, while those that
it has built already are in `Scheduler::run`, where the first thing they want is `m_mutex`.
`SchedulerStart` is the machine of that.  Of `Scheduler::run` it has the sections under `m_mutex`
only.  `m_thread`, which nobody reads before the threads are joined, is left out.
-/

namespace CoroutineGateway

/-! ## `Thread` -/

/-- The two threads that use the object during its construction. -/
inductive Side where
  | creator
  | created
  deriving DecidableEq

lemma Side.mem_both (side : Side) : side ∈ ({.creator, .created} : Finset Side) := by
  cases side with
  | creator => exact Finset.mem_insert_self ..
  | created => exact Finset.mem_insert_of_mem (Finset.mem_singleton_self _)

instance : Fintype Side := ⟨{.creator, .created}, Side.mem_both⟩

/-- Where the creator stands in the constructor. -/
inductive ThreadCtor where
  | unbuilt
  /-- `pthread_create` has created the thread. -/
  | created
  /-- In `m_semaphore.wait()`. -/
  | waiting
  | constructed
  /-- `pthread_create` has failed, and the constructor has thrown. -/
  | failed
  deriving DecidableEq

/-- Where the created thread stands in `Thread::run`. -/
inductive ThreadRun where
  | unborn
  | entered
  /-- `t_thread` and `t_thread_name` are set. -/
  | named
  /-- `m_id` is set. -/
  | identified
  /-- The name is set with `pthread_setname_np`. -/
  | titled
  /-- `m_cb` is swapped into `cb`. -/
  | swapped
  /-- In `m_semaphore.signal()`. -/
  | signalling
  /-- In `cb()`. -/
  | called
  deriving DecidableEq

/-- What belongs to the created thread alone. -/
structure ThreadLocals (C : Type*) where
  /-- `t_thread` points to the object. -/
  tThread : Bool
  tThreadName : Bytes
  /-- The name that `pthread_setname_np` has given it, if it has done so. -/
  comm : Option Bytes
  /-- The local variable of `Thread::run`. -/
  cb : Option C

/-- The thread-local variables and `cb` as they begin. -/
def ThreadLocals.init {C : Type*} : ThreadLocals C where
  tThread := false
  tThreadName := ascii "UNKNOWN"
  comm := none
  cb := none

/-- An object of the class `Thread` for callbacks `C`, with its two threads. -/
structure Thread (C : Type*) where
  ctor : ThreadCtor
  run : ThreadRun
  /-- `m_id` -/
  id : ℤ
  /-- `m_cb`, where it is not empty -/
  cb : Option C
  /-- `m_name` -/
  name : Bytes
  /-- `m_semaphore` -/
  semaphore : Semaphore Side
  locals : ThreadLocals C

/-- The steps of the two threads. -/
inductive ThreadAction where
  /-- `m_semaphore.wait()` is called. -/
  | wait
  /-- A step inside of an operation of `m_semaphore`. -/
  | semaphore (a : SemaphoreAction Side)
  /-- The constructor returns. -/
  | construct
  /-- `t_thread = thread`, `t_thread_name = thread->m_name` -/
  | setName
  /-- `thread->m_id = GetThreadId()` -/
  | setId
  /-- `pthread_setname_np` -/
  | setTitle
  /-- `cb.swap(thread->m_cb)` -/
  | swap
  /-- `thread->m_semaphore.signal()` is called. -/
  | signal
  /-- `cb()` is called. -/
  | call

/-- A sleeper of the semaphore wakes up by itself. -/
def ThreadAction.spurious : ThreadAction → Bool
  | .semaphore a => a.spurious
  | _ => false

namespace Thread

variable {C : Type*}

/-- The memory of an object that is to be built. -/
def init : Thread C where
  ctor := .unbuilt
  run := .unborn
  id := -1
  cb := none
  name := []
  semaphore := .init 0
  locals := .init

/-- The constructor up to the return of `pthread_create`; `ok` says that a thread was created. -/
def create (cb : C) (name : Bytes) (ok : Bool) : Thread C :=
  if ok then { init with ctor := .created, run := .entered, cb := some cb, name }
  else { init with ctor := .failed }

/-- The name that `pthread_setname_np` is given: a C string of at most 15 bytes. -/
def title (name : Bytes) : Bytes := (name.take 15).takeWhile (· ≠ 0)

/-- A step, where `threadId` is what `GetThreadId` returns to the created thread. -/
def step (threadId : ℤ) (th : Thread C) : ThreadAction → Option (Thread C)
  | .wait =>
    if th.ctor = .created then
      (th.semaphore.step (.wait .creator)).map fun semaphore =>
        { th with ctor := .waiting, semaphore }
    else none
  | .semaphore a =>
    if a.inner then (th.semaphore.step a).map fun semaphore => { th with semaphore } else none
  | .construct =>
    if th.ctor = .waiting ∧ th.semaphore.pc .creator = .idle then
      some { th with ctor := .constructed }
    else none
  | .setName =>
    if th.run = .entered then
      some { th with
        run := .named, locals := { th.locals with tThread := true, tThreadName := th.name } }
    else none
  | .setId =>
    if th.run = .named then some { th with run := .identified, id := threadId } else none
  | .setTitle =>
    if th.run = .identified then
      some { th with run := .titled, locals := { th.locals with comm := some (title th.name) } }
    else none
  | .swap =>
    if th.run = .titled then
      some { th with
        run := .swapped, cb := th.locals.cb, locals := { th.locals with cb := th.cb } }
    else none
  | .signal =>
    if th.run = .swapped then
      (th.semaphore.step (.signal .created)).map fun semaphore =>
        { th with run := .signalling, semaphore }
    else none
  | .call =>
    if th.run = .signalling ∧ th.semaphore.pc .created = .idle then
      some { th with run := .called }
    else none

/-- `Thread::run` is not done with the object.  What the callback that it calls in the end does to
the object (it may still call `Thread::SetName`) is not asked. -/
def Touches (th : Thread C) : Prop :=
  th.run ≠ .unborn ∧ th.run ≠ .called ∧
    (th.run = .signalling → th.semaphore.pc .created ≠ .idle)

instance (th : Thread C) : Decidable th.Touches := inferInstanceAs (Decidable (_ ∧ _ ∧ _))

end Thread

/-! ## `Scheduler::start` -/

/-- Where the caller stands in `Scheduler::start`. -/
inductive StartPc where
  | before
  /-- Before the test of the loop, with `m_mutex`. -/
  | looping
  /-- In the constructor of `m_threads[i]`, with `m_mutex`. -/
  | building
  | returned
  /-- The exception of a constructor has left `start`. -/
  | thrown
  deriving DecidableEq

/-- The call is over. -/
def StartPc.ended : StartPc → Bool
  | .returned | .thrown => true
  | _ => false

/-- Who has `m_mutex`. -/
inductive StartHolder where
  | starter
  | worker (j : ℕ)
  deriving DecidableEq

/-- A scheduler that is started, with its threads. -/
structure SchedulerStart (C : Type*) where
  /-- `m_stopping` -/
  stopping : Bool
  pc : StartPc
  /-- The variable of the loop. -/
  i : ℕ
  /-- `m_mutex` -/
  mutex : Option StartHolder
  /-- `m_threads` -/
  threads : ℕ → Thread C
  /-- `m_threadIds` -/
  threadIds : List ℤ

/-- The steps of the caller and of the threads. -/
inductive StartAction where
  /-- `m_mutex` is locked, and `m_stopping` is tested. -/
  | begin
  /-- `new Thread`, up to the return of `pthread_create`. -/
  | create (ok : Bool)
  /-- `m_threadIds.push_back(m_threads[i]->getId())` -/
  | push
  /-- The loop is left, and `m_mutex` unlocked. -/
  | finish
  /-- A step at `m_threads[j]`. -/
  | thread (j : ℕ) (a : ThreadAction)
  /-- The thread locks `m_mutex` in `Scheduler::run`. -/
  | lock (j : ℕ)
  | unlock (j : ℕ)

/-- A sleeper of a semaphore wakes up by itself. -/
def StartAction.spurious : StartAction → Bool
  | .thread _ a => a.spurious
  | _ => false

namespace SchedulerStart

variable {C : Type*}

/-- Before the call; `ids` is what the constructor of the scheduler has put into `m_threadIds`. -/
def init (stopping : Bool) (ids : List ℤ) : SchedulerStart C where
  stopping
  pc := .before
  i := 0
  mutex := none
  threads _ := .init
  threadIds := ids

/-- The name of a thread of the scheduler. -/
def threadName (name : Bytes) (i : ℕ) : Bytes := name ++ ascii "_" ++ Text.toDecimal i

/-- The machine: `run` is the bound `Scheduler::run`, `name` is `m_name`, `threadCount` is
`m_threadCount`. -/
def machine (run : C) (name : Bytes) (threadCount : ℕ) (threadId : ℕ → ℤ) :
    Machine (SchedulerStart C) StartAction where
  step s
    | .begin =>
      if s.pc = .before ∧ s.mutex = none then
        if s.stopping then some { s with pc := .returned }
        else some { s with pc := .looping, mutex := some .starter }
      else none
    | .create ok =>
      if s.pc = .looping ∧ s.i < threadCount then
        some { s with
          threads := Function.update s.threads s.i (.create run (threadName name s.i) ok)
          pc := if ok then .building else .thrown
          mutex := if ok then s.mutex else none }
      else none
    | .push =>
      if s.pc = .building ∧ (s.threads s.i).ctor = .constructed then
        some { s with
          pc := .looping, i := s.i + 1, threadIds := s.threadIds ++ [(s.threads s.i).id] }
      else none
    | .finish =>
      if s.pc = .looping ∧ ¬ s.i < threadCount then
        some { s with pc := .returned, mutex := none }
      else none
    | .thread j a =>
      ((s.threads j).step (threadId j) a).map fun th =>
        { s with threads := Function.update s.threads j th }
    | .lock j =>
      if (s.threads j).run = .called ∧ s.mutex = none then
        some { s with mutex := some (.worker j) }
      else none
    | .unlock j =>
      if s.mutex = some (.worker j) then some { s with mutex := none } else none

end SchedulerStart

end CoroutineGateway
