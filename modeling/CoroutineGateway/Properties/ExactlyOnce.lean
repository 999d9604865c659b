import CoroutineGateway.Construction.Scheduler
import CoroutineGateway.Framework.WorkPool
import Mathlib.Algebra.BigOperators.Ring.Finset
import Mathlib.Algebra.Order.BigOperators.Group.Finset

/-!
# Every task is dispatched exactly once

The scheduler refines a work pool: its queue is `m_tasks`, a worker holds the task it has
dequeued until it decrements `m_activeThreadCount`, and a worker is eligible for the tasks that
are pinned to its thread or to none.  The conservation law of work pools then gives that no task
is lost or run twice, and counting the held tasks gives that `m_activeThreadCount` is exact, so
that `stopping()` is never true while a task is queued or in execution.
-/

namespace CoroutineGateway

open Finset

namespace Phase

variable {C : Type*}

/-- What the worker contributes to `m_activeThreadCount`. -/
def active : Phase C → ℤ
  | .exec _ _ => 1
  | _ => 0

/-- What the worker contributes to `m_idleThreadCount`. -/
def idling : Phase C → ℤ
  | .idle .entered | .idle .blocked | .idle .woken => 1
  | _ => 0

lemma active_nonneg (p : Phase C) : 0 ≤ p.active := by
  cases p <;> simp [active]

lemma idling_nonneg (p : Phase C) : 0 ≤ p.idling := by
  rcases p with _ | _ | ⟨_ | _ | _ | _⟩ | _ <;> simp [idling]

lemma card_job (p : Phase C) : (Multiset.card (WorkPool.heldJob p.job) : ℤ) = p.active := by
  cases p <;> rfl

end Phase

namespace Scheduler

variable {W O C : Type*} [DecidableEq W] [DecidableEq O] {threadId : W → ℤ}
  {s s' : Scheduler W O C} {a : SchedulerAction W O C}

/-! ## Refinement of work pools -/

/-- What the scheduler is as a work pool. -/
def pool (s : Scheduler W O C) : WorkPool W (ScheduleTask ℕ C) where
  queue := s.tasks
  held w := (s.phase w).job
  done := s.finished
  submitted := s.pushed

lemma job_update (phase : W → Phase C) (w : W) (p : Phase C) :
    (fun v => (Function.update phase w p v).job) =
      Function.update (fun v => (phase v).job) w p.job := by
  funext v
  by_cases hv : v = w
  · subst hv
    simp
  · simp [Function.update_of_ne hv]

omit [DecidableEq O] in
lemma pool_move (s : Scheduler W O C) (w : W) (p : Phase C) :
    (s.move w p).pool = { s.pool with held := Function.update s.pool.held w p.job } := by
  simp only [pool, move]
  rw [job_update]

omit [DecidableEq O] in
/-- A worker that moves on without taking up or laying down a task leaves the pool as it is. -/
lemma pool_move_of_job_eq {w : W} {p : Phase C} (h : p.job = (s.phase w).job) :
    (s.move w p).pool = s.pool := by
  rw [pool_move, h]
  exact congrArg (fun held => { s.pool with held := held })
    (Function.update_eq_self w s.pool.held)

omit [DecidableEq O] in
lemma step_pool_move {elig : W → ScheduleTask ℕ C → Prop} {t : Scheduler W O C} {w : W}
    {p : Phase C} (hpool : t.pool = (s.move w p).pool) (h : p.job = (s.phase w).job) :
    WorkPool.Step elig s.pool t.pool := by
  rw [hpool, pool_move_of_job_eq h]
  exact .idle _

lemma step_pool_scheduleLock {elig : W → ScheduleTask ℕ C → Prop} (s : Scheduler W O C)
    (th : W ⊕ O) (task : ScheduleTask ℕ C) :
    WorkPool.Step elig s.pool (s.scheduleLock th task).pool := by
  by_cases hne : task.nonempty
  · have hpool : (s.scheduleLock th task).pool = { s.pool with
        queue := s.pool.queue ++ [task], submitted := s.pool.submitted + {task} } := by
      simp [scheduleLock, hne, pool, setCall, ← Multiset.coe_add]
    rw [hpool]
    exact .submit _ _
  · have hpool : (s.scheduleLock th task).pool = s.pool := by
      simp [scheduleLock, hne, pool, setCall]
    rw [hpool]
    exact .idle _

/-- **Refinement**: every step of the scheduler is an event of its work pool. -/
theorem step_pool (h : Transition threadId s a s') :
    WorkPool.Step (fun w t => t.eligible (threadId w)) s.pool s'.pool := by
  cases h with
  | spawn | tickle | testIdle | testBusy | tickleWrite | stop | takeEmpty | drain
  | resumeAbort | yieldAbort => exact .idle _
  | push th task => exact step_pool_scheduleLock s th task
  | take w skipped t rest hcall hphase htasks hskip helig hne =>
    have hpool : (s.take w skipped t rest).pool =
        { s.pool with
          queue := skipped ++ rest, held := Function.update s.pool.held w (some t) } := by
      simp only [pool, Scheduler.take, move, setCall]
      rw [job_update]
      rfl
    rw [hpool]
    exact .take s.pool w skipped t rest htasks hskip helig (by simp [pool, hphase, Phase.job])
  | takeNone w hcall hphase hskip =>
    refine step_pool_move (w := w) (p := if s.idleTerm w then .exited else .idle .before) ?_ ?_
    · rfl
    · split_ifs <;> simp [hphase, Phase.job]
  | retire w t hphase =>
    have hpool : ({ s.move w .scan with
          activeThreadCount := s.activeThreadCount - 1,
          finished := s.finished ++ [t] } : Scheduler W O C).pool =
        { s.pool with
          held := Function.update s.pool.held w none, done := s.pool.done + {t} } := by
      simp only [pool, move]
      rw [job_update, ← Multiset.coe_add]
      rfl
    rw [hpool]
    exact .finish s.pool w t (by simp [pool, hphase, Phase.job])
  | acquire w t f hphase | acquireNew w t hphase | skip w t f hphase | resume w t f hphase
  | yield w t f hphase | yieldTerm w t f hphase | finish w t f hphase | release w t f hphase
  | idleEnter w hphase | block w hphase | wake w hphase | idleLeave w hphase
  | idleExit w hphase => exact step_pool_move rfl (by simp [hphase, Phase.job])

/-! ## The two counters -/

/-- The counters count the workers that execute a task and the workers in `idle()`. -/
structure Census [Fintype W] (s : Scheduler W O C) : Prop where
  active : s.activeThreadCount = ∑ w, (s.phase w).active
  idling : s.idleThreadCount = ∑ w, (s.phase w).idling

section Census

variable [Fintype W]

omit [DecidableEq O] in
/-- The census of a step in which one worker moves. -/
lemma Census.move (hs : s.Census) (w : W) (p : Phase C)
    (hphase : s'.phase = Function.update s.phase w p)
    (hactive : s'.activeThreadCount = s.activeThreadCount - (s.phase w).active + p.active)
    (hidling : s'.idleThreadCount = s.idleThreadCount - (s.phase w).idling + p.idling) :
    s'.Census := by
  have hsumActive := sum_update_add s.phase Phase.active w p
  have hsumIdling := sum_update_add s.phase Phase.idling w p
  rw [← hphase] at hsumActive hsumIdling
  refine ⟨?_, ?_⟩
  · rw [hactive, hs.active]
    omega
  · rw [hidling, hs.idling]
    omega

omit [DecidableEq O] in
/-- The census of a step in which one worker moves on with neither counter changing. -/
lemma Census.advance (hs : s.Census) (w : W) (p : Phase C)
    (hphase : s'.phase = Function.update s.phase w p)
    (hcounters : s'.activeThreadCount = s.activeThreadCount ∧
      s'.idleThreadCount = s.idleThreadCount)
    (hp : p.active = (s.phase w).active ∧ p.idling = (s.phase w).idling) : s'.Census := by
  refine hs.move w p hphase ?_ ?_
  · rw [hcounters.1, hp.1, sub_add_cancel]
  · rw [hcounters.2, hp.2, sub_add_cancel]

omit [DecidableEq W] [DecidableEq O] in
lemma Census.congr (hs : s.Census) (hphase : s'.phase = s.phase)
    (hcounters : s'.activeThreadCount = s.activeThreadCount ∧
      s'.idleThreadCount = s.idleThreadCount) : s'.Census :=
  ⟨by rw [hcounters.1, hphase, hs.active], by rw [hcounters.2, hphase, hs.idling]⟩

omit [DecidableEq W] [DecidableEq O] in
lemma census_init : (init : Scheduler W O C).Census := by
  constructor <;> simp [init, Phase.active, Phase.idling]

lemma census_step (h : Transition threadId s a s') (hs : s.Census) : s'.Census := by
  cases h with
  | spawn | tickle | testIdle | testBusy | tickleWrite | stop | takeEmpty | drain
  | resumeAbort | yieldAbort => exact hs.congr rfl ⟨rfl, rfl⟩
  | push th task =>
    unfold scheduleLock
    split_ifs <;> exact hs.congr rfl ⟨rfl, rfl⟩
  | take w skipped t rest hcall hphase =>
    refine hs.move w (.exec t .taken) rfl ?_ ?_ <;>
      simp [Scheduler.take, move, setCall, hphase, Phase.active, Phase.idling]
  | takeNone w hcall hphase =>
    refine hs.advance w (if s.idleTerm w then .exited else .idle .before) rfl ⟨rfl, rfl⟩ ?_
    split_ifs <;> simp [hphase, Phase.active, Phase.idling]
  | acquire w t f hphase | acquireNew w t hphase | skip w t f hphase | resume w t f hphase
  | yield w t f hphase | yieldTerm w t f hphase | finish w t f hphase | release w t f hphase
  | block w hphase | wake w hphase =>
    exact hs.advance w _ rfl ⟨rfl, rfl⟩ (by simp [hphase, Phase.active, Phase.idling])
  | retire w t hphase =>
    refine hs.move w .scan rfl ?_ ?_ <;> simp [move, hphase, Phase.active, Phase.idling]
  | idleEnter w hphase =>
    refine hs.move w (.idle .entered) rfl ?_ ?_ <;>
      simp [move, hphase, Phase.active, Phase.idling]
  | idleLeave w hphase | idleExit w hphase =>
    refine hs.move w .scan rfl ?_ ?_ <;> simp [move, hphase, Phase.active, Phase.idling]

/-! ## Exactly once -/

/-- The tasks in execution. -/
def executing (s : Scheduler W O C) : Multiset (ScheduleTask ℕ C) :=
  ∑ w, WorkPool.heldJob (s.phase w).job

/-- What exactly-once scheduling says of a state. -/
structure ExactlyOnce (threadId : W → ℤ) (s : Scheduler W O C) : Prop where
  /-- No task is lost, and none is run twice. -/
  conserved : (s.pushed : Multiset (ScheduleTask ℕ C)) = s.tasks + s.executing + s.finished
  active : s.activeThreadCount = Multiset.card s.executing
  /-- `m_activeThreadCount` does not underflow. -/
  retire_pos : ∀ w s', (machine threadId).step s (.retire w) = some s' → 0 < s.activeThreadCount
  /-- A worker takes up a task that is pinned to no other thread, and leaves ahead of it in the
  queue only tasks that are. -/
  dequeue : ∀ a s' w t, (machine threadId).step s a = some s' → (s.phase w).job = none →
    (s'.phase w).job = some t → ∃ skipped rest, s.tasks = skipped ++ t :: rest ∧
      s'.tasks = skipped ++ rest ∧ (∀ u ∈ skipped, u.thread ≠ -1 ∧ u.thread ≠ threadId w) ∧
      (t.thread = -1 ∨ t.thread = threadId w)
  stopped : s.stopping → (s.pushed : Multiset (ScheduleTask ℕ C)) = s.finished

omit [DecidableEq W] [DecidableEq O] in
lemma Census.active_eq_card (hs : s.Census) :
    s.activeThreadCount = Multiset.card s.executing := by
  rw [hs.active, executing, Multiset.card_sum, Nat.cast_sum]
  exact sum_congr rfl fun w _ => (Phase.card_job _).symm

lemma Census.retire_pos (hs : s.Census) {w : W}
    (h : (machine threadId).step s (.retire w) = some s') : 0 < s.activeThreadCount := by
  obtain ⟨-, h⟩ := transition_of_step h
  cases h with
  | retire _ t hphase =>
    have hw : (s.phase w).active = 1 := by simp [hphase, Phase.active]
    have hle : (s.phase w).active ≤ ∑ v, (s.phase v).active :=
      single_le_sum (fun v _ => Phase.active_nonneg (s.phase v)) (mem_univ w)
    rw [hs.active]
    omega

omit [DecidableEq W] [DecidableEq O] in
/-- Where `stopping()` is true no worker executes a task. -/
lemma Census.job_of_stopping (hs : s.Census) (hstop : s.stopping) (w : W) :
    (s.phase w).job = none := by
  have hzero : ∑ v, (s.phase v).active = 0 := by
    rw [← hs.active]
    simp only [stopping, Bool.and_eq_true, decide_eq_true_eq] at hstop
    exact hstop.2
  have hw := (sum_eq_zero_iff_of_nonneg fun v _ => Phase.active_nonneg (s.phase v)).mp hzero w
    (mem_univ w)
  cases hphase : s.phase w <;> simp_all [Phase.job, Phase.active]

/-- **Exactly-once scheduling.**  In every reachable state the tasks pushed are those queued,
those in execution and those finished, and the scheduler stops only when all are finished. -/
theorem exactlyOnce_of_run (as : List (SchedulerAction W O C)) (s : Scheduler W O C)
    (hrun : (machine threadId).run init as = some s) : s.ExactlyOnce threadId := by
  have hcensus : s.Census := Machine.run_invariant
    (fun _ _ _ hs h => census_step (transition_of_step h).2 hs) census_init hrun
  have hpool : s.pool.Conserved := Machine.run_invariant (I := fun s => s.pool.Conserved)
    (fun _ _ _ hs h => (step_pool (transition_of_step h).2).conserved hs)
    (by simp [WorkPool.Conserved, WorkPool.running, pool, init, Phase.job]) hrun
  refine ⟨hpool, hcensus.active_eq_card, fun w s' h => hcensus.retire_pos h, ?_, ?_⟩
  · intro a s' w t h hfree hheld
    obtain ⟨skipped, rest, htasks, htasks', hskip, helig⟩ :=
      (step_pool (transition_of_step h).2).take_of_held hfree hheld
    exact ⟨skipped, rest, htasks, htasks', fun u hu => not_or.mp (hskip u hu), helig⟩
  · intro hstop
    have htasks : s.tasks = [] := by
      simp only [stopping, Bool.and_eq_true, List.isEmpty_iff] at hstop
      exact hstop.1.2
    exact hpool.done_of_drained htasks (hcensus.job_of_stopping hstop)

/-- A run in which one callback is pushed and dequeued and its fiber is resumed. -/
def callbackRun : List (SchedulerAction Unit Unit Unit) :=
  [.push (.inr ()) (.ofCb () (-1)), .tickleTest (.inr ()), .scan (), .acquire (), .resume ()]

theorem exactlyOnce_of_callbackRun : ∃ s : Scheduler Unit Unit Unit,
    (machine fun _ => 1).run init callbackRun = some s ∧ s.executing = {.ofCb () (-1)} ∧
      s.ExactlyOnce fun _ => 1 :=
  ⟨_, rfl, rfl, exactlyOnce_of_run callbackRun _ rfl⟩

end Census

end Scheduler

end CoroutineGateway
