import CoroutineGateway.Properties.ExactlyOnce
import CoroutineGateway.Properties.WakeUp

/-!
# Tasks are taken in order

The scan of `run()` skips the tasks that are pinned to other threads, so a task may be taken before
one that was pushed earlier.  Between two tasks that the same workers may run this does not happen:
the tasks for one thread, and those for any thread, are taken up in the order in which they were
pushed, whatever the workers do (`tasks_in_order`).
-/

namespace CoroutineGateway

namespace Scheduler

variable {W O C : Type*} [DecidableEq W] [DecidableEq O] {threadId : W → ℤ}
  {s s' : Scheduler W O C} {a : SchedulerAction W O C}

/-- The task that the step takes up. -/
def takenUp (_ : Scheduler W O C) (a : SchedulerAction W O C) (s' : Scheduler W O C) :
    List (ScheduleTask ℕ C) :=
  match a with
  | .scan w => (s'.phase w).job.toList
  | _ => []

/-- The tasks taken up and those in the queue are the tasks pushed, and within a class in the same
order. -/
def InOrder (P : ScheduleTask ℕ C → Bool) (taken : List (ScheduleTask ℕ C))
    (s : Scheduler W O C) : Prop :=
  (taken ++ s.tasks).filter P = s.pushed.filter P

lemma scheduleLock_pushed (s : Scheduler W O C) (th : W ⊕ O) (task : ScheduleTask ℕ C) :
    (s.scheduleLock th task).pushed =
      if task.nonempty then s.pushed ++ [task] else s.pushed := by
  unfold scheduleLock
  split_ifs <;> rfl

lemma inOrder_step {P : ScheduleTask ℕ C → Bool}
    (hP : WorkPool.Alike (fun w (t : ScheduleTask ℕ C) => t.eligible (threadId w)) P)
    {taken : List (ScheduleTask ℕ C)} (hs : InOrder P taken s) (h : Transition threadId s a s') :
    InOrder P (taken ++ s.takenUp a s') s' := by
  unfold InOrder at hs ⊢
  cases h with
  | push th task =>
    rw [scheduleLock_tasks, scheduleLock_pushed]
    split_ifs
    · simp only [takenUp, List.append_nil, ← List.append_assoc, List.filter_append _ [task], hs]
    · simpa [takenUp] using hs
  | take w skipped t rest hcall hphase htasks hskip helig =>
    have hfirst : (skipped ++ t :: rest).filter P =
        [t].filter P ++ (skipped ++ rest).filter P := hP.filter_take hskip helig
    have htaken : s.takenUp (.scan w) (s.take w skipped t rest) = [t] := by
      simp [takenUp, Phase.job]
    rw [htasks, List.filter_append, hfirst] at hs
    rw [htaken, List.append_assoc, List.filter_append, List.filter_append]
    exact hs
  | takeEmpty w t hphase =>
    have hnone : s.takenUp (.scan w) s.abort = [] := by simp [takenUp, abort, hphase, Phase.job]
    rwa [hnone, List.append_nil]
  | takeNone w hcall hphase =>
    have hnone : s.takenUp (.scan w) (s.takeNone w) = [] := by
      simp only [takenUp, takeNone, move, Function.update_self]
      split_ifs <;> rfl
    rwa [hnone, List.append_nil]
  | _ =>
    simp only [takenUp, List.append_nil]
    exact hs

omit [DecidableEq W] [DecidableEq O] in
/-- No worker makes a difference between two tasks for one thread. -/
lemma alike_thread (k : ℤ) :
    WorkPool.Alike (fun w (t : ScheduleTask ℕ C) => t.eligible (threadId w))
      (fun t => t.thread = k) := by
  intro w t u ht hu helig
  simp only [decide_eq_true_eq] at ht hu
  simpa [ScheduleTask.eligible, ht, hu] using helig

/-- A run takes up the tasks of a class in the order in which they were pushed. -/
lemma inOrder_of_run {P : ScheduleTask ℕ C → Bool}
    (hP : WorkPool.Alike (fun w (t : ScheduleTask ℕ C) => t.eligible (threadId w)) P)
    {as : List (SchedulerAction W O C)} (hrun : (machine threadId).run init as = some s) :
    InOrder P ((machine threadId).log takenUp init as) s := by
  have hstart : InOrder P [] (init : Scheduler W O C) := rfl
  simpa using Machine.run_log (I := InOrder P)
    (fun _ _ _ _ hs h => inOrder_step hP hs (transition_of_step h).2) hstart hrun

/-- **First come, first served.**  In every run the tasks that are taken up, followed by those in
the queue, are the tasks pushed; those that are for one thread, or for any thread, are so in the
order in which they were pushed.  Every task taken up is in execution or finished, counted with
multiplicity. -/
theorem tasks_in_order [Fintype W] (threadId : W → ℤ) (as : List (SchedulerAction W O C))
    (s : Scheduler W O C) (hrun : (machine threadId).run init as = some s) :
    (∀ k : ℤ, ((machine threadId).log takenUp init as ++ s.tasks).filter (·.thread = k) =
      s.pushed.filter (·.thread = k)) ∧
    ((machine threadId).log takenUp init as : Multiset (ScheduleTask ℕ C)) =
      s.executing + s.finished := by
  classical
  refine ⟨fun k => inOrder_of_run (alike_thread k) hrun, ?_⟩
  have hpool : s.pool.Conserved := Machine.run_invariant (I := fun s => s.pool.Conserved)
    (fun _ _ _ hs h => (step_pool (transition_of_step h).2).conserved hs)
    (by simp [WorkPool.Conserved, WorkPool.running, pool, init, Phase.job]) hrun
  -- equal tasks are a class of their own, so the tasks taken up can be counted one by one
  have hall : (((machine threadId).log takenUp init as ++ s.tasks : List _) :
      Multiset (ScheduleTask ℕ C)) = s.pushed := by
    refine Multiset.ext.mpr fun t => ?_
    have hclass := inOrder_of_run (P := fun u => u = t) (fun w u v hu hv helig => by
      simp only [decide_eq_true_eq] at hu hv
      rwa [hv, ← hu]) hrun
    have hlength := congrArg List.length hclass
    simpa [List.count_eq_length_filter, beq_eq_decide] using hlength
  have hconserved : (s.pushed : Multiset (ScheduleTask ℕ C)) =
      s.tasks + s.executing + s.finished := hpool
  rw [hconserved, ← Multiset.coe_add] at hall
  refine add_right_cancel (b := (s.tasks : Multiset (ScheduleTask ℕ C))) (hall.trans ?_)
  ac_rfl

/-- Three callbacks are pushed, the first one for another thread: it stays, and the others are taken
up in turn. -/
def orderedRun : List (SchedulerAction Unit Unit ℕ) :=
  [.push (.inr ()) (.ofCb 0 7), .tickleTest (.inr ()), .push (.inr ()) (.ofCb 1 (-1)),
    .push (.inr ()) (.ofCb 2 (-1)), .scan (), .tickleTest (.inl ()), .acquire (), .resume (),
    .finish (), .release (), .retire (), .scan (), .tickleTest (.inl ())]

theorem tasks_in_order_orderedRun : ∃ s : Scheduler Unit Unit ℕ,
    (machine fun _ => 1).run init orderedRun = some s ∧ s.tasks = [.ofCb 0 7] ∧
      s.pushed.filter (·.thread = -1) = [.ofCb 1 (-1), .ofCb 2 (-1)] ∧
      ((machine fun _ => 1).log takenUp init orderedRun ++ s.tasks).filter (·.thread = -1) =
        s.pushed.filter (·.thread = -1) :=
  ⟨_, rfl, rfl, rfl, (tasks_in_order (fun _ => 1) orderedRun _ rfl).1 (-1)⟩

end Scheduler

end CoroutineGateway
