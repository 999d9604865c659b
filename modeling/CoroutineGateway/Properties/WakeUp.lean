import CoroutineGateway.Construction.Scheduler
import Mathlib.Order.Nat

/-!
# Lost wake-ups

`scheduleLock` calls `tickle()` only when the queue was empty, and `tickle()` writes to the pipe
only when it reads `m_idleThreadCount > 0`.  A worker that has scanned the queue and not yet
incremented the counter is missed by both tests, and then blocks in `epoll_wait` although a task
is queued for it.

A queue with a task for any thread is *attended* when somebody will look at it: a worker about
to scan, a byte in the pipe, a `tickle()` call in progress, or no worker on its way into
`epoll_wait` at all.  No wake-up is lost as long as two kinds of step leave the queue attended:
the push of such a task behind pinned ones, and a `tickle()` that reads no idle thread.
-/

namespace CoroutineGateway

namespace Phase

variable {C : Type*}

/-- The worker will scan the queue before it waits again, and holds no task. -/
def alert : Phase C → Prop
  | .scan | .idle .woken => True
  | _ => False

/-- The worker found no task and has not come back from `epoll_wait` since. -/
def waiting : Phase C → Prop
  | .idle .before | .idle .entered | .idle .blocked => True
  | _ => False

end Phase

namespace Scheduler

variable {W O C : Type*} {s s' : Scheduler W O C}

/-- `m_tasks` holds a task that is not pinned to a thread. -/
def OpenTask (s : Scheduler W O C) : Prop := ∃ t ∈ s.tasks, t.unpinned

/-- The worker executes a task or is blocked in `epoll_wait`. -/
def Settled (s : Scheduler W O C) (w : W) : Prop :=
  (∃ t, (s.phase w).job = some t) ∨ s.phase w = .idle .blocked

/-- A task for any thread is queued, a worker is blocked in `epoll_wait`, every other is blocked
there as well or executes a task, and nothing is under way that would wake one up. -/
structure LostWakeUp (s : Scheduler W O C) : Prop where
  queued : s.OpenTask
  busy : ∀ w, s.Settled w
  blocked : ∃ w, s.phase w = .idle .blocked
  pipe : s.pipe = 0
  call : ∀ th, s.call th = none

/-- Somebody will look at the queue. -/
def Attended (s : Scheduler W O C) : Prop :=
  (∃ w, (s.phase w).alert) ∨ 0 < s.pipe ∨ (∃ th, s.call th ≠ none) ∨ ∀ w, ¬ (s.phase w).waiting

lemma LostWakeUp.not_attended (h : s.LostWakeUp) : ¬ s.Attended := by
  obtain ⟨-, hbusy, ⟨v, hv⟩, hpipe, hcall⟩ := h
  rintro (⟨w, hw⟩ | h | ⟨th, hth⟩ | h)
  · rcases hbusy w with ⟨t, ht⟩ | hblocked
    · cases hphase : s.phase w <;> simp [hphase, Phase.job, Phase.alert] at ht hw
    · simp [hblocked, Phase.alert] at hw
  · exact absurd hpipe h.ne'
  · exact hth (hcall th)
  · exact h v (by simp [hv, Phase.waiting])

lemma Attended.congr (h : s.Attended) (hphase : s'.phase = s.phase) (hpipe : s'.pipe = s.pipe)
    (hcall : s'.call = s.call) : s'.Attended := by
  unfold Attended
  rw [hphase, hpipe, hcall]
  exact h

variable [DecidableEq W]

/-- A worker moves on, and neither stops being alert nor begins to wait. -/
lemma Attended.move (h : s.Attended) (w : W) (p : Phase C)
    (hphase : s'.phase = Function.update s.phase w p) (hpipe : s'.pipe = s.pipe)
    (hcall : s'.call = s.call) (halert : (s.phase w).alert → p.alert)
    (hwaiting : p.waiting → (s.phase w).waiting) : s'.Attended := by
  unfold Attended
  rw [hphase, hpipe, hcall]
  refine h.imp ?_ (Or.imp_right (Or.imp_right ?_))
  · rintro ⟨v, hv⟩
    refine ⟨v, ?_⟩
    by_cases hvw : v = w
    · subst hvw
      rw [Function.update_self]
      exact halert hv
    · rwa [Function.update_of_ne hvw]
  · intro hall v
    by_cases hvw : v = w
    · subst hvw
      rw [Function.update_self]
      exact fun hp => hall v (hwaiting hp)
    · rw [Function.update_of_ne hvw]
      exact hall v

omit [DecidableEq W] in
lemma attended_of_alert {w : W} (h : (s.phase w).alert) : s.Attended := .inl ⟨w, h⟩

omit [DecidableEq W] in
lemma attended_of_call (th : W ⊕ O) (h : s.call th ≠ none) : s.Attended :=
  .inr (.inr (.inl ⟨th, h⟩))

variable [DecidableEq O] {threadId : W → ℤ} {a : SchedulerAction W O C}

/-- Somebody will look at a task for any thread, as long as no worker has left `run()`. -/
def Covered (s : Scheduler W O C) : Prop :=
  (∀ w, s.phase w ≠ .exited) → s.OpenTask → s.Attended

/-- The condition on the steps: while no worker has left `run()`, a task for any thread is pushed
behind pinned tasks only when the queue is attended, and a `tickle()` that reads no idle thread
while a task for any thread is queued leaves it attended. -/
def Watched (s : Scheduler W O C) : SchedulerAction W O C → Prop
  | .push _ task => (∀ w, s.phase w ≠ .exited) → task.nonempty → task.unpinned →
    s.tasks ≠ [] → ¬ s.OpenTask → s.Attended
  | .tickleTest th => (∀ w, s.phase w ≠ .exited) → s.idleThreadCount ≤ 0 → s.OpenTask →
    (s.setCall th none).Attended
  | _ => True

/-! ## Watched steps keep the queue attended -/

/-- A worker never comes back from outside `run()`. -/
lemma exited_step (h : Transition threadId s a s') {w : W} (hw : s.phase w = .exited) :
    s'.phase w = .exited := by
  have hother : ∀ v p, s.phase v ≠ .exited → Function.update s.phase v p w = .exited := by
    intro v p hv
    have hne : w ≠ v := fun h => hv (h ▸ hw)
    rw [Function.update_of_ne hne, hw]
  cases h with
  | push th task =>
    unfold scheduleLock
    split_ifs <;> exact hw
  | take v skipped t rest hcall hphase | takeNone v hcall hphase | acquire v t f hphase
  | acquireNew v t hphase | skip v t f hphase | resume v t f hphase | yield v t f hphase
  | yieldTerm v t f hphase | finish v t f hphase | release v t f hphase | retire v t hphase
  | idleEnter v hphase | block v hphase | wake v hphase | idleLeave v hphase
  | idleExit v hphase => exact hother v _ (by simp [hphase])
  | _ => exact hw

lemma scheduleLock_tasks (s : Scheduler W O C) (th : W ⊕ O) (task : ScheduleTask ℕ C) :
    (s.scheduleLock th task).tasks = if task.nonempty then s.tasks ++ [task] else s.tasks := by
  unfold scheduleLock
  split_ifs <;> rfl

lemma scheduleLock_call (s : Scheduler W O C) (th : W ⊕ O) (task : ScheduleTask ℕ C) :
    (s.scheduleLock th task).call =
      Function.update s.call th (if s.tasks.isEmpty then some .test else none) := by
  unfold scheduleLock
  split_ifs <;> rfl

lemma scheduleLock_phase (s : Scheduler W O C) (th : W ⊕ O) (task : ScheduleTask ℕ C) :
    (s.scheduleLock th task).phase = s.phase := by
  unfold scheduleLock
  split_ifs <;> rfl

lemma scheduleLock_pipe (s : Scheduler W O C) (th : W ⊕ O) (task : ScheduleTask ℕ C) :
    (s.scheduleLock th task).pipe = s.pipe := by
  unfold scheduleLock
  split_ifs <;> rfl

/-- The push onto an empty queue calls `tickle()`, any other push calls nobody. -/
lemma attended_scheduleLock_iff {th : W ⊕ O} {task : ScheduleTask ℕ C} (hcall : s.call th = none)
    (hne : s.tasks ≠ []) : (s.scheduleLock th task).Attended ↔ s.Attended := by
  have hsame : (s.scheduleLock th task).call = s.call := by
    rw [scheduleLock_call, ← hcall]
    simp [hne, hcall]
  unfold Attended
  rw [hsame, scheduleLock_phase, scheduleLock_pipe]

lemma covered_scheduleLock (hs : s.Covered) {th : W ⊕ O} {task : ScheduleTask ℕ C}
    (hcall : s.call th = none) (hG : s.Watched (.push th task)) :
    (s.scheduleLock th task).Covered := by
  intro hin hopen
  rw [scheduleLock_phase] at hin
  by_cases hempty : s.tasks = []
  · exact attended_of_call th (by simp [scheduleLock_call, hempty])
  · rw [attended_scheduleLock_iff hcall hempty]
    by_cases hold : s.OpenTask
    · exact hs hin hold
    · obtain ⟨t, ht, hun⟩ := hopen
      rw [scheduleLock_tasks] at ht
      split_ifs at ht with hne
      · rcases List.mem_append.mp ht with ht | ht
        · exact absurd ⟨t, ht, hun⟩ hold
        · obtain rfl := List.mem_singleton.mp ht
          exact hG hin hne hun hempty hold
      · exact absurd ⟨t, ht, hun⟩ hold

/-- Under the condition every step keeps the queue attended. -/
theorem covered_step (hs : s.Covered) (hG : s.Watched a) (h : Transition threadId s a s') :
    s'.Covered := by
  intro hin' hopen
  have hin : ∀ w, s.phase w ≠ .exited := fun w hw => hin' w (exited_step h hw)
  cases h with
  | spawn | stop | takeEmpty | resumeAbort | yieldAbort =>
    exact (hs hin hopen).congr rfl rfl rfl
  | push th task hmay hcall => exact covered_scheduleLock hs hcall hG hin' hopen
  | tickle th | testIdle th => exact attended_of_call th (by simp [setCall])
  | testBusy th hcall hidle => exact hG hin hidle hopen
  | tickleWrite th => exact .inr (.inl (Nat.succ_pos _))
  | take w skipped t rest =>
    -- what is left in the queue makes the worker call `tickle()`
    obtain ⟨u, hu, -⟩ := hopen
    have hleft : (skipped.isEmpty && rest.isEmpty) = false := by
      rcases List.mem_append.mp hu with hu | hu
      · simp [List.ne_nil_of_mem hu]
      · simp [List.ne_nil_of_mem hu]
    exact attended_of_call (.inl w) (by simp [hleft])
  | takeNone w hcall hphase hskip =>
    obtain ⟨u, hu, hun⟩ := hopen
    exact absurd (.inl hun) (hskip u hu)
  | acquire w t f hphase | acquireNew w t hphase | skip w t f hphase | resume w t f hphase
  | yield w t f hphase | yieldTerm w t f hphase | finish w t f hphase | release w t f hphase
  | idleEnter w hphase | block w hphase =>
    exact (hs hin hopen).move w _ rfl rfl rfl (by simp [hphase, Phase.alert])
      (by simp [hphase, Phase.waiting])
  | retire w | wake w | idleLeave w | idleExit w =>
    exact attended_of_alert (w := w) (by simp [move, Phase.alert])
  | drain w hphase => exact attended_of_alert (w := w) (by simp [hphase, Phase.alert])

omit [DecidableEq W] [DecidableEq O] in
lemma Covered.not_lost (hs : s.Covered) : ¬ s.LostWakeUp := by
  intro h
  refine h.not_attended (hs (fun w hw => ?_) h.queued)
  rcases h.busy w with ⟨t, ht⟩ | hblocked
  · simp [hw, Phase.job] at ht
  · simp [hw] at hblocked

/-! ## Violating the condition loses a wake-up -/

/-- A task for any thread is queued, nobody will look at it, and every worker is in `run()`. -/
structure Unattended (s : Scheduler W O C) : Prop where
  queued : s.OpenTask
  inRun : ∀ w, s.phase w ≠ .exited
  not_attended : ¬ s.Attended
  going : s.aborted = false

namespace Unattended

omit [DecidableEq W] [DecidableEq O] in
lemma call_eq (hs : s.Unattended) (th : W ⊕ O) : s.call th = none := by
  by_contra h
  exact hs.not_attended (attended_of_call th h)

omit [DecidableEq W] [DecidableEq O] in
lemma not_alert (hs : s.Unattended) (w : W) : ¬ (s.phase w).alert :=
  fun h => hs.not_attended (attended_of_alert h)

omit [DecidableEq O] in
/-- A worker on its way into `epoll_wait` goes on, and nobody looks at the queue. -/
lemma move (hs : s.Unattended) (w : W) (p : Phase C) (hw : (s.phase w).waiting) (hp : p.waiting)
    (hphase : s'.phase = Function.update s.phase w p) (hpipe : s'.pipe = s.pipe)
    (hcall : s'.call = s.call) (htasks : s'.tasks = s.tasks) (haborted : s'.aborted = s.aborted) :
    s'.Unattended where
  queued := by
    unfold OpenTask
    rw [htasks]
    exact hs.queued
  inRun v := by
    rw [hphase]
    by_cases hv : v = w
    · subst hv
      rw [Function.update_self]
      rintro rfl
      exact hp
    · rw [Function.update_of_ne hv]
      exact hs.inRun v
  not_attended h := by
    refine hs.not_attended (h.move w (s.phase w) ?_ hpipe.symm hcall.symm ?_ fun _ => ?_)
    · rw [hphase, Function.update_idem, Function.update_eq_self]
    · rw [hphase, Function.update_self]
      intro halert
      cases p with
      | idle pc => cases pc <;> simp_all [Phase.alert, Phase.waiting]
      | _ => simp_all [Phase.waiting]
    · rw [hphase, Function.update_self]
      exact hp
  going := haborted.trans hs.going

end Unattended

/-- Where nobody looks at the queue, a worker can go on until it executes a task or is blocked,
and the others stay as settled as they are. -/
lemma Unattended.settle (hs : s.Unattended) (threadId : W → ℤ) (w : W) :
    ∃ s', (machine threadId).Reaches s s' ∧ s'.Unattended ∧ s'.Settled w ∧
      ∀ v, s.Settled v → s'.Settled v := by
  have hcall := hs.call_eq (.inl w)
  have hstay : s.Settled w → ∃ s', (machine threadId).Reaches s s' ∧ s'.Unattended ∧
      s'.Settled w ∧ ∀ v, s.Settled v → s'.Settled v :=
    fun h => ⟨s, Machine.Reaches.refl _ s, hs, h, fun _ hv => hv⟩
  have hblock : ∀ r : Scheduler W O C, r.Unattended → r.phase w = .idle .entered →
      (∀ v, v ≠ w → r.phase v = s.phase v) → ∃ s', (machine threadId).Reaches r s' ∧
        s'.Unattended ∧ s'.Settled w ∧ ∀ v, s.Settled v → s'.Settled v := by
    intro r hr hphase hothers
    refine ⟨r.move w (.idle .blocked), ⟨[.block w], ?_⟩, ?_, ?_, fun v hv => ?_⟩
    · simp [Machine.run, machine, workerOf, workerStep, hr.going, hr.call_eq (.inl w), hphase]
    · exact hr.move w (.idle .blocked) (by simp [hphase, Phase.waiting]) trivial rfl rfl rfl rfl
        rfl
    · exact .inr (by simp [Scheduler.move])
    · by_cases hvw : v = w
      · exact .inr (by simp [Scheduler.move, hvw])
      · simpa [Settled, Scheduler.move, hvw, hothers v hvw] using hv
  cases hphase : s.phase w with
  | scan => exact absurd (by simp [hphase, Phase.alert]) (hs.not_alert w)
  | exited => exact absurd hphase (hs.inRun w)
  | exec t pc => exact hstay (.inl ⟨t, by simp [hphase, Phase.job]⟩)
  | idle pc =>
    cases pc with
    | woken => exact absurd (by simp [hphase, Phase.alert]) (hs.not_alert w)
    | blocked => exact hstay (.inr hphase)
    | entered => exact hblock s hs hphase fun _ _ => rfl
    | before =>
      let r : Scheduler W O C :=
        { s.move w (.idle .entered) with idleThreadCount := s.idleThreadCount + 1 }
      have hr : r.Unattended := hs.move w (.idle .entered) (by simp [hphase, Phase.waiting])
        trivial rfl rfl rfl rfl rfl
      have hstep : (machine threadId).step s (.idleEnter w) = some r := by
        simp [machine, workerOf, workerStep, hs.going, hcall, hphase, r]
      obtain ⟨s', hreach, hrest⟩ := hblock r hr (by simp [r, Scheduler.move])
        fun v hv => by simp [r, Scheduler.move, hv]
      exact ⟨s', (Machine.Reaches.tail _ (Machine.Reaches.refl _ s) hstep).trans _ hreach, hrest⟩

/-- Where nobody looks at the queue, the wake-up can get lost. -/
theorem Unattended.reaches_lost [Fintype W] (hs : s.Unattended) (threadId : W → ℤ) :
    ∃ s', (machine threadId).Reaches s s' ∧ s'.LostWakeUp := by
  obtain ⟨s', hreach, hs', hsettled⟩ := Machine.reaches_forall (M := machine threadId)
    (I := fun s : Scheduler W O C => s.Unattended) (S := fun s w => s.Settled w)
    (fun s w hs => hs.settle threadId w) hs
  obtain ⟨w, hw⟩ : ∃ w, (s'.phase w).waiting := by
    by_contra hnone
    exact hs'.not_attended (.inr (.inr (.inr (not_exists.mp hnone))))
  have hblocked : s'.phase w = .idle .blocked := by
    rcases hsettled w with ⟨t, ht⟩ | hblocked
    · cases hphase : s'.phase w <;> simp [hphase, Phase.job, Phase.waiting] at ht hw
    · exact hblocked
  refine ⟨s', hreach, hs'.queued, hsettled, ⟨w, hblocked⟩, ?_, hs'.call_eq⟩
  by_contra hpipe
  exact hs'.not_attended (.inr (.inl (Nat.pos_of_ne_zero hpipe)))

/-- A step that violates the condition leaves a task for any thread that nobody looks at. -/
theorem unattended_of_not_watched (hG : ¬ s.Watched a)
    (h : (machine threadId).step s a = some s') : s'.Unattended := by
  obtain ⟨hgoing, h⟩ := transition_of_step h
  cases h with
  | push th task hmay hcall =>
    simp only [Watched, Classical.not_imp] at hG
    obtain ⟨hin, hne, hun, htasks, -, hattended⟩ := hG
    refine ⟨⟨task, ?_, hun⟩, ?_, ?_, ?_⟩
    · simp [scheduleLock_tasks, hne]
    · rwa [scheduleLock_phase]
    · rwa [attended_scheduleLock_iff hcall htasks]
    · unfold scheduleLock
      split_ifs <;> exact hgoing
  | testIdle th hcall hidle =>
    simp only [Watched, Classical.not_imp] at hG
    exact absurd hidle (Int.not_lt.mpr hG.2.1)
  | testBusy th hcall hidle =>
    simp only [Watched, Classical.not_imp] at hG
    exact ⟨hG.2.2.1, hG.1, hG.2.2.2, hgoing⟩
  | _ => exact absurd trivial hG

/-- After a step that violates the condition, a wake-up can get lost. -/
theorem reaches_lost_of_not_watched [Fintype W] (hG : ¬ s.Watched a)
    (h : (machine threadId).step s a = some s') :
    ∃ s'', (machine threadId).Reaches s' s'' ∧ s''.LostWakeUp :=
  (unattended_of_not_watched hG h).reaches_lost threadId

/-- **When no wake-up is lost.**  On a run whose steps all meet the condition no state is reached
in which a task for any thread waits for workers that all execute a task or are blocked, with
nothing under way that would wake one of them. -/
theorem no_lostWakeUp (threadId : W → ℤ) (as : List (SchedulerAction W O C))
    (hG : (machine threadId).Guarded Watched init as) :
    (machine threadId).Throughout (fun s => ¬ s.LostWakeUp) init as :=
  Machine.throughout_of_guarded
    (fun _ _ _ hs hG h => covered_step hs hG (transition_of_step h).2)
    (fun _ hs => Covered.not_lost hs) (fun _ h => absurd h (by simp [OpenTask, init])) hG

/-- A worker blocks, a callback is pushed and the worker is woken: a run that meets the
condition. -/
theorem no_lostWakeUp_blocked_first :
    (machine fun _ => 1).Throughout (fun s : Scheduler Unit Unit Unit => ¬ s.LostWakeUp) init
      [.scan (), .idleEnter (), .block (), .push (.inr ()) (.ofCb () (-1)),
        .tickleTest (.inr ()), .tickleWrite (.inr ()), .wake ()] := by
  refine no_lostWakeUp _ _ ?_
  refine .cons trivial rfl (.cons trivial rfl (.cons trivial rfl (.cons ?_ rfl (.cons ?_ rfl
    (.cons trivial rfl (.cons trivial rfl trivial))))))
  · exact fun _ _ _ hne => absurd rfl hne
  · exact fun _ hidle => absurd hidle (by decide)

/-- The callback is pushed between the worker's scan and its `m_idleThreadCount++`: the
`tickle()` reads no idle thread, and the worker blocks with the callback in the queue. -/
theorem wakeUp_lost :
    ¬ ∀ (as : List (SchedulerAction Unit Unit Unit)) (s : Scheduler Unit Unit Unit),
      (machine fun _ => 1).run init as = some s → ¬ s.LostWakeUp := by
  intro hall
  refine hall [.scan (), .push (.inr ()) (.ofCb () (-1)), .tickleTest (.inr ()),
    .idleEnter (), .block ()] _ rfl ⟨⟨.ofCb () (-1), ?_, rfl⟩, fun _ => .inr rfl, ⟨(), rfl⟩, rfl,
      ?_⟩
  · exact List.mem_singleton_self _
  · rintro (_ | _) <;> rfl

end Scheduler

end CoroutineGateway
