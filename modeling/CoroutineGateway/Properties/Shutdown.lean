import CoroutineGateway.Construction.Stopping
import CoroutineGateway.Properties.TimerWakeUp

/-!
# Nothing is left behind

When all workers have left `run()`, there should be no timer, no event that is waited for and no
task.  A worker looks at the timers first, at the events second and at the tasks last, and what it
has seen may be outdated when its idle fiber ends.

Each kind has its watchers.  A timer is watched by a worker whose idle fiber will not end without
another look at the timers, an event by one whose idle fiber will not end without another look at
`m_pendingEventCount`, and a task by every worker that has not left `run()`.  No step takes the last
watcher away from what there is.  So nothing is left as long as whatever is added finds a watcher,
`StoppingManager.Watched` (`nothing_left`).

A worker watches while it runs a task, and what it adds is safe, unless its idle fiber has ended.
That a worker whose idle fiber has ended still runs a task takes a second worker, and then a timer
can be lost that a task has added (`timer_left`).
-/

namespace CoroutineGateway

/-! ## Timers and their deadlines -/

lemma addMs_lt (t : ℤ) (ms : ℕ) : addMs t ms < 2 ^ 63 := by
  have h : Int.bmod (t + ms * 1000000) (2 ^ 64) < _ := Int.bmod_lt (by omega)
  rw [addMs]
  omega

namespace TimerManager

variable {α : Type*} {m : TimerManager α} {t : Timer α} {id : TimerId} {now now' : ℤ} {ms : ℕ}
  {cb : Option (Callback α)} {recurring : Bool}

/-- No deadline is beyond the range of the clock. -/
def Dated (m : TimerManager α) : Prop := ∀ id, m.next id < 2 ^ 63

lemma dated_init (now : ℤ) : (init now : TimerManager α).Dated := fun _ => by
  show (0 : ℤ) < 2 ^ 63
  omega

lemma Dated.set (hm : m.Dated) (id : TimerId) (ht : t.next < 2 ^ 63) : (m.set id t).Dated := by
  intro e
  by_cases he : e = id
  · rw [he, next, set_heap_self]
    exact ht
  · rw [next, set_heap_ne _ _ _ he]
    exact hm e

lemma Dated.addTimer (hm : m.Dated) : (m.addTimer ms cb recurring now).1.Dated := by
  have h := hm.set (t := { recurring, ms, next := addMs now ms, cb }) m.created (addMs_lt now ms)
  exact fun e => h e

lemma Dated.cancel (hm : m.Dated) (id : TimerId) : (m.cancel id).2.Dated := by
  have h := hm.set (t := { m.heap id with cb := none }) id (hm id)
  unfold TimerManager.cancel
  split_ifs
  · exact hm
  · dsimp only
    split
    · exact fun e => h e
    · exact h

lemma Dated.refresh (hm : m.Dated) (id : TimerId) (now : ℤ) : (m.refresh id now).2.Dated := by
  have h := hm.set (t := { m.heap id with next := addMs now (m.heap id).ms }) id (addMs_lt _ _)
  unfold TimerManager.refresh
  split_ifs
  · exact hm
  · split
    · exact hm
    · exact fun e => h e

lemma Dated.reset (hm : m.Dated) (id : TimerId) (ms : ℕ) (fromNow : Bool) (now : ℤ) :
    (m.reset id ms fromNow now).2.Dated := by
  have h := hm.set (t := { m.heap id with
    ms := ms
    next := addMs (if fromNow then now else subMs (m.heap id).next (m.heap id).ms) ms }) id
    (addMs_lt _ _)
  unfold TimerManager.reset
  split_ifs
  · exact hm
  · exact hm
  · split
    · exact hm
    · exact fun e => h e

lemma Dated.expire (hm : m.Dated) (now : ℤ) (id : TimerId) : (m.expire now id).Dated := by
  unfold TimerManager.expire
  dsimp only
  split_ifs
  · have h := hm.set (t := { m.heap id with next := addMs now (m.heap id).ms }) id (addMs_lt _ _)
    exact fun e => h e
  · have h := hm.set (t := { m.heap id with cb := none }) id (hm id)
    exact fun e => h e

lemma Dated.listExpiredCb (hm : m.Dated) {fuel : ℕ}
    {r : TimerManager α × List (TimerId × Option (Callback α))}
    (hr : m.listExpiredCb now now' fuel = some r) : r.1.Dated := by
  have hdetect : (m.detectClockRollover now').2.Dated := hm
  exact expireLoop_invariant (fun _ temp hm _ => hm.expire now temp) hdetect hr

/-- `~0ull` is no distance between two readings of the clock. -/
lemma Dated.timers_of_getNextTimer (hm : m.Dated) (hnow : -2 ^ 63 ≤ now)
    (hnone : (m.getNextTimer now).2 = 2 ^ 64 - 1) : m.timers = [] := by
  cases htimers : m.timers with
  | nil => rfl
  | cons id rest =>
    have hms : (m.getNextTimer now).2 =
        if now ≥ m.next id then 0 else ((m.next id - now) / 1000000).toNat := by
      unfold TimerManager.getNextTimer
      simp only [htimers]
      rfl
    have hlt := hm id
    rw [hms] at hnone
    split_ifs at hnone
    omega

/-! ## No timer comes from nowhere -/

lemma timers_cancel (hm : m.timers = []) (id : TimerId) : (m.cancel id).2.timers = [] := by
  unfold TimerManager.cancel
  split_ifs
  · exact hm
  · dsimp only
    split
    · simp [hm]
    · exact hm

lemma find_of_timers (hm : m.timers = []) (id : TimerId) : m.find id = none := by
  rw [TimerManager.find, hm]
  rfl

lemma timers_refresh (hm : m.timers = []) (id : TimerId) (now : ℤ) :
    (m.refresh id now).2.timers = [] := by
  unfold TimerManager.refresh
  simp only [find_of_timers hm]
  split_ifs
  · exact hm
  · exact hm

lemma timers_reset (hm : m.timers = []) (id : TimerId) (ms : ℕ) (fromNow : Bool) (now : ℤ) :
    (m.reset id ms fromNow now).2.timers = [] := by
  unfold TimerManager.reset
  simp only [find_of_timers hm]
  split_ifs <;> exact hm

lemma timers_listExpiredCb (hm : m.timers = []) {fuel : ℕ}
    {r : TimerManager α × List (TimerId × Option (Callback α))}
    (hr : m.listExpiredCb now now' fuel = some r) : r.1.timers = [] := by
  have hdetect : (m.detectClockRollover now').2.timers = [] := hm
  refine expireLoop_invariant (I := fun m => m.timers = []) (fun m temp hm hdue => ?_) hdetect hr
  rw [due_eq_some hdue] at hm
  cases hm

end TimerManager

/-! ## The idle fibers -/

namespace Scheduler

variable {W O C : Type*} [DecidableEq W] [DecidableEq O] {threadId : W → ℤ}
  {s s' : Scheduler W O C} {a : SchedulerAction W O C} {w : W}

/-- A worker comes to `stopping` only through the call of its idle fiber. -/
lemma entered_of_step (h : Transition threadId s a s') (hw : s'.phase w = .idle .entered) :
    s.phase w = .idle .entered ∨ a = .idleEnter w := by
  have hother : ∀ v p, Function.update s.phase v p w = .idle .entered → p ≠ .idle .entered →
      s.phase w = .idle .entered := by
    intro v p h hp
    by_cases hv : w = v
    · rw [hv, Function.update_self] at h
      exact absurd h hp
    · rwa [Function.update_of_ne hv] at h
  cases h with
  | push th task =>
    rw [scheduleLock_phase] at hw
    exact .inl hw
  | idleEnter v hphase =>
    by_cases hv : w = v
    · exact .inr (hv ▸ rfl)
    · simp only [move, Function.update_of_ne hv] at hw
      exact .inl hw
  | takeNone v hcall hphase => exact .inl (hother v _ hw (by split_ifs <;> simp))
  | take v skipped t rest hcall hphase | acquire v t f hphase | acquireNew v t hphase
  | skip v t f hphase | resume v t f hphase | yield v t f hphase | yieldTerm v t f hphase
  | finish v t f hphase | release v t f hphase | retire v t hphase | block v hphase
  | wake v hphase | idleLeave v hphase | idleExit v hphase =>
    exact .inl (hother v _ hw (by simp))
  | _ => exact .inl hw

/-- An idle fiber ends only where `stopping` is true. -/
lemma idleTerm_of_step (h : Transition threadId s a s') (hw : s'.idleTerm w) :
    s.idleTerm w ∨ a = .idleExit w ∧ s.phase w = .idle .entered := by
  cases h with
  | push th task =>
    unfold scheduleLock at hw
    split_ifs at hw <;> exact .inl hw
  | idleExit v hphase =>
    by_cases hv : w = v
    · exact .inr ⟨hv ▸ rfl, hv ▸ hphase⟩
    · exact .inl (by simpa [hv] using hw)
  | _ => exact .inl hw

/-- A worker in `idle()` has an idle fiber that has not ended, and a worker out of `run()` has one
that has. -/
structure IdleFibers (s : Scheduler W O C) : Prop where
  ended : ∀ w, s.phase w = .exited → s.idleTerm w
  going : ∀ w pc, s.phase w = .idle pc → s.idleTerm w = false

omit [DecidableEq W] [DecidableEq O] in
lemma idleFibers_init : (init : Scheduler W O C).IdleFibers :=
  ⟨fun _ h => (by cases h), fun _ _ h => (by cases h)⟩

omit [DecidableEq O] in
lemma IdleFibers.move (hs : s.IdleFibers) (w : W) (p : Phase C)
    (hphase : s'.phase = Function.update s.phase w p) (hterm : s'.idleTerm = s.idleTerm)
    (hexited : p = .exited → s.idleTerm w) (hidle : ∀ pc, p = .idle pc → s.idleTerm w = false) :
    s'.IdleFibers := by
  constructor
  · intro v hv
    rw [hterm]
    by_cases hvw : v = w
    · subst hvw
      rw [hphase, Function.update_self] at hv
      exact hexited hv
    · rw [hphase, Function.update_of_ne hvw] at hv
      exact hs.ended v hv
  · intro v pc hv
    rw [hterm]
    by_cases hvw : v = w
    · subst hvw
      rw [hphase, Function.update_self] at hv
      exact hidle pc hv
    · rw [hphase, Function.update_of_ne hvw] at hv
      exact hs.going v pc hv

lemma idleFibers_step (h : Transition threadId s a s') (hs : s.IdleFibers) : s'.IdleFibers := by
  cases h with
  | push th task =>
    unfold scheduleLock
    split_ifs <;> exact ⟨hs.ended, hs.going⟩
  | takeNone v hcall hphase =>
    refine hs.move v (if s.idleTerm v then .exited else .idle .before) rfl rfl ?_ ?_
    · split_ifs with hterm
      · exact fun _ => hterm
      · intro h
        cases h
    · split_ifs with hterm
      · intro pc h
        cases h
      · exact fun _ _ => by simpa using hterm
  | idleExit v hphase =>
    constructor
    · intro u hu
      by_cases huv : u = v
      · simp [huv]
      · simp only [Scheduler.move, Function.update_of_ne huv] at hu ⊢
        exact hs.ended u hu
    · intro u pc hu
      by_cases huv : u = v
      · simp [Scheduler.move, huv] at hu
      · simp only [Scheduler.move, Function.update_of_ne huv] at hu ⊢
        exact hs.going u pc hu
  | idleEnter v hphase | block v hphase | wake v hphase =>
    exact hs.move v _ rfl rfl (fun h => by cases h) fun _ _ => hs.going v _ hphase
  | take v skipped t rest hcall hphase | acquire v t f hphase | acquireNew v t hphase
  | skip v t f hphase | resume v t f hphase | yield v t f hphase | yieldTerm v t f hphase
  | finish v t f hphase | release v t f hphase | retire v t hphase | idleLeave v hphase =>
    exact hs.move v _ rfl rfl (fun h => by cases h) fun _ h => by cases h
  | _ => exact ⟨hs.ended, hs.going⟩

end Scheduler

/-! ## The timers and what a worker knows of them -/

namespace TimedScheduler

variable {W O C α : Type*} {s s' : TimedScheduler W O C α} {w : W}

/-- The worker is in `stopping`, and `getNextTimer` has returned `~0ull` to it. -/
def NoTimers (s : TimedScheduler W O C α) (w : W) : Prop :=
  s.sched.phase w = .idle .entered ∧ (s.timeout w).map Timeout.ms = some (2 ^ 64 - 1)

/-- No deadline and no reading of the clock is out of range. -/
structure InRange (s : TimedScheduler W O C α) : Prop where
  dated : s.timers.Dated
  clock : -2 ^ 63 ≤ s.clock

lemma inRange_init {now : ℤ} (hnow : -2 ^ 63 ≤ now) : (init now : TimedScheduler W O C α).InRange :=
  ⟨TimerManager.dated_init now, hnow⟩

variable [DecidableEq W] [DecidableEq O] {threadId : W → ℤ} {a : TimedAction W O C α}

/-- One constructor for each action, with what the step has tested of the worker. -/
inductive Transition (threadId : W → ℤ) (s : TimedScheduler W O C α) :
    TimedAction W O C α → TimedScheduler W O C α → Prop where
  | sched (b : SchedulerAction W O C) (s' : TimedScheduler W O C α)
      (htrans : Scheduler.Transition threadId s.sched b s'.sched)
      (hasked : ∀ w, b = .idleExit w → (s.timeout w).map Timeout.ms = some (2 ^ 64 - 1))
      (hframe : s'.timers = s.timers ∧ s'.clock = s.clock)
      (htimeout : ∀ w, b ≠ .idleEnter w ∧ s'.timeout w = s.timeout w ∨ s'.timeout w = none) :
      Transition threadId s (.sched b) s'
  | addTimer (th : W ⊕ O) (ms : ℕ) (cb : Option (Callback α)) (recurring : Bool) (now : ℤ)
      (hmay : s.sched.mayCall th) :
      Transition threadId s (.addTimer th ms cb recurring now) (s.addTimer th ms cb recurring now)
  | getNextTimer (w : W) (now : ℤ) (hphase : s.sched.phase w = .idle .entered)
      (hclock : s.clock ≤ now) : Transition threadId s (.getNextTimer w now) { s with
        timers := { s.timers with tickled := false }
        clock := now
        timeout := Function.update s.timeout w (some ⟨now, (s.timers.getNextTimer now).2⟩) }
  | stopping (now : ℤ) (hclock : s.clock ≤ now) : Transition threadId s (.stopping now) { s with
        timers := { s.timers with tickled := false }
        clock := now }
  | block (w : W) (wake : ℤ) (hphase : s.sched.phase w = .idle .entered) :
      Transition threadId s (.block w wake) (s.block w wake)
  | poll (w : W) (hphase : s.sched.phase w = .idle .entered) :
      Transition threadId s (.poll w) { s with sched := s.sched.move w (.idle .woken) }
  | listExpiredCb (w : W) (now now' : ℤ) (fuel : ℕ)
      (r : TimerManager α × List (TimerId × Option (Callback α)))
      (hr : s.timers.listExpiredCb now now' fuel = some r) (hclock : s.clock ≤ now') :
      Transition threadId s (.listExpiredCb w now now' fuel)
        { s with timers := r.1, clock := now' }

lemma transition_of_stepSched {b : SchedulerAction W O C} (h : s.stepSched threadId b = some s') :
    Transition threadId s (.sched b) s' := by
  obtain ⟨htrans, -, hblock, htimers, -, htimeout⟩ := stepSched_eq_some h
  have hclock : s'.clock = s.clock := by
    cases b with
    | block w => exact absurd rfl (hblock w)
    | idleEnter w =>
      obtain ⟨r, hr, rfl⟩ := Option.map_eq_some_iff.mp h
      obtain ⟨sched, -, rfl⟩ := Option.map_eq_some_iff.mp hr
      rfl
    | idleExit w =>
      simp only [stepSched] at h
      split_ifs at h
      obtain ⟨sched, -, rfl⟩ := Option.map_eq_some_iff.mp h
      rfl
    | _ =>
      obtain ⟨sched, -, rfl⟩ := Option.map_eq_some_iff.mp h
      rfl
  refine .sched b s' htrans (fun w hb => ?_) ⟨htimers, hclock⟩ fun w => ?_
  · subst hb
    simp only [stepSched] at h
    split_ifs at h with hasked
    exact hasked
  · rw [htimeout]
    cases b with
    | idleEnter v =>
      by_cases hv : w = v
      · exact .inr (by simp [hv])
      · exact .inl ⟨by simp [Ne.symm hv], Function.update_of_ne hv _ _⟩
    | _ => exact .inl ⟨by simp, rfl⟩

/-- Every step is one of the transitions. -/
theorem transition_of_step (h : (machine threadId).step s a = some s') :
    Transition threadId s a s' := by
  cases a with
  | sched b => exact transition_of_stepSched h
  | addTimer th ms cb recurring now =>
    simp only [machine] at h
    split_ifs at h with hcall
    obtain rfl := Option.some.inj h
    exact .addTimer th ms cb recurring now hcall.2.1
  | getNextTimer v now =>
    simp only [machine, TimerManager.getNextTimer_fst] at h
    split_ifs at h with hidle
    obtain rfl := Option.some.inj h
    exact .getNextTimer v now (phase_of_idlePc hidle.1.2.2) hidle.2
  | stopping now =>
    simp only [machine, TimerManager.getNextTimer_fst] at h
    split_ifs at h with hclock
    obtain rfl := Option.some.inj h
    exact .stopping now hclock
  | block v wake =>
    simp only [machine] at h
    split_ifs at h with hidle
    obtain rfl := Option.some.inj h
    exact .block v wake (phase_of_idlePc hidle.1.2.2)
  | poll v =>
    simp only [machine] at h
    split_ifs at h with hidle
    obtain rfl := Option.some.inj h
    exact .poll v (phase_of_idlePc hidle.1.2.2)
  | listExpiredCb v now now' fuel =>
    simp only [machine] at h
    split_ifs at h with hidle
    obtain ⟨r, hr, rfl⟩ := Option.map_eq_some_iff.mp h
    exact .listExpiredCb v now now' fuel r hr hidle.2.1

lemma inRange_step (hs : s.InRange) (h : Transition threadId s a s') : s'.InRange := by
  cases h with
  | sched b s' htrans hasked hframe =>
    refine ⟨?_, ?_⟩
    · rw [hframe.1]
      exact hs.dated
    · rw [hframe.2]
      exact hs.clock
  | addTimer => exact ⟨hs.dated.addTimer, hs.clock.trans (le_max_left _ _)⟩
  | getNextTimer v now hphase hclock => exact ⟨hs.dated, hs.clock.trans hclock⟩
  | stopping now hclock => exact ⟨hs.dated, hs.clock.trans hclock⟩
  | block | poll => exact ⟨hs.dated, hs.clock⟩
  | listExpiredCb v now now' fuel r hr hclock =>
    exact ⟨hs.dated.listExpiredCb hr, hs.clock.trans hclock⟩

lemma addTimer_sched (s : TimedScheduler W O C α) (th : W ⊕ O) (ms : ℕ)
    (cb : Option (Callback α)) (recurring : Bool) (now : ℤ) :
    ∃ call, (s.addTimer th ms cb recurring now).sched = { s.sched with call } := by
  unfold addTimer
  dsimp only
  split_ifs
  · exact ⟨_, rfl⟩
  · exact ⟨s.sched.call, rfl⟩

/-- Only `addTimer` adds a timer to no timers. -/
lemma timers_of_step (h : Transition threadId s a s') (hnone : s.timers.timers = []) :
    s'.timers.timers = [] ∨ ∃ th ms cb recurring now, a = .addTimer th ms cb recurring now := by
  cases h with
  | sched b s' htrans hasked hframe =>
    rw [hframe.1]
    exact .inl hnone
  | addTimer th ms cb recurring now => exact .inr ⟨th, ms, cb, recurring, now, rfl⟩
  | listExpiredCb v now now' fuel r hr =>
    exact .inl (TimerManager.timers_listExpiredCb hnone hr)
  | _ => exact .inl hnone

/-- A worker finds no timers where there are none. -/
lemma noTimers_of_step (hs : s.InRange) (h : Transition threadId s a s') (hw : s'.NoTimers w) :
    s.NoTimers w ∨ s'.timers.timers = [] ∧ ∃ now, a = .getNextTimer w now := by
  obtain ⟨hphase', hms⟩ := hw
  cases h with
  | sched b s' htrans hasked hframe htimeout =>
    rcases htimeout w with ⟨hb, hsame⟩ | hnone
    · rw [hsame] at hms
      exact .inl ⟨(Scheduler.entered_of_step htrans hphase').resolve_right hb, hms⟩
    · simp [hnone] at hms
  | addTimer th ms cb recurring now =>
    obtain ⟨call, hsched⟩ := s.addTimer_sched th ms cb recurring now
    rw [hsched] at hphase'
    exact .inl ⟨hphase', hms⟩
  | getNextTimer v now hphase hclock =>
    dsimp only at hms
    by_cases hv : w = v
    · subst hv
      rw [Function.update_self] at hms
      refine .inr ⟨?_, now, rfl⟩
      exact hs.dated.timers_of_getNextTimer (hs.clock.trans hclock) (Option.some.inj hms)
    · rw [Function.update_of_ne hv] at hms
      exact .inl ⟨hphase', hms⟩
  | stopping | listExpiredCb => exact .inl ⟨hphase', hms⟩
  | block v | poll v =>
    by_cases hv : w = v
    · simp [TimedScheduler.block, Scheduler.move, hv] at hphase'
    · refine .inl ⟨?_, hms⟩
      simpa [TimedScheduler.block, Scheduler.move, hv] using hphase'

/-- An idle fiber ends only after `getNextTimer` has returned `~0ull`. -/
lemma idleTerm_of_step (h : Transition threadId s a s') (hw : s'.sched.idleTerm w) :
    s.sched.idleTerm w ∨ a = .sched (.idleExit w) ∧ s.NoTimers w := by
  cases h with
  | sched b s' htrans hasked =>
    rcases Scheduler.idleTerm_of_step htrans hw with hw | ⟨rfl, hphase⟩
    · exact .inl hw
    · exact .inr ⟨rfl, hphase, hasked w rfl⟩
  | addTimer th ms cb recurring now =>
    obtain ⟨call, hsched⟩ := s.addTimer_sched th ms cb recurring now
    rw [hsched] at hw
    exact .inl hw
  | _ => exact .inl hw

/-! ## The tasks -/

/-- What is known of the tasks: none is lost, and a task that any worker may run finds a worker in
`run()`. -/
structure Kept [Fintype W] (s : TimedScheduler W O C α) : Prop where
  fibers : s.sched.IdleFibers
  conserved : s.sched.pool.Conserved
  inRun : s.sched.OpenTask → ∃ w, s.sched.phase w ≠ .exited

omit [DecidableEq W] [DecidableEq O] in
lemma kept_init [Fintype W] (now : ℤ) : (init now : TimedScheduler W O C α).Kept where
  fibers := Scheduler.idleFibers_init
  conserved := by
    simp [WorkPool.Conserved, WorkPool.running, Scheduler.pool, init, Scheduler.init, Phase.job]
  inRun := by simp [Scheduler.OpenTask, init, Scheduler.init]

/-- What is pushed from outside and may be run by any worker finds a worker in `run()`. -/
def Received (s : TimedScheduler W O C α) : TimedAction W O C α → Prop
  | .sched (.push (.inr _) task) => task.nonempty → task.unpinned →
    ∃ w, s.sched.phase w ≠ .exited
  | _ => True

/-- The last worker leaves `run()` only where there is no task for it. -/
lemma inRun_step {b : SchedulerAction W O C} (hG : s.Received (.sched b))
    (h : Scheduler.Transition threadId s.sched b s'.sched)
    (hs : s.sched.OpenTask → ∃ w, s.sched.phase w ≠ .exited) (hopen : s'.sched.OpenTask) :
    ∃ w, s'.sched.phase w ≠ .exited := by
  generalize s'.sched = r at h hopen
  cases h with
  | push th task hmay =>
    rw [Scheduler.scheduleLock_phase]
    cases th with
    | inl w => exact ⟨w, fun hexited => by simp [Scheduler.mayCall, hexited] at hmay⟩
    | inr o =>
      obtain ⟨t, ht, hun⟩ := hopen
      rw [Scheduler.scheduleLock_tasks] at ht
      split_ifs at ht with hne
      · rcases List.mem_append.mp ht with ht | ht
        · exact hs ⟨t, ht, hun⟩
        · obtain rfl := List.mem_singleton.mp ht
          exact hG hne hun
      · exact hs ⟨t, ht, hun⟩
  | takeNone w hcall hphase hskip =>
    obtain ⟨t, ht, hun⟩ := hopen
    exact absurd (.inl hun) (hskip t ht)
  | take w | acquire w | acquireNew w | skip w | resume w | yield w | yieldTerm w | finish w
  | release w | retire w | idleEnter w | block w | wake w | idleLeave w | idleExit w =>
    exact ⟨w, by simp [Scheduler.move]⟩
  | _ => exact hs hopen

variable [Fintype W]

omit [DecidableEq O] in
/-- A worker goes to `epoll_wait` or returns from it. -/
lemma Kept.moveIdle (hs : s.Kept) {pc pc' : IdlePc} (hphase : s.sched.phase w = .idle pc)
    (hsched : s'.sched = s.sched.move w (.idle pc')) : s'.Kept := by
  have hpool : s'.sched.pool = s.sched.pool := by
    rw [hsched]
    exact Scheduler.pool_move_of_job_eq (by simp [hphase, Phase.job])
  refine ⟨?_, hpool ▸ hs.conserved, fun _ => ⟨w, by simp [hsched, Scheduler.move]⟩⟩
  rw [hsched]
  exact hs.fibers.move w (.idle pc') rfl rfl (fun h => by cases h)
    fun _ _ => hs.fibers.going w pc hphase

lemma kept_step (hs : s.Kept) (hG : s.Received a) (h : Transition threadId s a s') : s'.Kept := by
  cases h with
  | sched b s' htrans =>
    exact ⟨Scheduler.idleFibers_step htrans hs.fibers,
      (Scheduler.step_pool htrans).conserved hs.conserved, inRun_step hG htrans hs.inRun⟩
  | addTimer th ms cb recurring now =>
    obtain ⟨call, hsched⟩ := s.addTimer_sched th ms cb recurring now
    refine ⟨?_, ?_, ?_⟩ <;> rw [hsched]
    · exact ⟨hs.fibers.ended, hs.fibers.going⟩
    · exact hs.conserved
    · exact hs.inRun
  | block v wake hphase => exact hs.moveIdle hphase rfl
  | poll v hphase => exact hs.moveIdle hphase rfl
  | _ => exact ⟨hs.fibers, hs.conserved, hs.inRun⟩

end TimedScheduler

/-! ## The watchers -/

namespace StoppingManager

variable {W O C α : Type*} {s s' : StoppingManager W O C α} {w : W}

/-- The idle fiber of the worker has not ended and will not without another look at the timers. -/
def WatchesTimers (s : StoppingManager W O C α) (w : W) : Prop :=
  s.timed.sched.idleTerm w = false ∧ ¬ s.timed.NoTimers w

/-- The idle fiber of the worker has not ended and will not without another look at
`m_pendingEventCount`. -/
def WatchesEvents (s : StoppingManager W O C α) (w : W) : Prop :=
  s.timed.sched.idleTerm w = false ∧ ¬ (s.timed.NoTimers w ∧ s.noEvents w)

/-- The condition on the steps: what is added finds a watcher.  For a task that is a worker in
`run()`, which only what comes from outside can miss. -/
def Watched (s : StoppingManager W O C α) : StoppingAction W O C α → Prop
  | .timed (.addTimer ..) => ∃ w, s.WatchesTimers w
  | .timed a => s.timed.Received a
  | .eventAdded _ => ∃ w, s.WatchesEvents w
  | _ => True

variable [DecidableEq W] [DecidableEq O] {threadId : W → ℤ}

lemma stepTimed_eq_some {a : TimedAction W O C α} (h : s.stepTimed threadId a = some s') :
    TimedScheduler.Transition threadId s.timed a s'.timed ∧
      s'.pendingEventCount = s.pendingEventCount ∧
      (∀ w, a = .sched (.idleExit w) → s.noEvents w) ∧
      ∀ w, s'.noEvents w → s.noEvents w ∧ ∀ now, a ≠ .getNextTimer w now := by
  have hmap : ∀ {noEvents : W → Bool},
      (((TimedScheduler.machine threadId).step s.timed a).map fun timed =>
        { s with timed, noEvents }) = some s' →
      TimedScheduler.Transition threadId s.timed a s'.timed ∧
        s'.pendingEventCount = s.pendingEventCount ∧ s'.noEvents = noEvents := by
    intro noEvents h
    obtain ⟨timed, hstep, rfl⟩ := Option.map_eq_some_iff.mp h
    exact ⟨TimedScheduler.transition_of_step hstep, rfl, rfl⟩
  unfold stepTimed at h
  split at h
  next v =>
    split_ifs at h with hnone
    obtain ⟨htrans, hcount, hsame⟩ := hmap h
    refine ⟨htrans, hcount, fun w hw => ?_, fun w hw => ⟨hsame ▸ hw, by simp⟩⟩
    obtain rfl : v = w := by simpa using hw
    exact hnone
  next v now =>
    obtain ⟨htrans, hcount, hsame⟩ := hmap h
    refine ⟨htrans, hcount, fun w hw => (by cases hw), fun w hw => ?_⟩
    rw [hsame] at hw
    by_cases hv : w = v
    · simp [hv] at hw
    · exact ⟨by simpa [hv] using hw, by simp [Ne.symm hv]⟩
  next hexit hnext =>
    obtain ⟨htrans, hcount, hsame⟩ := hmap h
    exact ⟨htrans, hcount, fun w hw => absurd hw (hexit w),
      fun w hw => ⟨hsame ▸ hw, fun now hnow => hnext w now hnow⟩⟩

/-- A step of the manager is one of the scheduler with its timers, or the workers stay where they
are and no timer is added. -/
lemma timed_of_step {a : StoppingAction W O C α} (h : (machine threadId).step s a = some s') :
    (∃ b, a = .timed b ∧ s.stepTimed threadId b = some s') ∨
      (∀ b, a ≠ .timed b) ∧ (s.timed.timers.Dated → s'.timed.timers.Dated) ∧
        (s.timed.timers.timers = [] → s'.timed.timers.timers = []) ∧
        s'.timed = { s.timed with timers := s'.timed.timers } := by
  cases a with
  | timed b => exact .inl ⟨b, rfl, h⟩
  | readEvents | eventAdded | eventRemoved =>
    simp only [machine] at h
    split_ifs at h
    obtain rfl := Option.some.inj h
    exact .inr ⟨by simp, fun h => h, fun h => h, rfl⟩
  | cancel th id =>
    simp only [machine] at h
    split_ifs at h
    obtain rfl := Option.some.inj h
    exact .inr ⟨by simp, fun h => h.cancel id, fun h => TimerManager.timers_cancel h id, rfl⟩
  | refresh th id now =>
    simp only [machine] at h
    split_ifs at h
    obtain rfl := Option.some.inj h
    exact .inr ⟨by simp, fun h => h.refresh id now,
      fun h => TimerManager.timers_refresh h id now, rfl⟩
  | reset th id ms fromNow now =>
    simp only [machine] at h
    split_ifs at h
    obtain rfl := Option.some.inj h
    exact .inr ⟨by simp, fun h => h.reset id ms fromNow now,
      fun h => TimerManager.timers_reset h id ms fromNow now, rfl⟩

/-- A worker stops watching the timers only where it finds none. -/
lemma WatchesTimers.step {a : StoppingAction W O C α} (hw : s.WatchesTimers w)
    (hrange : s.timed.InRange) (h : (machine threadId).step s a = some s') :
    s'.WatchesTimers w ∨ s'.timed.timers.timers = [] := by
  rcases timed_of_step h with ⟨b, rfl, h⟩ | ⟨-, -, -, hsame⟩
  · obtain ⟨htrans, -⟩ := stepTimed_eq_some h
    by_cases hnone : s'.timed.timers.timers = []
    · exact .inr hnone
    · refine .inl ⟨?_, fun hno => ?_⟩
      · by_contra hterm
        rcases TimedScheduler.idleTerm_of_step htrans (by simpa using hterm) with hold | hold
        · simp [hw.1] at hold
        · exact hw.2 hold.2
      · rcases TimedScheduler.noTimers_of_step hrange htrans hno with hold | hold
        · exact hw.2 hold
        · exact hnone hold.1
  · refine .inl ?_
    unfold WatchesTimers TimedScheduler.NoTimers at hw ⊢
    rw [hsame]
    exact hw

/-- What a worker has found in `m_pendingEventCount`. -/
lemma noEvents_of_step {a : StoppingAction W O C α} (ha : ∀ b, a ≠ .timed b)
    (h : (machine threadId).step s a = some s') (hw : s'.noEvents w) :
    s.noEvents w ∨ s'.pendingEventCount = 0 := by
  cases a with
  | timed b => exact absurd rfl (ha b)
  | readEvents v =>
    simp only [machine] at h
    split_ifs at h
    obtain rfl := Option.some.inj h
    by_cases hv : w = v
    · exact .inr (by simpa [hv] using hw)
    · exact .inl (by simpa [hv] using hw)
  | _ =>
    simp only [machine] at h
    split_ifs at h
    obtain rfl := Option.some.inj h
    exact .inl hw

/-- A worker stops watching the events only where it finds none. -/
lemma WatchesEvents.step {a : StoppingAction W O C α} (hw : s.WatchesEvents w)
    (hrange : s.timed.InRange) (h : (machine threadId).step s a = some s') :
    s'.WatchesEvents w ∨ s'.pendingEventCount = 0 := by
  rcases timed_of_step h with ⟨b, rfl, h⟩ | ⟨ha, -, -, hsame⟩
  · obtain ⟨htrans, -, hexit, hevents⟩ := stepTimed_eq_some h
    refine .inl ⟨?_, fun ⟨hno, hnone⟩ => ?_⟩
    · by_contra hterm
      rcases TimedScheduler.idleTerm_of_step htrans (by simpa using hterm) with hold | hold
      · simp [hw.1] at hold
      · exact hw.2 ⟨hold.2, hexit w hold.1⟩
    · obtain ⟨hold, hask⟩ := hevents w hnone
      rcases TimedScheduler.noTimers_of_step hrange htrans hno with hno | ⟨-, now, hnow⟩
      · exact hw.2 ⟨hno, hold⟩
      · exact hask now hnow
  · by_cases hcount : s'.pendingEventCount = 0
    · exact .inr hcount
    · refine .inl ⟨?_, fun ⟨hno, hnone⟩ => hw.2 ⟨?_, ?_⟩⟩
      · rw [hsame]
        exact hw.1
      · rw [hsame] at hno
        exact hno
      · exact (noEvents_of_step ha h hnone).resolve_right hcount

/-! ## Nothing is left -/

/-- What there is has a watcher. -/
structure Manned [Fintype W] (s : StoppingManager W O C α) : Prop where
  range : s.timed.InRange
  kept : s.timed.Kept
  timers : s.timed.timers.timers ≠ [] → ∃ w, s.WatchesTimers w
  events : s.pendingEventCount ≠ 0 → ∃ w, s.WatchesEvents w

/-- What a manager whose workers have all left `run()` should look like: there is no timer and no
event, and every task that is left is pinned to a thread. -/
structure NothingLeft (s : StoppingManager W O C α) : Prop where
  timers : s.timed.timers.timers = []
  events : s.pendingEventCount = 0
  /-- A task that is left is pinned to a thread, and every other one has been run. -/
  tasks : (∀ t ∈ s.timed.sched.tasks, ¬ t.unpinned) ∧
    (s.timed.sched.pushed : Multiset (ScheduleTask ℕ C)) =
      s.timed.sched.tasks + s.timed.sched.finished

variable [Fintype W]

omit [DecidableEq W] [DecidableEq O] in
lemma manned_init {now : ℤ} (hnow : -2 ^ 63 ≤ now) :
    (init now : StoppingManager W O C α).Manned where
  range := TimedScheduler.inRange_init hnow
  kept := TimedScheduler.kept_init now
  timers h := absurd rfl h
  events h := absurd rfl h

/-- Where a step adds a timer, one was there or the condition gives a watcher. -/
lemma Manned.watchesTimers (hs : s.Manned) {a : StoppingAction W O C α} (hG : s.Watched a)
    (h : (machine threadId).step s a = some s') (hsome : s'.timed.timers.timers ≠ []) :
    ∃ w, s.WatchesTimers w := by
  by_cases hnone : s.timed.timers.timers = []
  · rcases timed_of_step h with ⟨b, rfl, h⟩ | ⟨-, -, hkeep, -⟩
    · rcases TimedScheduler.timers_of_step (stepTimed_eq_some h).1 hnone with
        hnone' | ⟨th, ms, cb, recurring, now, rfl⟩
      · exact absurd hnone' hsome
      · exact hG
    · exact absurd (hkeep hnone) hsome
  · exact hs.timers hnone

/-- Where a step adds an event, one was there or the condition gives a watcher. -/
lemma Manned.watchesEvents (hs : s.Manned) {a : StoppingAction W O C α} (hG : s.Watched a)
    (h : (machine threadId).step s a = some s') (hsome : s'.pendingEventCount ≠ 0) :
    ∃ w, s.WatchesEvents w := by
  by_cases hnone : s.pendingEventCount = 0
  · cases a with
    | eventAdded th => exact hG
    | timed b =>
      obtain ⟨-, hcount, -⟩ := stepTimed_eq_some h
      exact absurd (hcount.trans hnone) hsome
    | eventRemoved th =>
      simp only [machine] at h
      split_ifs at h with hpos
      exact absurd hnone hpos.2.ne'
    | _ =>
      simp only [machine] at h
      split_ifs at h
      obtain rfl := Option.some.inj h
      exact absurd hnone hsome
  · exact hs.events hnone

/-- No step takes the last watcher away. -/
theorem manned_step {a : StoppingAction W O C α} (hs : s.Manned) (hG : s.Watched a)
    (h : (machine threadId).step s a = some s') : s'.Manned := by
  have hreceived : ∀ b, a = .timed b → s.timed.Received b := by
    rintro b rfl
    cases b with
    | addTimer => trivial
    | _ => exact hG
  have hrange : s'.timed.InRange ∧ s'.timed.Kept := by
    rcases timed_of_step h with ⟨b, rfl, h⟩ | ⟨-, hdated, -, hsame⟩
    · obtain ⟨htrans, -⟩ := stepTimed_eq_some h
      exact ⟨TimedScheduler.inRange_step hs.range htrans,
        TimedScheduler.kept_step hs.kept (hreceived b rfl) htrans⟩
    · refine ⟨⟨hdated hs.range.dated, ?_⟩, ?_⟩ <;> rw [hsame]
      · exact hs.range.clock
      · exact ⟨hs.kept.fibers, hs.kept.conserved, hs.kept.inRun⟩
  refine ⟨hrange.1, hrange.2, fun hsome => ?_, fun hsome => ?_⟩
  · obtain ⟨w, hw⟩ := hs.watchesTimers hG h hsome
    exact ⟨w, (hw.step hs.range h).resolve_right hsome⟩
  · obtain ⟨w, hw⟩ := hs.watchesEvents hG h hsome
    exact ⟨w, (hw.step hs.range h).resolve_right hsome⟩

omit [DecidableEq W] [DecidableEq O] in
/-- Out of `run()` nobody watches. -/
lemma Manned.nothingLeft (hs : s.Manned) (hall : ∀ w, s.timed.sched.phase w = .exited) :
    s.NothingLeft := by
  have hended : ∀ w, s.timed.sched.idleTerm w ≠ false :=
    fun w h => by simpa [h] using hs.kept.fibers.ended w (hall w)
  refine ⟨?_, ?_, fun t ht hun => ?_, ?_⟩
  · by_contra hsome
    obtain ⟨w, hw⟩ := hs.timers hsome
    exact hended w hw.1
  · by_contra hsome
    obtain ⟨w, hw⟩ := hs.events hsome
    exact hended w hw.1
  · obtain ⟨w, hw⟩ := hs.kept.inRun ⟨t, ht, hun⟩
    exact hw (hall w)
  · have hrun : s.timed.sched.pool.running = 0 := by
      refine Finset.sum_eq_zero fun w _ => ?_
      simp [Scheduler.pool, hall w, Phase.job]
    have hconserved := hs.kept.conserved
    rw [WorkPool.Conserved, hrun, add_zero] at hconserved
    exact hconserved

/-- **Nothing is left behind.**  On a run in which whatever is added finds a watcher, all workers
leave `run()` only when there is no timer, no event that is waited for and no task but those that
are pinned to a thread, and every other task that was pushed has been run once. -/
theorem nothing_left (threadId : W → ℤ) {now : ℤ} (hnow : -2 ^ 63 ≤ now)
    (as : List (StoppingAction W O C α))
    (hG : (machine threadId).Guarded Watched (init now) as) :
    (machine threadId).Throughout
      (fun s => (∀ w, s.timed.sched.phase w = .exited) → s.NothingLeft) (init now) as :=
  Machine.throughout_of_guarded (fun _ _ _ hs hG h => manned_step hs hG h)
    (fun _ hs => hs.nothingLeft) (manned_init hnow) hG

/-- A timer from outside expires at once; the only worker runs its callback and leaves. -/
def leavingRun : List (StoppingAction Unit Unit Unit Unit) :=
  [.timed (.addTimer (.inr ()) 0 (some (.user ())) false 0),
    .timed (.sched (.tickleTest (.inr ()))), .timed (.sched (.scan ())),
    .timed (.sched (.idleEnter ())), .timed (.getNextTimer () 0), .timed (.poll ()),
    .timed (.listExpiredCb () 0 0 1), .timed (.sched (.push (.inl ()) (.ofCb () (-1)))),
    .timed (.sched (.tickleTest (.inl ()))), .timed (.sched (.tickleWrite (.inl ()))),
    .timed (.sched (.idleLeave ())), .timed (.sched (.scan ())), .timed (.sched (.acquire ())),
    .timed (.sched (.resume ())), .timed (.sched (.finish ())), .timed (.sched (.release ())),
    .timed (.sched (.retire ())), .timed (.sched .stop), .timed (.sched (.scan ())),
    .timed (.sched (.idleEnter ())), .timed (.getNextTimer () 0), .readEvents (),
    .timed (.sched (.idleExit ())), .timed (.sched (.scan ()))]

theorem nothing_left_leavingRun :
    ∃ s : StoppingManager Unit Unit Unit Unit,
      (machine fun _ => 1).run (init 0) leavingRun = some s ∧
      (∀ w, s.timed.sched.phase w = .exited) ∧ s.NothingLeft := by
  have hguard : (machine fun _ => 1).Guarded Watched (init 0) leavingRun := by
    refine .cons ⟨(), rfl, fun h => by cases h.1⟩ rfl ?_
    repeat refine .cons trivial rfl ?_
    trivial
  have hleft := nothing_left (fun _ => 1) (by omega) leavingRun hguard
  refine ⟨_, rfl, fun _ => rfl, ?_⟩
  exact hleft.last rfl fun _ => rfl

/-- Of two workers one finds nothing to do and ends its idle fiber, when the other one has taken the
last timer and not yet scheduled its callback.  The first one runs the callback; the second one
looks at the timers, the callback adds a timer, and nobody looks again. -/
def leftRun : List (StoppingAction Bool Unit Unit Unit) :=
  [.timed (.addTimer (.inr ()) 0 (some (.user ())) false 0),
    .timed (.sched (.tickleTest (.inr ()))), .timed (.sched (.scan false)),
    .timed (.sched (.idleEnter false)), .timed (.getNextTimer false 0), .timed (.poll false),
    .timed (.listExpiredCb false 0 0 1), .timed (.sched .stop), .timed (.sched (.scan true)),
    .timed (.sched (.idleEnter true)), .timed (.getNextTimer true 0), .readEvents true,
    .timed (.sched (.idleExit true)), .timed (.sched (.push (.inl false) (.ofCb () (-1)))),
    .timed (.sched (.tickleTest (.inl false))), .timed (.sched (.tickleWrite (.inl false))),
    .timed (.sched (.scan true)), .timed (.sched (.acquire true)),
    .timed (.sched (.resume true)), .timed (.sched (.idleLeave false)),
    .timed (.sched (.scan false)), .timed (.sched (.idleEnter false)),
    .timed (.getNextTimer false 0), .readEvents false,
    .timed (.addTimer (.inl true) 1000 (some (.user ())) false 0),
    .timed (.sched (.tickleTest (.inl true))), .timed (.sched (.tickleWrite (.inl true))),
    .timed (.sched (.finish true)), .timed (.sched (.release true)),
    .timed (.sched (.retire true)), .timed (.sched (.idleExit false)),
    .timed (.sched (.scan true)), .timed (.sched (.scan false))]

/-- A timer that a task adds is left behind. -/
theorem timer_left : ∃ s : StoppingManager Bool Unit Unit Unit,
    (machine fun w => if w then 1 else 2).run (init 0) leftRun = some s ∧
      (∀ w, s.timed.sched.phase w = .exited) ∧ s.timed.timers.timers = [1] := by
  refine ⟨_, rfl, ?_, rfl⟩
  rintro (_ | _) <;> rfl

end StoppingManager

/-! ## A worker alone -/

namespace Scheduler

variable {W O C : Type*} {s s' : Scheduler W O C} {w : W}

/-- A worker whose idle fiber has ended has nothing to do any more. -/
structure Through (s : Scheduler W O C) (w : W) : Prop where
  stopped : s.stopFlag
  tasks : s.tasks = []
  job : (s.phase w).job = none

/-- Such a worker adds nothing. -/
lemma idleTerm_of_mayCall (hs : s.IdleFibers) (hw : s.idleTerm w → s.Through w)
    (hmay : s.mayCall (.inl w)) : s.idleTerm w = false := by
  by_contra hterm
  have hjob := (hw (by simpa using hterm)).job
  simp only [mayCall] at hmay
  split at hmay
  next t f hphase => simp [hphase, Phase.job] at hjob
  next hphase => exact hterm (hs.going w _ hphase)
  next => cases hmay

variable [DecidableEq W] [DecidableEq O] {threadId : W → ℤ} {a : SchedulerAction W O C}

lemma scheduleLock_idleTerm (s : Scheduler W O C) (th : W ⊕ O) (task : ScheduleTask ℕ C) :
    (s.scheduleLock th task).idleTerm = s.idleTerm := by
  unfold scheduleLock
  split_ifs <;> rfl

/-- A worker that is alone finds nothing to do after its idle fiber has ended. -/
lemma through_step [Subsingleton W] (h : Transition threadId s a s') (hs : s.IdleFibers)
    (hout : ∀ th task, a = .push (.inr th) task → s.stopFlag = false)
    (hw : s.idleTerm w → s.Through w) (hterm : s'.idleTerm w) : s'.Through w := by
  cases h with
  | push th task hmay =>
    rw [scheduleLock_idleTerm] at hterm
    cases th with
    | inl v =>
      obtain rfl := Subsingleton.elim w v
      have hgoing := idleTerm_of_mayCall hs hw hmay
      simp [hgoing] at hterm
    | inr th =>
      have hstop := (hw hterm).stopped
      simp [hout th task rfl] at hstop
  | take v skipped t rest hcall hphase htasks =>
    have hnone := (hw hterm).tasks
    simp [htasks] at hnone
  | takeNone v hcall hphase =>
    obtain rfl := Subsingleton.elim w v
    refine ⟨(hw hterm).stopped, (hw hterm).tasks, ?_⟩
    simp only [takeNone, move, Function.update_self]
    split_ifs <;> rfl
  | acquire v t f hphase | acquireNew v t hphase | skip v t f hphase | resume v t f hphase
  | yield v t f hphase | yieldTerm v t f hphase | finish v t f hphase | release v t f hphase
  | retire v t hphase =>
    obtain rfl := Subsingleton.elim w v
    have hjob := (hw hterm).job
    simp [hphase, Phase.job] at hjob
  | idleEnter v hphase | block v hphase | wake v hphase | idleLeave v hphase =>
    obtain rfl := Subsingleton.elim w v
    have hgoing := hs.going w _ hphase
    simp [move, hgoing] at hterm
  | idleExit v hphase hstop =>
    obtain rfl := Subsingleton.elim w v
    simp only [stopping, Bool.and_eq_true, List.isEmpty_iff] at hstop
    exact ⟨hstop.1.1, hstop.1.2, by simp [move, Phase.job]⟩
  | stop => exact ⟨rfl, (hw hterm).tasks, (hw hterm).job⟩
  | _ => exact ⟨(hw hterm).stopped, (hw hterm).tasks, (hw hterm).job⟩

end Scheduler

lemma TimedScheduler.through_step {W O C α : Type*} [DecidableEq W] [DecidableEq O] [Subsingleton W]
    {threadId : W → ℤ} {s s' : TimedScheduler W O C α} {a : TimedAction W O C α} {w : W}
    (h : Transition threadId s a s') (hs : s.sched.IdleFibers)
    (hout : ∀ th task, a = .sched (.push (.inr th) task) → s.sched.stopFlag = false)
    (hw : s.sched.idleTerm w → s.sched.Through w) (hterm : s'.sched.idleTerm w) :
    s'.sched.Through w := by
  cases h with
  | sched b s' htrans =>
    exact Scheduler.through_step htrans hs (fun th task hb => hout th task (congrArg _ hb)) hw hterm
  | addTimer th ms cb recurring now =>
    obtain ⟨call, hsched⟩ := s.addTimer_sched th ms cb recurring now
    rw [hsched] at hterm ⊢
    exact ⟨(hw hterm).stopped, (hw hterm).tasks, (hw hterm).job⟩
  | block v wake hphase | poll v hphase =>
    obtain rfl := Subsingleton.elim w v
    have hgoing := hs.going w _ hphase
    simp [TimedScheduler.block, Scheduler.move, hgoing] at hterm
  | _ => exact hw hterm

namespace StoppingManager

variable {W O C α : Type*} {s s' : StoppingManager W O C α} {w : W}

/-- The condition on what comes from outside: a task comes before the manager stops, and a timer and
an event find a watcher. -/
def WatchedOutside (s : StoppingManager W O C α) : StoppingAction W O C α → Prop
  | .timed (.addTimer (.inr _) ..) => ∃ w, s.WatchesTimers w
  | .timed (.sched (.push (.inr _) _)) => s.timed.sched.stopFlag = false
  | .eventAdded (.inr _) => ∃ w, s.WatchesEvents w
  | _ => True

/-- A worker that can add something and whose idle fiber has not ended watches. -/
lemma watches_of_mayCall (hterm : s.timed.sched.idleTerm w = false)
    (hmay : s.timed.sched.mayCall (.inl w)) : s.WatchesTimers w ∧ s.WatchesEvents w := by
  have hno : ¬ s.timed.NoTimers w := fun h => by simp [Scheduler.mayCall, h.1] at hmay
  exact ⟨⟨hterm, hno⟩, hterm, fun h => hno h.1⟩

/-- The worker is alone, and has nothing to do after its idle fiber has ended. -/
structure MannedAlone [Unique W] (s : StoppingManager W O C α) : Prop where
  manned : s.Manned
  through : ∀ w, s.timed.sched.idleTerm w → s.timed.sched.Through w

variable [DecidableEq W] [DecidableEq O] {threadId : W → ℤ} [Unique W]

/-- What a worker that is alone adds finds a watcher: the worker itself. -/
lemma MannedAlone.watched {a : StoppingAction W O C α} (hs : s.MannedAlone)
    (hG : s.WatchedOutside a) (h : (machine threadId).step s a = some s') : s.Watched a := by
  have hself : ∀ w, s.timed.sched.mayCall (.inl w) → s.WatchesTimers w ∧ s.WatchesEvents w :=
    fun w hmay => watches_of_mayCall
      (Scheduler.idleTerm_of_mayCall hs.manned.kept.fibers (hs.through w) hmay) hmay
  cases a with
  | timed b =>
    obtain ⟨htrans, -⟩ := stepTimed_eq_some h
    generalize s'.timed = timed at htrans
    cases htrans with
    | addTimer th ms cb recurring now hmay =>
      cases th with
      | inl w => exact ⟨w, (hself w hmay).1⟩
      | inr th => exact hG
    | sched b =>
      cases b with
      | push th task =>
        cases th with
        | inl w => trivial
        | inr th =>
          refine fun _ _ => ⟨default, fun hexited => ?_⟩
          have hstop := (hs.through default (hs.manned.kept.fibers.ended _ hexited)).stopped
          have hgoing : s.timed.sched.stopFlag = false := hG
          simp [hgoing] at hstop
      | _ => trivial
    | _ => trivial
  | eventAdded th =>
    cases th with
    | inl w =>
      simp only [machine] at h
      split_ifs at h with hfree
      exact ⟨w, (hself w hfree.2.1).2⟩
    | inr th => exact hG
  | _ => trivial

theorem mannedAlone_step {a : StoppingAction W O C α} (hs : s.MannedAlone)
    (hG : s.WatchedOutside a) (h : (machine threadId).step s a = some s') : s'.MannedAlone := by
  refine ⟨manned_step hs.manned (hs.watched hG h) h, fun w hterm => ?_⟩
  rcases timed_of_step h with ⟨b, rfl, h⟩ | ⟨-, -, -, hsame⟩
  · obtain ⟨htrans, -⟩ := stepTimed_eq_some h
    refine TimedScheduler.through_step htrans hs.manned.kept.fibers ?_ (hs.through w) hterm
    rintro th task rfl
    exact hG
  · rw [hsame] at hterm ⊢
    exact hs.through w hterm

/-- **A worker alone.**  A manager with one worker loses nothing that its tasks add: on a run on
which tasks come from outside only before it stops, and timers and events from outside find a
watcher, nothing is left when the worker leaves `run()` but tasks that are pinned to a thread. -/
theorem nothing_left_alone (threadId : W → ℤ) {now : ℤ} (hnow : -2 ^ 63 ≤ now)
    (as : List (StoppingAction W O C α))
    (hG : (machine threadId).Guarded WatchedOutside (init now) as) :
    (machine threadId).Throughout
      (fun s => (∀ w, s.timed.sched.phase w = .exited) → s.NothingLeft) (init now) as :=
  Machine.throughout_of_guarded (fun _ _ _ hs hG h => mannedAlone_step hs hG h)
    (fun _ hs => hs.manned.nothingLeft) ⟨manned_init hnow, fun _ h => by cases h⟩ hG

/-- The callback of the timer adds another one, which expires at once when the manager stops. -/
def addingRun : List (StoppingAction Unit Unit Unit Unit) :=
  leavingRun.take 14 ++
    [.timed (.addTimer (.inl ()) 0 (some (.user ())) false 0),
      .timed (.sched (.tickleTest (.inl ()))), .timed (.sched (.finish ())),
      .timed (.sched (.release ())), .timed (.sched (.retire ())), .timed (.sched .stop),
      .timed (.sched (.scan ())), .timed (.sched (.idleEnter ())), .timed (.getNextTimer () 0),
      .timed (.poll ()), .timed (.listExpiredCb () 0 0 1), .timed (.sched (.idleLeave ())),
      .timed (.sched (.scan ())), .timed (.sched (.idleEnter ())), .timed (.getNextTimer () 0),
      .readEvents (), .timed (.sched (.idleExit ())), .timed (.sched (.scan ()))]

theorem nothing_left_addingRun : ∃ s : StoppingManager Unit Unit Unit Unit,
    (machine fun _ => 1).run (init 0) addingRun = some s ∧
      (∀ w, s.timed.sched.phase w = .exited) ∧ s.NothingLeft := by
  have hguard : (machine fun _ => 1).Guarded WatchedOutside (init 0) addingRun := by
    refine .cons ⟨(), rfl, fun h => by cases h.1⟩ rfl ?_
    repeat refine .cons trivial rfl ?_
    trivial
  refine ⟨_, rfl, fun _ => rfl, ?_⟩
  exact (nothing_left_alone (fun _ => 1) (by omega) addingRun hguard).last rfl fun _ => rfl

end StoppingManager

end CoroutineGateway
