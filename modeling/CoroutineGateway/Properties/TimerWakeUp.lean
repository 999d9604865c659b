import CoroutineGateway.Construction.TimedScheduler
import CoroutineGateway.Properties.ExactlyOnce
import CoroutineGateway.Properties.TimerIdentity
import CoroutineGateway.Properties.WakeUp

/-!
# Lost timer wake-ups

`addTimer` calls `tickle()` only for a timer that becomes the first one, and only when `m_tickled`
is not set: one notification is to be enough until a worker calls `getNextTimer` again.  The worker
that gets the notification may find a task in the queue first, and then nobody has called
`getNextTimer`, and `m_tickled` stays set.

A deadline is *served* when somebody will ask for the next timer, or already waits for no longer
than until that deadline: a worker that will call `getNextTimer` before it blocks, a byte in the
pipe, a `tickle()` call in progress, a worker whose wake time is early enough, or no worker that is
blocked or about to block.  No wake-up is lost as long as two kinds of step leave all deadlines
served: the scan that takes a task, and the insertion of a first timer while `m_tickled` is set.
-/

namespace CoroutineGateway

/-! ## The timers -/

namespace TimerManager

variable {α : Type*} {m : TimerManager α} {now now' : ℤ} {ms : ℕ} {cb : Option (Callback α)}
  {recurring : Bool}

/-- A worker that blocks for the timeout it was given is awake at every deadline. -/
lemma Ordered.limit_le (hm : m.Ordered) (hwait : 0 < (Timeout.mk now (m.getNextTimer now).2).wait)
    {id : TimerId} (hid : id ∈ m.timers) :
    (Timeout.mk now (m.getNextTimer now).2).limit ≤ m.next id := by
  cases htimers : m.timers with
  | nil => simp [htimers] at hid
  | cons e rest =>
    have hle : m.next e ≤ m.next id := by
      have hasc := hm.ascending
      rw [htimers] at hasc hid
      rcases List.mem_cons.mp hid with rfl | hid
      · exact le_rfl
      · exact ((List.pairwise_cons.mp hasc).1 id hid).le
    have hms : (m.getNextTimer now).2 =
        if now ≥ m.next e then 0 else ((m.next e - now) / 1000000).toNat := by
      unfold TimerManager.getNextTimer
      simp only [htimers]
      rfl
    rw [hms] at hwait ⊢
    refine le_trans ?_ hle
    by_cases hnow : now ≥ m.next e
    · simp [hnow, Timeout.wait] at hwait
    · simp only [hnow, if_false, Timeout.limit, Timeout.wait]
      omega

lemma next_addTimer (m : TimerManager α) (id : TimerId) :
    (m.addTimer ms cb recurring now).1.next id =
      if id = m.created then addMs now ms else m.next id := by
  by_cases hid : id = m.created
  · simp [addTimer, TimerManager.next, hid, set]
  · simp [addTimer, TimerManager.next, hid, set]

lemma mem_timers_addTimer {id : TimerId} (hid : id ∈ (m.addTimer ms cb recurring now).1.timers) :
    id = m.created ∨ id ∈ m.timers :=
  OrderedSet.mem_of_mem_insert hid

/-- A timer that is due before all others goes to the front, and is notified of unless `m_tickled`
is set. -/
lemma Ordered.addTimer_front (hm : m.Ordered) (cb : Option (Callback α)) (recurring : Bool)
    (hfront : ∀ id ∈ m.timers, addMs now ms < m.next id) :
    m.created ∈ (m.addTimer ms cb recurring now).1.timers ∧
      (m.addTimer ms cb recurring now).2 = !m.tickled := by
  let m' : TimerManager α :=
    { m.set m.created { recurring, ms, next := addMs now ms, cb } with created := m.created + 1 }
  have hself : m'.next m.created = addMs now ms := by simp [m', TimerManager.next]
  have hother : ∀ id ∈ m.timers, m'.next id = m.next id := by
    intro id hid
    have hne : id ≠ m.created := fun heq => hm.notMem_created (heq ▸ hid)
    simp [m', TimerManager.next, hne]
  have hinsert : OrderedSet.insert m'.next m.created m.timers =
      (m.created :: m.timers, m.created) := by
    cases htimers : m.timers with
    | nil => rfl
    | cons e rest =>
      have he : e ∈ m.timers := htimers ▸ List.mem_cons_self
      have hlt : m'.next m.created < m'.next e := by
        rw [hself, hother e he]
        exact hfront e he
      rw [OrderedSet.insert, if_neg hlt.not_gt, if_pos hlt]
  have hadd : m.addTimer ms cb recurring now = m'.addTimerPtr m.created := rfl
  rw [hadd, addTimerPtr]
  change m.created ∈ (OrderedSet.insert m'.next m.created m.timers).1 ∧
    (decide ((OrderedSet.insert m'.next m.created m.timers).1.head? =
      some (OrderedSet.insert m'.next m.created m.timers).2) && !m.tickled) = !m.tickled
  rw [hinsert]
  simp

end TimerManager

/-! ## Serving a deadline -/

namespace TimedScheduler

variable {W O C α : Type*} {s s' : TimedScheduler W O C α} {P Q : W → Prop} {d d' : ℤ}

/-- Until when the worker is blocked, or will be at the latest if it blocks next. -/
def limit (s : TimedScheduler W O C α) (w : W) : Option ℤ :=
  match s.sched.phase w with
  | .idle .blocked => some (s.wakeTime w)
  | .idle .entered => (s.timeout w).bind fun t => if t.wait = 0 then none else some t.limit
  | _ => none

/-- The worker will call `getNextTimer` before it blocks, unless it finds a task. -/
def Alert (s : TimedScheduler W O C α) (w : W) : Prop :=
  match s.sched.phase w with
  | .scan | .idle .before | .idle .woken => True
  | .idle .entered => s.limit w = none
  | _ => False

/-- Every worker executes a task or is blocked, at least one is blocked, nothing is under way that
would wake one up, and a timer is due before any of them wakes up. -/
structure LostTimerWakeUp (s : TimedScheduler W O C α) : Prop where
  busy : ∀ w, s.sched.Settled w
  blocked : ∃ w, s.sched.phase w = .idle .blocked
  pipe : s.sched.pipe = 0
  call : ∀ th, s.sched.call th = none
  deadline : ∃ id ∈ s.timers.timers, ∀ w, s.sched.phase w = .idle .blocked →
    s.timers.next id < s.wakeTime w

/-- Somebody will ask for the next timer or be awake at the deadline, where of the workers that will
ask only those in `P` count. -/
def ServedBy (s : TimedScheduler W O C α) (P : W → Prop) (d : ℤ) : Prop :=
  (∃ w, P w ∧ s.Alert w) ∨ 0 < s.sched.pipe ∨ (∃ th, s.sched.call th ≠ none) ∨
    (∀ w, s.limit w = none) ∨ (∃ w, s.sched.phase w = .exited) ∨ ∃ w, ∃ l ∈ s.limit w, l ≤ d

/-- Every deadline is served. -/
def Served (s : TimedScheduler W O C α) : Prop :=
  ∀ id ∈ s.timers.timers, s.ServedBy (fun _ => True) (s.timers.next id)

/-- A worker that executes a task or is blocked serves a deadline only by its wake time. -/
lemma settled_spec {w : W} (h : s.sched.Settled w) : ¬ s.Alert w ∧ s.sched.phase w ≠ .exited ∧
    ∀ l ∈ s.limit w, s.sched.phase w = .idle .blocked ∧ l = s.wakeTime w := by
  rcases h with ⟨t, ht⟩ | hblocked
  · cases hphase : s.sched.phase w with
    | exec u pc => simp [Alert, limit, hphase]
    | _ => simp [hphase, Phase.job] at ht
  · simp [Alert, limit, hblocked]

/-- A lost wake-up is a deadline that is not served. -/
lemma LostTimerWakeUp.not_served (h : s.LostTimerWakeUp) : ¬ s.Served := by
  obtain ⟨hbusy, ⟨v, hv⟩, hpipe, hcall, id, hid, hdeadline⟩ := h
  intro hserved
  rcases hserved id hid with ⟨w, -, hw⟩ | h | ⟨th, hth⟩ | h | ⟨w, hw⟩ | ⟨w, l, hl, hle⟩
  · exact (settled_spec (hbusy w)).1 hw
  · exact absurd hpipe h.ne'
  · exact hth (hcall th)
  · have hnone := h v
    simp [limit, hv] at hnone
  · exact (settled_spec (hbusy w)).2.1 hw
  · obtain ⟨hblocked, rfl⟩ := (settled_spec (hbusy w)).2.2 l hl
    exact absurd (hdeadline w hblocked) (not_lt.mpr hle)

/-! ## What keeps a deadline served -/

lemma servedBy_of_alert (w : W) (h : s.Alert w) : s.ServedBy (fun _ => True) d :=
  .inl ⟨w, trivial, h⟩

lemma servedBy_of_call (th : W ⊕ O) (h : s.sched.call th ≠ none) : s.ServedBy P d :=
  .inr (.inr (.inl ⟨th, h⟩))

lemma servedBy_of_limits (h : ∀ w, s.limit w = none) : s.ServedBy P d :=
  .inr (.inr (.inr (.inl h)))

lemma servedBy_of_exited (w : W) (h : s.sched.phase w = .exited) : s.ServedBy P d :=
  .inr (.inr (.inr (.inr (.inl ⟨w, h⟩))))

lemma servedBy_of_limit {w : W} {l : ℤ} (hl : l ∈ s.limit w) (hle : l ≤ d) : s.ServedBy P d :=
  .inr (.inr (.inr (.inr (.inr ⟨w, l, hl, hle⟩))))

lemma ServedBy.mono (h : s.ServedBy P d) (hd : d ≤ d') : s.ServedBy P d' := by
  rcases h with h | h | ⟨th, hth⟩ | h | ⟨w, hw⟩ | ⟨w, l, hl, hle⟩
  · exact .inl h
  · exact .inr (.inl h)
  · exact servedBy_of_call th hth
  · exact servedBy_of_limits h
  · exact servedBy_of_exited w hw
  · exact servedBy_of_limit hl (hle.trans hd)

/-- Nobody who serves the deadline is lost, and nobody waits for longer. -/
lemma ServedBy.frame (h : s.ServedBy P d) (halert : ∀ w, P w → s.Alert w → Q w ∧ s'.Alert w)
    (hpipe : s.sched.pipe ≤ s'.sched.pipe)
    (hcall : ∀ th, s.sched.call th ≠ none → s'.sched.call th ≠ none)
    (hnone : ∀ w, s.limit w = none → s'.limit w = none)
    (hexited : ∀ w, s.sched.phase w = .exited → s'.sched.phase w = .exited)
    (hlimit : ∀ w, ∀ l ∈ s.limit w, ∃ l' ∈ s'.limit w, l' ≤ l) : s'.ServedBy Q d := by
  rcases h with ⟨w, hP, hw⟩ | h | ⟨th, hth⟩ | h | ⟨w, hw⟩ | ⟨w, l, hl, hle⟩
  · exact .inl ⟨w, halert w hP hw⟩
  · exact .inr (.inl (h.trans_le hpipe))
  · exact servedBy_of_call th (hcall th hth)
  · exact servedBy_of_limits fun w => hnone w (h w)
  · exact servedBy_of_exited w (hexited w hw)
  · obtain ⟨l', hl', hle'⟩ := hlimit w l hl
    exact servedBy_of_limit hl' (hle'.trans hle)

lemma limit_congr {w : W} (hphase : s'.sched.phase w = s.sched.phase w)
    (htimeout : s'.timeout w = s.timeout w) (hwake : s'.wakeTime w = s.wakeTime w) :
    s'.limit w = s.limit w := by
  unfold limit
  rw [hphase, htimeout, hwake]

lemma alert_congr {w : W} (hphase : s'.sched.phase w = s.sched.phase w)
    (htimeout : s'.timeout w = s.timeout w) (hwake : s'.wakeTime w = s.wakeTime w) :
    s'.Alert w ↔ s.Alert w := by
  unfold Alert
  rw [hphase, limit_congr hphase htimeout hwake]

/-- The workers stay where they are. -/
lemma ServedBy.congr (h : s.ServedBy P d) (hphase : s'.sched.phase = s.sched.phase)
    (htimeout : s'.timeout = s.timeout) (hwake : s'.wakeTime = s.wakeTime)
    (hpipe : s.sched.pipe ≤ s'.sched.pipe)
    (hcall : ∀ th, s.sched.call th ≠ none → s'.sched.call th ≠ none) : s'.ServedBy P d := by
  have hlimit : ∀ w, s'.limit w = s.limit w := fun w =>
    limit_congr (congrFun hphase w) (congrFun htimeout w) (congrFun hwake w)
  refine h.frame (fun w hP hw => ⟨hP, ?_⟩) hpipe hcall (fun w hw => (hlimit w).trans hw)
    (fun w hw => (congrFun hphase w).trans hw) fun w l hl => ⟨l, (hlimit w).symm ▸ hl, le_rfl⟩
  exact (alert_congr (congrFun hphase w) (congrFun htimeout w) (congrFun hwake w)).mpr hw

variable [DecidableEq W]

omit [DecidableEq W] in
/-- One worker moves on, which neither waited nor will, and does not count among those that will ask
for the next timer. -/
lemma ServedBy.move (h : s.ServedBy P d) (w : W)
    (hphase : ∀ v ≠ w, s'.sched.phase v = s.sched.phase v) (hself : ¬ (P w ∧ s.Alert w))
    (hold : s.limit w = none) (hnew : s'.limit w = none) (hexit : s.sched.phase w ≠ .exited)
    (htimeout : s'.timeout = s.timeout) (hwake : s'.wakeTime = s.wakeTime)
    (hpipe : s'.sched.pipe = s.sched.pipe)
    (hcall : ∀ th, s.sched.call th ≠ none → s'.sched.call th ≠ none) : s'.ServedBy P d := by
  refine h.frame (fun v hP hv => ⟨hP, ?_⟩) hpipe.ge hcall (fun v hv => ?_) (fun v hv => ?_)
    fun v l hl => ?_
  · have hne : v ≠ w := fun heq => hself (heq ▸ ⟨hP, hv⟩)
    exact (alert_congr (hphase v hne) (congrFun htimeout v) (congrFun hwake v)).mpr hv
  · by_cases hne : v = w
    · exact hne ▸ hnew
    · exact (limit_congr (hphase v hne) (congrFun htimeout v) (congrFun hwake v)).trans hv
  · have hne : v ≠ w := fun heq => hexit (heq ▸ hv)
    exact (hphase v hne).trans hv
  · have hne : v ≠ w := by
      rintro rfl
      rw [hold] at hl
      cases hl
    have hsame := limit_congr (hphase v hne) (congrFun htimeout v) (congrFun hwake v)
    exact ⟨l, hsame.symm ▸ hl, le_rfl⟩

/-- A worker that executes a task goes on with it. -/
lemma ServedBy.moveExec (h : s.ServedBy P d) {w : W} {t t' : ScheduleTask ℕ C} {pc pc' : ExecPc}
    (hold : s.sched.phase w = .exec t pc)
    (hphase : s'.sched.phase = Function.update s.sched.phase w (.exec t' pc'))
    (htimeout : s'.timeout = s.timeout) (hwake : s'.wakeTime = s.wakeTime)
    (hpipe : s'.sched.pipe = s.sched.pipe) (hcall : s'.sched.call = s.sched.call) :
    s'.ServedBy P d := by
  refine h.move w (fun v hv => by rw [hphase, Function.update_of_ne hv]) ?_ ?_ ?_ ?_ htimeout hwake
    hpipe fun th => by rw [hcall]; exact id
  · simp [Alert, hold]
  · simp [limit, hold]
  · simp [limit, hphase]
  · simp [hold]

/-! ## Steps of the scheduler -/

variable [DecidableEq O] {threadId : W → ℤ} {a : SchedulerAction W O C}

/-- What a step of the scheduler leaves alone. -/
lemma stepSched_eq_some (h : s.stepSched threadId a = some s') :
    Scheduler.Transition threadId s.sched a s'.sched ∧ s.sched.aborted = false ∧
      (∀ w, a ≠ .block w) ∧ s'.timers = s.timers ∧ s'.wakeTime = s.wakeTime ∧
      s'.timeout = match a with
        | .idleEnter w => Function.update s.timeout w none
        | _ => s.timeout := by
  have hlift : ∀ {a : SchedulerAction W O C} {r}, s.lift threadId a = some r →
      Scheduler.Transition threadId s.sched a r.sched ∧ s.sched.aborted = false ∧
        r.timers = s.timers ∧ r.wakeTime = s.wakeTime ∧ r.timeout = s.timeout := by
    intro a r hr
    obtain ⟨sched, hstep, rfl⟩ := Option.map_eq_some_iff.mp hr
    obtain ⟨hgoing, htrans⟩ := Scheduler.transition_of_step hstep
    exact ⟨htrans, hgoing, rfl, rfl, rfl⟩
  cases a with
  | block w => cases h
  | idleEnter w =>
    obtain ⟨r, hr, rfl⟩ := Option.map_eq_some_iff.mp h
    obtain ⟨htrans, hgoing, htimers, hwake, htimeout⟩ := hlift hr
    exact ⟨htrans, hgoing, by simp, htimers, hwake, congrArg (Function.update · w none) htimeout⟩
  | idleExit w =>
    simp only [stepSched] at h
    split_ifs at h
    obtain ⟨htrans, hgoing, htimers, hwake, htimeout⟩ := hlift h
    exact ⟨htrans, hgoing, by simp, htimers, hwake, htimeout⟩
  | _ =>
    obtain ⟨htrans, hgoing, htimers, hwake, htimeout⟩ := hlift h
    exact ⟨htrans, hgoing, by simp, htimers, hwake, htimeout⟩

/-- The condition on the steps: a scan that takes the only task, and the insertion of a first timer
while `m_tickled` is set, leave every deadline served. -/
def Relayed (threadId : W → ℤ) (s : TimedScheduler W O C α) : TimedAction W O C α → Prop
  | .sched (.scan w) => (∃ t ∈ s.sched.tasks, t.eligible (threadId w)) →
    ∀ id ∈ s.timers.timers, 2 ≤ s.sched.tasks.length ∨ s.ServedBy (· ≠ w) (s.timers.next id)
  | .addTimer _ ms _ _ now => s.timers.tickled = true →
    (∀ id ∈ s.timers.timers, addMs now ms < s.timers.next id) →
      s.ServedBy (fun _ => True) (addMs now ms)
  | _ => True

/-- What holds as long as the condition is met. -/
structure Invariant [Fintype W] (s : TimedScheduler W O C α) : Prop where
  census : s.sched.Census
  nonempty : ∀ t ∈ s.sched.tasks, t.nonempty
  ordered : s.timers.Ordered
  served : s.Served

variable [Fintype W]

omit [DecidableEq W] [DecidableEq O] in
/-- Where no worker is in `idle()`, none waits. -/
lemma limit_eq_none_of_idle (hs : s.sched.Census) (hidle : s.sched.idleThreadCount ≤ 0) (w : W) :
    s.limit w = none := by
  have hzero : (s.sched.phase w).idling = 0 := by
    have hsum : ∑ v, (s.sched.phase v).idling ≤ 0 := hs.idling ▸ hidle
    have hle := Finset.single_le_sum (f := fun v => (s.sched.phase v).idling)
      (fun v _ => (s.sched.phase v).idling_nonneg) (Finset.mem_univ w)
    exact le_antisymm (hle.trans hsum) ((s.sched.phase w).idling_nonneg)
  cases hphase : s.sched.phase w with
  | idle pc => cases pc <;> simp_all [Phase.idling, limit]
  | _ => simp [limit, hphase]

/-- A step of the scheduler that meets the condition keeps every deadline served. -/
lemma Invariant.served_sched (hs : s.Invariant) (hG : s.Relayed threadId (.sched a))
    (h : s.stepSched threadId a = some s') : s'.Served := by
  obtain ⟨htrans, -, hblock, htimers, hwake, htimeout⟩ := stepSched_eq_some h
  intro id hid
  rw [htimers] at hid ⊢
  have hold := hs.served id hid
  generalize hsched : s'.sched = sched at htrans
  have hphases := congrArg Scheduler.phase hsched
  have hpipe := congrArg Scheduler.pipe hsched
  have hcalls := congrArg Scheduler.call hsched
  cases htrans with
  | spawn | stop | takeEmpty | resumeAbort | yieldAbort =>
    exact hold.congr hphases htimeout hwake hpipe.ge fun th hth => by rw [hcalls]; exact hth
  | push th task hmay hcall =>
    refine hold.congr (by rw [hsched, Scheduler.scheduleLock_phase]) htimeout hwake
      (by rw [hsched, Scheduler.scheduleLock_pipe]) fun th' hth' => ?_
    have hne : th' ≠ th := fun heq => hth' (heq ▸ hcall)
    rwa [hsched, Scheduler.scheduleLock_call, Function.update_of_ne hne]
  | tickle th | testIdle th =>
    exact servedBy_of_call th (by simp [hsched, Scheduler.setCall])
  | testBusy th hcall hidle =>
    -- Nobody is in `idle()`, so nobody waits.
    refine servedBy_of_limits fun w => ?_
    have hphase : s'.sched.phase w = s.sched.phase w := by
      rw [hsched]
      rfl
    exact (limit_congr hphase (congrFun htimeout w) (congrFun hwake w)).trans
      (limit_eq_none_of_idle hs.census hidle w)
  | tickleWrite th => exact .inr (.inl (by simp [hsched]))
  | take w skipped t rest hcall hphase htasks hskip helig =>
    have hmem : t ∈ s.sched.tasks := by simp [htasks]
    have hnew : s'.sched.phase = Function.update s.sched.phase w (.exec t .taken) := hphases
    rcases hG ⟨t, hmem, helig⟩ id hid with hlen | hserved
    · -- What is left in the queue makes the worker call `tickle()`.
      have hleft : (skipped.isEmpty && rest.isEmpty) = false := by
        rw [htasks] at hlen
        cases skipped <;> cases rest <;> simp at hlen ⊢
      exact servedBy_of_call (.inl w) (by simp [hsched, hleft])
    · have hmove : s'.ServedBy (· ≠ w) (s.timers.next id) := by
        refine hserved.move w (fun v hv => by rw [hnew, Function.update_of_ne hv])
          (fun h => h.1 rfl) ?_ ?_ ?_ htimeout hwake hpipe fun th hth => ?_
        · simp [limit, hphase]
        · simp [limit, hnew]
        · simp [hphase]
        · have hne : th ≠ .inl w := fun heq => hth (heq ▸ hcall)
          simpa [hsched, hne] using hth
      exact hmove.imp_left (Exists.imp fun v hv => ⟨trivial, hv.2⟩)
  | takeNone w hcall hphase =>
    have hnew : s'.sched.phase w = if s.sched.idleTerm w then .exited else .idle .before := by
      simp [hsched, Scheduler.takeNone, Scheduler.move, Scheduler.setCall]
    by_cases hterm : s.sched.idleTerm w
    · exact servedBy_of_exited w (by rw [hnew, if_pos hterm])
    · exact servedBy_of_alert w (by simp [Alert, hnew, hterm])
  | acquire w t f hphase | acquireNew w t hphase | skip w t f hphase | resume w t f hphase
  | yield w t f hphase | yieldTerm w t f hphase | finish w t f hphase | release w t f hphase =>
    exact hold.moveExec hphase hphases htimeout hwake hpipe hcalls
  | retire w | wake w | idleLeave w | idleExit w =>
    exact servedBy_of_alert w (by simp [Alert, hsched, Scheduler.move])
  | idleEnter w =>
    refine servedBy_of_alert w ?_
    simp [Alert, limit, hsched, Scheduler.move, htimeout]
  | block w => exact absurd rfl (hblock w)
  | drain w hphase => exact servedBy_of_alert w (by simp [Alert, hsched, hphase])

omit [Fintype W] [DecidableEq W] [DecidableEq O] in
lemma phase_of_idlePc {w : W} {pc : IdlePc} (hphase : (s.sched.phase w).idlePc = some pc) :
    s.sched.phase w = .idle pc := by
  cases h : s.sched.phase w <;> simp_all [Phase.idlePc]

/-- A new timer keeps every deadline served, if the condition is met. -/
lemma Invariant.served_addTimer (hs : s.Invariant) {th : W ⊕ O} {ms : ℕ}
    {cb : Option (Callback α)} {recurring : Bool} {now : ℤ}
    (hG : s.Relayed threadId (.addTimer th ms cb recurring now)) :
    (s.addTimer th ms cb recurring now).Served := by
  intro id hid
  cases hcall : (s.timers.addTimer ms cb recurring now).2 with
  | true => exact servedBy_of_call th (by simp [addTimer, hcall, Scheduler.setCall])
  | false =>
    have hsched : (s.addTimer th ms cb recurring now).sched = s.sched := by
      simp [addTimer, hcall]
    have hframe : ∀ d, s.ServedBy (fun _ => True) d →
        (s.addTimer th ms cb recurring now).ServedBy (fun _ => True) d := fun d h =>
      h.congr (congrArg Scheduler.phase hsched) rfl rfl (congrArg Scheduler.pipe hsched).ge
        fun th' hth' => by rw [hsched]; exact hth'
    refine hframe _ ?_
    change s.ServedBy _ ((s.timers.addTimer ms cb recurring now).1.next id)
    rw [TimerManager.next_addTimer]
    by_cases hnew : id = s.timers.created
    · rw [if_pos hnew]
      by_cases hfront : ∀ e ∈ s.timers.timers, addMs now ms < s.timers.next e
      · -- The first timer, and no notification: `m_tickled` is set.
        refine hG ?_ hfront
        simpa [hcall] using (hs.ordered.addTimer_front cb recurring hfront).2
      · push Not at hfront
        obtain ⟨e, he, hle⟩ := hfront
        exact (hs.served e he).mono hle
    · rw [if_neg hnew]
      exact hs.served id ((TimerManager.mem_timers_addTimer hid).resolve_left hnew)

omit [Fintype W] in
/-- A task in the queue was pushed, and only tasks that are not empty are. -/
lemma nonempty_step {sched sched' : Scheduler W O C}
    (h : Scheduler.Transition threadId sched a sched') (hs : ∀ t ∈ sched.tasks, t.nonempty) :
    ∀ t ∈ sched'.tasks, t.nonempty := by
  cases h with
  | push th task =>
    intro t ht
    rw [Scheduler.scheduleLock_tasks] at ht
    split_ifs at ht with hne
    · rcases List.mem_append.mp ht with ht | ht
      · exact hs t ht
      · exact List.mem_singleton.mp ht ▸ hne
    · exact hs t ht
  | take w skipped t rest hcall hphase htasks =>
    intro u hu
    refine hs u ?_
    rw [htasks]
    exact (List.mem_append.mp hu).elim (List.mem_append_left _)
      fun h => List.mem_append_right _ (List.mem_cons_of_mem _ h)
  | _ => exact hs

omit [DecidableEq O] in
/-- A worker asks for the next timer: it will not wait for longer than until the first deadline. -/
lemma Invariant.getNextTimer (hs : s.Invariant) {w : W} {now : ℤ} (hidle : s.AtIdle w .entered) :
    ({ s with
      timers := (s.timers.getNextTimer now).1
      clock := now
      timeout := Function.update s.timeout w (some ⟨now, (s.timers.getNextTimer now).2⟩) } :
      TimedScheduler W O C α).Invariant := by
  have hphase := phase_of_idlePc hidle.2.2
  refine ⟨hs.census, hs.nonempty, hs.ordered.getNextTimer now, fun id hid => ?_⟩
  simp only [TimerManager.getNextTimer_fst] at hid ⊢
  by_cases hwait : (Timeout.mk now (s.timers.getNextTimer now).2).wait = 0
  · exact servedBy_of_alert w (by simp [Alert, limit, hphase, hwait])
  · have hle := hs.ordered.limit_le (Nat.pos_of_ne_zero hwait) hid
    exact servedBy_of_limit (w := w) (by simp [limit, hphase, hwait]) hle

omit [Fintype W] [DecidableEq O] in
/-- What a worker that blocks changes: it waits until its wake time. -/
lemma block_spec {w : W} {t : Timeout} (hphase : s.sched.phase w = .idle .entered)
    (ht : t ∈ s.timeout w) (hwait : 0 < t.wait) (wake : ℤ) :
    s.limit w = some t.limit ∧ (s.block w wake).limit w = some wake ∧
      ∀ v ≠ w, (s.block w wake).sched.phase v = s.sched.phase v ∧
        (s.block w wake).limit v = s.limit v ∧ ((s.block w wake).Alert v ↔ s.Alert v) := by
  refine ⟨?_, ?_, fun v hv => ?_⟩
  · have ht' : s.timeout w = some t := ht
    simp [limit, hphase, ht', hwait.ne']
  · simp [limit, block, Scheduler.move]
  · have hphase' : (s.block w wake).sched.phase v = s.sched.phase v := by
      simp [block, Scheduler.move, hv]
    have hwake' : (s.block w wake).wakeTime v = s.wakeTime v := by simp [block, hv]
    exact ⟨hphase', limit_congr hphase' rfl hwake', alert_congr hphase' rfl hwake'⟩

omit [DecidableEq O] in
/-- A worker blocks, for no longer than it was going to. -/
lemma Invariant.block (hs : s.Invariant) {w : W} {t : Timeout} {wake : ℤ}
    (hidle : s.AtIdle w .entered) (ht : t ∈ s.timeout w) (hwait : 0 < t.wait)
    (hwake : wake ≤ t.limit) : (s.block w wake).Invariant := by
  have hphase := phase_of_idlePc hidle.2.2
  obtain ⟨hlimit, hself, hother⟩ := block_spec hphase ht hwait wake
  have hcensus : (s.block w wake).sched.Census :=
    hs.census.advance w (.idle .blocked) rfl ⟨rfl, rfl⟩
      (by simp [hphase, Phase.active, Phase.idling])
  refine ⟨hcensus, hs.nonempty, hs.ordered, fun id hid => ?_⟩
  refine (hs.served id hid).frame (fun v _ hv => ⟨trivial, ?_⟩) le_rfl (fun th hth => hth)
    (fun v hv => ?_) (fun v hv => ?_) fun v l hl => ?_
  · have hne : v ≠ w := by
      rintro rfl
      simp [Alert, hphase, hlimit] at hv
    exact (hother v hne).2.2.mpr hv
  · have hne : v ≠ w := by
      rintro rfl
      rw [hlimit] at hv
      cases hv
    exact (hother v hne).2.1.trans hv
  · have hne : v ≠ w := by
      rintro rfl
      rw [hphase] at hv
      cases hv
    exact (hother v hne).1.trans hv
  · by_cases hne : v = w
    · subst hne
      rw [hlimit] at hl
      obtain rfl := Option.mem_some_iff.mp hl
      exact ⟨wake, hself, hwake⟩
    · exact ⟨l, (hother v hne).2.1.symm ▸ hl, le_rfl⟩

omit [DecidableEq W] [DecidableEq O] in
/-- A worker is on its way to `getNextTimer`. -/
lemma Invariant.of_alert (hs : s.Invariant) (w : W) (halert : s'.Alert w)
    (hcensus : s'.sched.Census) (htasks : s'.sched.tasks = s.sched.tasks)
    (hordered : s'.timers.Ordered) : s'.Invariant :=
  ⟨hcensus, htasks ▸ hs.nonempty, hordered, fun _ _ => servedBy_of_alert w halert⟩

/-- A step that meets the condition keeps every deadline served. -/
theorem invariant_step {a : TimedAction W O C α} (hs : s.Invariant) (hG : s.Relayed threadId a)
    (h : (machine threadId).step s a = some s') : s'.Invariant := by
  cases a with
  | sched a =>
    obtain ⟨htrans, -, -, htimers, -, -⟩ := stepSched_eq_some h
    exact ⟨Scheduler.census_step htrans hs.census, nonempty_step htrans hs.nonempty,
      htimers ▸ hs.ordered, hs.served_sched hG h⟩
  | addTimer th ms cb recurring now =>
    simp only [machine] at h
    split_ifs at h
    obtain rfl := Option.some.inj h
    have hcensus : (s.addTimer th ms cb recurring now).sched.Census := by
      simp only [addTimer]
      split_ifs
      · exact hs.census.congr rfl ⟨rfl, rfl⟩
      · exact hs.census
    have htasks : (s.addTimer th ms cb recurring now).sched.tasks = s.sched.tasks := by
      simp only [addTimer]
      split_ifs <;> rfl
    exact ⟨hcensus, htasks ▸ hs.nonempty, hs.ordered.addTimer, hs.served_addTimer hG⟩
  | getNextTimer w now =>
    simp only [machine] at h
    split_ifs at h with hstep
    obtain rfl := Option.some.inj h
    exact hs.getNextTimer hstep.1
  | stopping now =>
    simp only [machine] at h
    split_ifs at h
    obtain rfl := Option.some.inj h
    refine ⟨hs.census, hs.nonempty, hs.ordered.getNextTimer now, fun id hid => ?_⟩
    simp only [TimerManager.getNextTimer_fst] at hid ⊢
    exact (hs.served id hid).congr rfl rfl rfl le_rfl fun _ hth => hth
  | block w wake =>
    simp only [machine] at h
    split_ifs at h with hstep
    obtain ⟨hidle, t, ht, hwait, hwake⟩ := hstep
    obtain rfl := Option.some.inj h
    exact hs.block hidle ht hwait hwake
  | poll w =>
    simp only [machine] at h
    split_ifs at h with hstep
    obtain rfl := Option.some.inj h
    have hphase := phase_of_idlePc hstep.1.2.2
    refine hs.of_alert w (by simp [Alert, Scheduler.move]) ?_ rfl hs.ordered
    exact hs.census.advance w (.idle .woken) rfl ⟨rfl, rfl⟩
      (by simp [hphase, Phase.active, Phase.idling])
  | listExpiredCb w now now' fuel =>
    simp only [machine] at h
    split_ifs at h with hstep
    obtain ⟨r, hr, rfl⟩ := Option.map_eq_some_iff.mp h
    have hphase := phase_of_idlePc hstep.1.2.2
    exact hs.of_alert w (by simp [Alert, hphase]) hs.census rfl (hs.ordered.listExpiredCb hr)

/-! ## Violating the condition loses a wake-up -/

/-- A deadline is not served. -/
structure Unserved (s : TimedScheduler W O C α) (id : TimerId) : Prop where
  queued : id ∈ s.timers.timers
  not_served : ¬ s.ServedBy (fun _ => True) (s.timers.next id)
  going : s.sched.aborted = false

namespace Unserved

variable {id : TimerId}

omit [Fintype W] [DecidableEq W] [DecidableEq O] in
lemma call_eq (hs : s.Unserved id) (th : W ⊕ O) : s.sched.call th = none :=
  by_contra fun h => hs.not_served (servedBy_of_call th h)

omit [Fintype W] [DecidableEq W] [DecidableEq O] in
lemma not_alert (hs : s.Unserved id) (w : W) : ¬ s.Alert w :=
  fun h => hs.not_served (servedBy_of_alert w h)

omit [Fintype W] [DecidableEq W] [DecidableEq O] in
lemma lt_limit (hs : s.Unserved id) {w : W} {l : ℤ} (hl : l ∈ s.limit w) : s.timers.next id < l :=
  not_le.mp fun hle => hs.not_served (servedBy_of_limit hl hle)

omit [Fintype W] [DecidableEq O] in
/-- A worker that blocks for as long as it may serves no deadline it did not serve. -/
lemma block (hs : s.Unserved id) {w : W} {t : Timeout} (hphase : s.sched.phase w = .idle .entered)
    (ht : t ∈ s.timeout w) (hwait : 0 < t.wait) : (s.block w t.limit).Unserved id := by
  obtain ⟨hlimit, hself, hother⟩ := block_spec hphase ht hwait t.limit
  have hsame : ∀ v, (s.block w t.limit).limit v = s.limit v := by
    intro v
    by_cases hv : v = w
    · rw [hv, hself, hlimit]
    · exact (hother v hv).2.1
  have hphase' : (s.block w t.limit).sched.phase w = .idle .blocked := by
    simp [TimedScheduler.block, Scheduler.move]
  refine ⟨hs.queued, fun h => hs.not_served ?_, hs.going⟩
  refine h.frame (fun v _ hv => ⟨trivial, ?_⟩) le_rfl (fun th hth => hth)
    (fun v hv => (hsame v).symm.trans hv) (fun v hv => ?_) fun v l hl => ⟨l, hsame v ▸ hl, le_rfl⟩
  · have hne : v ≠ w := by
      rintro rfl
      simp [Alert, hphase'] at hv
    exact (hother v hne).2.2.mp hv
  · have hne : v ≠ w := by
      rintro rfl
      rw [hphase'] at hv
      cases hv
    exact (hother v hne).1.symm.trans hv

omit [Fintype W] in
/-- Where a deadline is not served, a worker executes a task, or it is blocked or about to block. -/
lemma settle (hs : s.Unserved id) (threadId : W → ℤ) (w : W) :
    ∃ s', (machine threadId).Reaches s s' ∧ s'.Unserved id ∧ s'.sched.Settled w ∧
      ∀ v, s.sched.Settled v → s'.sched.Settled v := by
  have hstay : s.sched.Settled w → ∃ s', (machine threadId).Reaches s s' ∧ s'.Unserved id ∧
      s'.sched.Settled w ∧ ∀ v, s.sched.Settled v → s'.sched.Settled v :=
    fun h => ⟨s, Machine.Reaches.refl _ s, hs, h, fun _ hv => hv⟩
  have halert := hs.not_alert w
  cases hphase : s.sched.phase w with
  | scan => exact absurd (by simp [Alert, hphase]) halert
  | exited =>
    exact absurd (servedBy_of_exited w hphase) hs.not_served
  | exec t pc => exact hstay (.inl ⟨t, by simp [hphase, Phase.job]⟩)
  | idle pc =>
    cases pc with
    | before | woken => exact absurd (by simp [Alert, hphase]) halert
    | blocked => exact hstay (.inr hphase)
    | entered =>
      obtain ⟨t, ht, hwait⟩ : ∃ t, s.timeout w = some t ∧ t.wait ≠ 0 := by
        cases htimeout : s.timeout w with
        | none => exact absurd (by simp [Alert, limit, hphase, htimeout]) halert
        | some t =>
          refine ⟨t, rfl, fun hzero => halert ?_⟩
          simp [Alert, limit, hphase, htimeout, hzero]
      have hwait' : 0 < t.wait := Nat.pos_of_ne_zero hwait
      have hidle : s.AtIdle w .entered :=
        ⟨hs.going, hs.call_eq _, by rw [hphase]; rfl⟩
      refine ⟨s.block w t.limit, ⟨[.block w t.limit], ?_⟩, hs.block hphase ht hwait', ?_, ?_⟩
      · have hstep : (machine threadId).step s (.block w t.limit) = some (s.block w t.limit) :=
          if_pos ⟨hidle, t, ht, hwait', le_rfl⟩
        simp [Machine.run, hstep]
      · exact .inr (by simp [TimedScheduler.block, Scheduler.move])
      · intro v hv
        by_cases hvw : v = w
        · exact .inr (by simp [TimedScheduler.block, Scheduler.move, hvw])
        · simpa [Scheduler.Settled, TimedScheduler.block, Scheduler.move, hvw] using hv

/-- Where a deadline is not served, the wake-up can get lost. -/
theorem reaches_lost (hs : s.Unserved id) (threadId : W → ℤ) :
    ∃ s', (machine threadId).Reaches s s' ∧ s'.LostTimerWakeUp := by
  obtain ⟨s', hreach, hs', hsettled⟩ := Machine.reaches_forall (M := machine threadId)
    (I := fun s : TimedScheduler W O C α => s.Unserved id) (S := fun s w => s.sched.Settled w)
    (fun s w hs => hs.settle threadId w) hs
  have hblocked : ∀ w, ∀ l ∈ s'.limit w, s'.sched.phase w = .idle .blocked :=
    fun w l hl => ((settled_spec (hsettled w)).2.2 l hl).1
  refine ⟨s', hreach, hsettled, ?_, ?_, hs'.call_eq, id, hs'.queued, fun w hw => ?_⟩
  · by_contra hnone
    refine hs'.not_served (servedBy_of_limits fun w => ?_)
    cases hlimit : s'.limit w with
    | none => rfl
    | some l => exact absurd ⟨w, hblocked w l hlimit⟩ hnone
  · by_contra hpipe
    exact hs'.not_served (.inr (.inl (Nat.pos_of_ne_zero hpipe)))
  · have hl : s'.wakeTime w ∈ s'.limit w := by simp [limit, hw]
    exact hs'.lt_limit hl

end Unserved

/-- The only task is taken by the only worker that would have asked for the next timer. -/
lemma Invariant.unserved_scan (hs : s.Invariant) {w : W}
    (hG : ¬ s.Relayed threadId (.sched (.scan w))) (h : s.stepSched threadId (.scan w) = some s') :
    ∃ id, s'.Unserved id := by
  simp only [Relayed, Classical.not_imp, not_forall, not_or] at hG
  obtain ⟨⟨u, hu, huelig⟩, id, hid, hlen, hserved⟩ := hG
  obtain ⟨htrans, hgoing, -, htimers, hwake, htimeout⟩ := stepSched_eq_some h
  generalize hsched : s'.sched = sched at htrans
  cases htrans with
  | takeEmpty w t hphase ht hne => exact absurd (hs.nonempty t ht) hne
  | takeNone w hcall hphase hskip => exact absurd huelig (hskip u hu)
  | take w skipped t rest hcall hphase htasks =>
    have hleft : (skipped.isEmpty && rest.isEmpty) = true := by
      rw [htasks] at hlen
      cases skipped <;> cases rest <;> simp at hlen ⊢
    have hnew : s'.sched.phase w = .exec t .taken := by simp [hsched]
    have hother : ∀ v ≠ w, s'.sched.phase v = s.sched.phase v := fun v hv => by simp [hsched, hv]
    have hlimit : ∀ v, s'.limit v = s.limit v := by
      intro v
      by_cases hv : v = w
      · simp [limit, hv, hnew, hphase]
      · exact limit_congr (hother v hv) (congrFun htimeout v) (congrFun hwake v)
    refine ⟨id, htimers ▸ hid, fun h' => hserved ?_, ?_⟩
    · rw [htimers] at h'
      refine h'.frame (fun v _ hv => ?_) (congrArg Scheduler.pipe hsched).le (fun th hth => ?_)
        (fun v hv => (hlimit v).symm.trans hv) (fun v hv => ?_)
        fun v l hl => ⟨l, hlimit v ▸ hl, le_rfl⟩
      · have hne : v ≠ w := by
          rintro rfl
          simp [Alert, hnew] at hv
        exact ⟨hne, (alert_congr (hother v hne) (congrFun htimeout v) (congrFun hwake v)).mp hv⟩
      · by_cases hw : th = .inl w
        · have hnone : s'.sched.call th = none := by simp [hsched, hw, hleft]
          exact absurd hnone hth
        · simpa [hsched, hw] using hth
      · have hne : v ≠ w := by
          rintro rfl
          rw [hnew] at hv
          cases hv
        exact (hother v hne).symm.trans hv
    · rw [hsched]
      exact hgoing

/-- A first timer, and nobody is told. -/
lemma Invariant.unserved_addTimer (hs : s.Invariant) {th : W ⊕ O} {ms : ℕ}
    {cb : Option (Callback α)} {recurring : Bool} {now : ℤ} (hgoing : s.sched.aborted = false)
    (hG : ¬ s.Relayed threadId (.addTimer th ms cb recurring now)) :
    (s.addTimer th ms cb recurring now).Unserved s.timers.created := by
  simp only [Relayed, Classical.not_imp] at hG
  obtain ⟨htickled, hfront, hserved⟩ := hG
  obtain ⟨hmem, hcall⟩ := hs.ordered.addTimer_front cb recurring hfront
  have hsched : (s.addTimer th ms cb recurring now).sched = s.sched := by
    simp [addTimer, hcall, htickled]
  have hnext : (s.addTimer th ms cb recurring now).timers.next s.timers.created = addMs now ms :=
    (TimerManager.next_addTimer s.timers _).trans (if_pos rfl)
  refine ⟨hmem, fun h' => hserved ?_, by rw [hsched]; exact hgoing⟩
  rw [hnext] at h'
  exact h'.congr (congrArg Scheduler.phase hsched).symm rfl rfl (congrArg Scheduler.pipe hsched).le
    fun th' hth' => by rwa [hsched] at hth'

/-- After a step that violates the condition, a timer wake-up can get lost. -/
theorem reaches_lost_of_not_relayed {a : TimedAction W O C α} (hs : s.Invariant)
    (hG : ¬ s.Relayed threadId a) (h : (machine threadId).step s a = some s') :
    ∃ t, (machine threadId).Reaches s' t ∧ t.LostTimerWakeUp := by
  cases a with
  | sched a =>
    cases a with
    | scan w =>
      obtain ⟨id, hid⟩ := hs.unserved_scan hG h
      exact hid.reaches_lost threadId
    | _ => exact absurd trivial hG
  | addTimer th ms cb recurring now =>
    simp only [machine] at h
    split_ifs at h with hstep
    obtain rfl := Option.some.inj h
    exact (hs.unserved_addTimer hstep.1 hG).reaches_lost threadId
  | _ => exact absurd trivial hG

/-! ## When no timer wake-up is lost -/

omit [DecidableEq W] [DecidableEq O] in
lemma invariant_init (now : ℤ) : (init now : TimedScheduler W O C α).Invariant :=
  ⟨Scheduler.census_init, by simp [init, Scheduler.init],
    ⟨List.Pairwise.nil, by simp [init, TimerManager.init]⟩,
    by simp [Served, init, TimerManager.init]⟩

/-- **When no timer wake-up is lost.**  On a run whose steps all meet the condition no state is
reached in which all workers execute a task or are blocked, nothing is under way that would wake one
of them, and a timer is due before the blocked ones wake up. -/
theorem no_lostTimerWakeUp (threadId : W → ℤ) (now : ℤ) (as : List (TimedAction W O C α))
    (hG : (machine threadId).Guarded (Relayed threadId) (init now) as) :
    (machine threadId).Throughout (fun s => ¬ s.LostTimerWakeUp) (init now) as :=
  Machine.throughout_of_guarded (fun _ _ _ hs hG h => invariant_step hs hG h)
    (fun _ hs hlost => hlost.not_served hs.served) (invariant_init now) hG

/-- A worker asks for the next timer, of two in 1 s and in 3 s, and blocks until the first: a run
that meets the condition. -/
theorem no_lostTimerWakeUp_two_timers :
    (machine fun _ => 1).Throughout
      (fun s : TimedScheduler Unit Unit Unit Unit => ¬ s.LostTimerWakeUp) (init 0)
      [.addTimer (.inr ()) 1000 (some (.user ())) false 0, .sched (.scan ()),
        .sched (.idleEnter ()), .sched (.tickleTest (.inr ())), .sched (.tickleWrite (.inr ())),
        .getNextTimer () 0, .getNextTimer () 0,
        .addTimer (.inr ()) 3000 (some (.user ())) false 0, .block () 1000000000] := by
  refine no_lostTimerWakeUp _ _ _ ?_
  refine .cons ?_ rfl (.cons ?_ rfl (.cons trivial rfl (.cons trivial rfl (.cons trivial rfl
    (.cons trivial rfl (.cons trivial rfl (.cons ?_ rfl (.cons trivial rfl trivial))))))))
  · exact fun htickled => absurd htickled (by decide)
  · rintro ⟨t, ht, -⟩
    cases ht
  · exact fun htickled => absurd htickled (by decide)

/-- Two workers block for 5 s; a timer is added, a callback is pushed, and one of the workers is
woken, drains the pipe and takes the callback. -/
def notifiedRun (ms : ℕ) : List (TimedAction Bool Unit Unit Unit) :=
  [.sched (.scan true), .sched (.idleEnter true), .getNextTimer true 0, .getNextTimer true 0,
    .block true 5000000000, .sched (.scan false), .sched (.idleEnter false),
    .getNextTimer false 0, .getNextTimer false 0, .block false 5000000000,
    .addTimer (.inr ()) ms (some (.user ())) false 0, .sched (.tickleTest (.inr ())),
    .sched (.tickleWrite (.inr ())), .sched (.push (.inr ()) (.ofCb () (-1))),
    .sched (.tickleTest (.inr ())), .sched (.tickleWrite (.inr ())), .sched (.wake true),
    .listExpiredCb true 0 0 1, .sched (.drain true), .sched (.idleLeave true),
    .sched (.scan true)]

/-- A timer in 1 s is lost when the notified worker takes the callback; and when a timer in 6 s was
notified of in this way, `m_tickled` is still set, so that nobody is told of one in 1 s. -/
theorem timerWakeUp_lost :
    (∃ s, (machine fun _ => 1).run (init 0) (notifiedRun 1000) = some s ∧ s.LostTimerWakeUp) ∧
    ∃ s, (machine fun _ => 1).run (init 0)
      (notifiedRun 6000 ++ [.addTimer (.inr ()) 1000 (some (.user ())) false 0]) = some s ∧
        s.LostTimerWakeUp := by
  constructor
  · refine ⟨_, rfl, ⟨?_, ⟨false, rfl⟩, rfl, ?_, 0, by decide, ?_⟩⟩
    · rintro (_ | _)
      · exact .inr rfl
      · exact .inl ⟨.ofCb () (-1), rfl⟩
    · rintro ((_ | _) | _) <;> rfl
    · rintro (_ | _) h
      · decide
      · cases h
  · refine ⟨_, rfl, ⟨?_, ⟨false, rfl⟩, rfl, ?_, 1, by decide, ?_⟩⟩
    · rintro (_ | _)
      · exact .inr rfl
      · exact .inl ⟨.ofCb () (-1), rfl⟩
    · rintro ((_ | _) | _) <;> rfl
    · rintro (_ | _) h
      · decide
      · cases h

end TimedScheduler

end CoroutineGateway
