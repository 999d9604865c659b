import CoroutineGateway.Properties.ThreadHandover

/-!
# The threads that `Scheduler::start` builds

`Scheduler::start` holds `m_mutex` while it waits for the threads that it creates, and each of them
wants `m_mutex` as soon as it is in `Scheduler::run`.  It works because a thread signals before it
calls `run`: the caller gets the id of every thread, the threads wait for the mutex until all of
them are registered, and nobody waits for ever.
-/

namespace CoroutineGateway

/-- The caller has `m_mutex`. -/
def StartPc.holds : StartPc → Bool
  | .looping | .building => true
  | _ => false

namespace SchedulerStart

variable {C : Type*} (run : C) (name : Bytes) (threadCount : ℕ) (threadId : ℕ → ℤ) (ids : List ℤ)

/-- What ties the caller and the threads together. -/
structure Invariant (s : SchedulerStart C) : Prop where
  sound : ∀ j, (s.threads j).Sound (threadId j) run (threadName name j)
  built : ∀ j < s.i, (s.threads j).ctor = .constructed
  current : s.pc = .building → s.i < threadCount ∧ (s.threads s.i).Live
  next : s.pc ≠ .building → (s.threads s.i).ctor = .unbuilt ∨
    s.pc = .thrown ∧ (s.threads s.i).ctor = .failed
  later : ∀ j, s.i < j → (s.threads j).ctor = .unbuilt
  starter : s.mutex = some .starter ↔ s.pc.holds = true
  worker : ∀ j, s.mutex = some (.worker j) → (s.threads j).run = .called
  before : s.pc = .before → s.i = 0
  bound : s.i ≤ threadCount
  complete : s.pc = .returned → s.stopping = false → s.i = threadCount
  threadIds : s.threadIds = ids ++ (List.range s.i).map threadId

lemma invariant_init (stopping : Bool) :
    (init stopping ids : SchedulerStart C).Invariant run name threadCount threadId ids where
  sound _ := Thread.sound_init
  built j hj := absurd hj (Nat.not_lt_zero j)
  current h := nomatch h
  next _ := .inl rfl
  later _ _ := rfl
  starter := by simp [init, StartPc.holds]
  worker j h := nomatch h
  before _ := rfl
  bound := Nat.zero_le _
  complete h := nomatch h
  threadIds := by simp [init]

namespace Invariant

variable {run name threadCount threadId ids} {s : SchedulerStart C}
  (hs : s.Invariant run name threadCount threadId ids)
include hs

/-- The threads that are not built yet do not exist. -/
lemma unborn {j : ℕ} (hj : s.i ≤ j) (hpc : s.pc ≠ .building) : (s.threads j).run = .unborn := by
  refine (hs.sound j).synchronized.unborn.mpr ?_
  rcases hj.eq_or_lt with rfl | hj
  · exact (hs.next hpc).imp id And.right
  · exact .inl (hs.later j hj)

/-- Only the threads of the scheduler take steps. -/
lemma lt_of_step {j : ℕ} {a : ThreadAction} {th : Thread C}
    (hstep : (s.threads j).step (threadId j) a = some th) : j < threadCount := by
  have hborn := (hs.sound j).synchronized.born_of_step hstep
  by_contra hj
  by_cases hpc : s.pc = .building
  · have hi := (hs.current hpc).1
    exact hborn ((hs.sound j).synchronized.unborn.mpr (.inl (hs.later j (by omega))))
  · exact hborn (hs.unborn (hs.bound.trans (Nat.not_lt.mp hj)) hpc)

/-- Before the start nobody has the mutex. -/
lemma mutex_before (hpc : s.pc = .before) : s.mutex = none := by
  cases hmutex : s.mutex with
  | none => rfl
  | some holder =>
    cases holder with
    | starter =>
      have hholds := hs.starter.mp hmutex
      simp [hpc, StartPc.holds] at hholds
    | worker j =>
      have hcalled := hs.worker j hmutex
      rw [hs.unborn (by rw [hs.before hpc]; exact Nat.zero_le j) (by simp [hpc])] at hcalled
      exact nomatch hcalled

/-- While `start` is under way, no thread has the mutex. -/
lemma alone (hpc : s.pc.ended = false) (j : ℕ) : s.mutex ≠ some (.worker j) := by
  intro hmutex
  have hnot : s.pc.holds ≠ true := fun hholds => by
    simp [hs.starter.mpr hholds] at hmutex
  cases hnow : s.pc with
  | before => simp [hs.mutex_before hnow] at hmutex
  | looping | building => simp [hnow, StartPc.holds] at hnot
  | returned | thrown => simp [hnow, StartPc.ended] at hpc

/-- One thread is replaced by a sound one. -/
lemma sound_update {j : ℕ} {th : Thread C}
    (hth : th.Sound (threadId j) run (threadName name j)) (k : ℕ) :
    (Function.update s.threads j th k).Sound (threadId k) run (threadName name k) :=
  (Function.forall_update_iff s.threads
    fun k th => th.Sound (threadId k) run (threadName name k)).mpr
      ⟨hth, fun k _ => hs.sound k⟩ k

/-- A step at one of the threads. -/
lemma threadStep {j : ℕ} {a : ThreadAction} {th : Thread C}
    (hstep : (s.threads j).step (threadId j) a = some th) :
    Invariant run name threadCount threadId ids
      { s with threads := Function.update s.threads j th } := by
  have hborn := (hs.sound j).synchronized.born_of_step hstep
  obtain ⟨hlive, hbuilt, hcalled⟩ := Thread.kept_step hstep
  have hnext (hpc : s.pc ≠ .building) : s.i ≠ j := by
    rintro rfl
    exact hborn (hs.unborn le_rfl hpc)
  have hlater (k : ℕ) (hk : s.i < k) : k ≠ j := by
    rintro rfl
    exact hborn ((hs.sound k).synchronized.unborn.mpr (.inl (hs.later k hk)))
  exact { hs with
    sound := hs.sound_update ((hs.sound j).step hstep)
    built := fun k hk => by
      by_cases hkj : k = j
      · subst hkj
        simpa using hbuilt (hs.built k hk)
      · simpa [hkj] using hs.built k hk
    current := fun hpc => by
      refine ⟨(hs.current hpc).1, ?_⟩
      by_cases hij : s.i = j
      · subst hij
        simpa using hlive (hs.current hpc).2
      · simpa [hij] using (hs.current hpc).2
    next := fun hpc => by simpa [hnext hpc] using hs.next hpc
    later := fun k hk => by simpa [hlater k hk] using hs.later k hk
    worker := fun k hmutex => by
      by_cases hkj : k = j
      · subst hkj
        simpa using hcalled (hs.worker k hmutex)
      · simpa [hkj] using hs.worker k hmutex }

/-- The exception of a constructor leaves `start`, or its thread has been created. -/
lemma create (ok : Bool) (hpc : s.pc = .looping) (hi : s.i < threadCount) :
    Invariant run name threadCount threadId ids
      { s with
        threads := Function.update s.threads s.i (.create run (threadName name s.i) ok)
        pc := if ok then .building else .thrown
        mutex := if ok then s.mutex else none } := by
  have hmutex : s.mutex = some .starter := hs.starter.mpr (by rw [hpc]; rfl)
  have hsound (k : ℕ) : (Function.update s.threads s.i
      (.create run (threadName name s.i) ok) k).Sound (threadId k) run (threadName name k) :=
    hs.sound_update (Thread.sound_create ok) k
  have hbuilt (k : ℕ) (hk : k < s.i) : (Function.update s.threads s.i
      (.create run (threadName name s.i) ok) k).ctor = .constructed := by
    simpa [hk.ne] using hs.built k hk
  have hlater (k : ℕ) (hk : s.i < k) : (Function.update s.threads s.i
      (.create run (threadName name s.i) ok) k).ctor = .unbuilt := by
    simpa [hk.ne'] using hs.later k hk
  cases ok with
  | false =>
    exact { hs with
      sound := hsound
      built := hbuilt
      current := fun h => by simp at h
      next := fun _ => .inr ⟨rfl, by simp [Thread.create]⟩
      later := hlater
      starter := by simp [StartPc.holds]
      worker := fun _ h => by simp at h
      before := fun h => by simp at h
      complete := fun h => by simp at h }
  | true =>
    exact { hs with
      sound := hsound
      built := hbuilt
      current := fun _ => ⟨hi, .inl (by simp [Thread.create])⟩
      next := fun hne => absurd rfl hne
      later := hlater
      starter := iff_of_true hmutex rfl
      worker := fun k hk => by simp [hmutex] at hk
      before := fun h => by simp at h
      complete := fun h => by simp at h }

/-- A built thread is taken over. -/
lemma push (hpc : s.pc = .building) (hctor : (s.threads s.i).ctor = .constructed) :
    Invariant run name threadCount threadId ids
      { s with
        pc := .looping, i := s.i + 1, threadIds := s.threadIds ++ [(s.threads s.i).id] } := by
  have hmutex : s.mutex = some .starter := hs.starter.mpr (by rw [hpc]; rfl)
  have hid : (s.threads s.i).id = threadId s.i := by
    rw [(hs.sound s.i).prepared.id_eq]
    rcases ((hs.sound s.i).synchronized.not_touches hctor).2 with hrun | hrun
    · rw [hrun]; rfl
    · rw [hrun]; rfl
  exact { hs with
    built := fun k hk => by
      rcases (Nat.lt_succ_iff.mp hk).eq_or_lt with rfl | hk
      · exact hctor
      · exact hs.built k hk
    current := nofun
    next := fun _ => .inl (hs.later _ (Nat.lt_succ_self _))
    later := fun k hk => hs.later k (Nat.lt_of_succ_lt hk)
    starter := iff_of_true hmutex rfl
    before := nofun
    bound := (hs.current hpc).1
    complete := nofun
    threadIds := by
      simp only [List.range_succ, List.map_append, List.map_singleton, hid, hs.threadIds,
        List.append_assoc] }

/-- Every step of the caller and of the threads keeps the invariant. -/
theorem step {a : StartAction} {s' : SchedulerStart C}
    (hstep : (machine run name threadCount threadId).step s a = some s') :
    s'.Invariant run name threadCount threadId ids := by
  cases a with
  | begin =>
    obtain ⟨⟨hpc, hmutex⟩, hstep⟩ := Option.ite_none_right_eq_some.mp hstep
    have hnext := hs.next (by simp [hpc])
    split_ifs at hstep with hstopping
    · obtain rfl := Option.some.inj hstep
      exact { hs with
        current := nofun
        next := fun _ => by simpa [hpc] using hnext
        starter := by simp [hmutex, StartPc.holds]
        before := nofun
        complete := fun _ hgoing => by simp [hstopping] at hgoing }
    · obtain rfl := Option.some.inj hstep
      exact { hs with
        current := nofun
        next := fun _ => by simpa [hpc] using hnext
        starter := iff_of_true rfl rfl
        worker := nofun
        before := nofun
        complete := nofun }
  | create ok =>
    obtain ⟨⟨hpc, hi⟩, ⟨⟩⟩ := Option.ite_none_right_eq_some.mp hstep
    exact hs.create ok hpc hi
  | push =>
    obtain ⟨⟨hpc, hctor⟩, ⟨⟩⟩ := Option.ite_none_right_eq_some.mp hstep
    exact hs.push hpc hctor
  | finish =>
    obtain ⟨⟨hpc, hi⟩, ⟨⟩⟩ := Option.ite_none_right_eq_some.mp hstep
    have hnext := hs.next (by simp [hpc])
    exact { hs with
      current := nofun
      next := fun _ => by simpa [hpc] using hnext
      starter := by simp [StartPc.holds]
      worker := nofun
      before := nofun
      complete := fun _ _ => le_antisymm hs.bound (Nat.not_lt.mp hi) }
  | thread j a =>
    obtain ⟨th, hth, rfl⟩ := Option.map_eq_some_iff.mp hstep
    exact hs.threadStep hth
  | lock j =>
    obtain ⟨⟨hrun, hmutex⟩, ⟨⟩⟩ := Option.ite_none_right_eq_some.mp hstep
    have hnot : s.pc.holds ≠ true := fun hholds => by simp [hs.starter.mpr hholds] at hmutex
    exact { hs with
      starter := by simpa using hnot
      worker := fun k hk => by
        obtain rfl : j = k := by simpa using hk
        exact hrun }
  | unlock j =>
    obtain ⟨hmutex, ⟨⟩⟩ := Option.ite_none_right_eq_some.mp hstep
    have hnot : s.pc.holds ≠ true := fun hholds => by simp [hs.starter.mpr hholds] at hmutex
    exact { hs with
      starter := by simpa using hnot
      worker := nofun }

/-- While `start` is under way, it gets on or the thread that it waits for does. -/
lemma canStep (hpc : s.pc.ended = false) : ∃ a : StartAction, a.spurious = false ∧
    ((machine run name threadCount threadId).step s a).isSome := by
  cases hnow : s.pc with
  | before =>
    refine ⟨.begin, rfl, ?_⟩
    have hmutex := hs.mutex_before hnow
    by_cases hstopping : s.stopping
    · simp [machine, hnow, hmutex, hstopping]
    · simp [machine, hnow, hmutex, hstopping]
  | looping =>
    by_cases hi : s.i < threadCount
    · exact ⟨.create true, rfl, by simp [machine, hnow, hi]⟩
    · exact ⟨.finish, rfl, by simpa [machine, hnow] using hi⟩
  | building =>
    obtain ⟨-, hcreated | hwaiting | hbuilt⟩ := hs.current hnow
    · obtain ⟨a, ha, hstep⟩ := (hs.sound s.i).synchronized.canStep (hs.sound s.i).semaphore
        (.inl hcreated) (threadId s.i)
      exact ⟨.thread s.i a, ha, by simpa [machine] using hstep⟩
    · obtain ⟨a, ha, hstep⟩ := (hs.sound s.i).synchronized.canStep (hs.sound s.i).semaphore
        (.inr hwaiting) (threadId s.i)
      exact ⟨.thread s.i a, ha, by simpa [machine] using hstep⟩
    · exact ⟨.push, rfl, by simp [machine, hnow, hbuilt]⟩
  | returned | thrown => simp [hnow, StartPc.ended] at hpc

end Invariant

/-- What is left of the caller's own part of `start`. -/
def callerWork (threadCount : ℕ) (s : SchedulerStart C) : ℕ :=
  match s.pc with
  | .before => threadCount - s.i + 2
  | .looping | .building => threadCount - s.i + 1
  | .returned | .thrown => 0

/-- What is left of `start`. -/
def work (s : SchedulerStart C) : ℕ :=
  ∑ j ∈ Finset.range threadCount, (s.threads j).work + s.callerWork threadCount

lemma work_init (stopping : Bool) :
    (init stopping ids : SchedulerStart C).work threadCount = 20 * threadCount + 2 := by
  have hthreads : ∑ _j ∈ Finset.range threadCount, (Thread.init : Thread C).work =
      threadCount * 19 := by
    rw [Finset.sum_const_nat fun _ _ => Thread.work_init, Finset.card_range]
  simp only [work, init, callerWork, hthreads]
  omega

lemma work_update (s : SchedulerStart C) {j : ℕ} (hj : j < threadCount) (th : Thread C) :
    ∑ k ∈ Finset.range threadCount, (Function.update s.threads j th k).work +
      (s.threads j).work = ∑ k ∈ Finset.range threadCount, (s.threads k).work + th.work :=
  sum_update_add_of_mem s.threads Thread.work th (Finset.mem_range.mpr hj)

/-- A step of `start` is one step less, unless a sleeper wakes up by itself. -/
lemma Invariant.work_step {run : C} {name : Bytes} {threadCount : ℕ} {threadId : ℕ → ℤ}
    {ids : List ℤ} {s s' : SchedulerStart C} (hs : s.Invariant run name threadCount threadId ids)
    {a : StartAction} (hstep : (machine run name threadCount threadId).step s a = some s') :
    s'.pc.ended = true ∨ ¬ s.pc.ended = true ∧
      s'.work threadCount + 1 ≤ s.work threadCount + 3 * a.spurious.toNat := by
  by_cases hended : s'.pc.ended = true
  · exact .inl hended
  refine .inr ?_
  cases a with
  | begin =>
    obtain ⟨⟨hpc, hmutex⟩, hstep⟩ := Option.ite_none_right_eq_some.mp hstep
    split_ifs at hstep with hstopping
    · obtain rfl := Option.some.inj hstep
      exact absurd rfl hended
    · obtain rfl := Option.some.inj hstep
      refine ⟨by simp [hpc, StartPc.ended], ?_⟩
      simp only [work, callerWork, hpc]
      omega
  | create ok =>
    obtain ⟨⟨hpc, hi⟩, ⟨⟩⟩ := Option.ite_none_right_eq_some.mp hstep
    refine ⟨by simp [hpc, StartPc.ended], ?_⟩
    cases ok with
    | false => exact absurd rfl hended
    | true =>
      have hunbuilt : (s.threads s.i).ctor = .unbuilt := by
        simpa [hpc] using hs.next (by simp [hpc])
      have hbefore := (hs.sound s.i).synchronized.work_unbuilt hunbuilt
      have hafter := Thread.work_create run (threadName name s.i) true
      have hsum := work_update threadCount s hi (.create run (threadName name s.i) true)
      simp only [work, callerWork, hpc, if_true]
      omega
  | push =>
    obtain ⟨⟨hpc, hctor⟩, ⟨⟩⟩ := Option.ite_none_right_eq_some.mp hstep
    have hi := (hs.current hpc).1
    refine ⟨by simp [hpc, StartPc.ended], ?_⟩
    simp only [work, callerWork, hpc]
    omega
  | finish =>
    obtain ⟨⟨hpc, hi⟩, ⟨⟩⟩ := Option.ite_none_right_eq_some.mp hstep
    exact absurd rfl hended
  | thread j a =>
    obtain ⟨th, hth, rfl⟩ := Option.map_eq_some_iff.mp hstep
    refine ⟨hended, ?_⟩
    have hwork := Thread.work_step hth
    have hsum := work_update threadCount s (hs.lt_of_step hth) th
    simp only [work, StartAction.spurious] at hwork hsum ⊢
    change _ + callerWork threadCount s + 1 ≤ _
    omega
  | lock j =>
    obtain ⟨⟨hrun, hmutex⟩, ⟨⟩⟩ := Option.ite_none_right_eq_some.mp hstep
    exact absurd rfl ((hs.step hstep).alone (Bool.eq_false_iff.mpr hended) j)
  | unlock j =>
    obtain ⟨hmutex, ⟨⟩⟩ := Option.ite_none_right_eq_some.mp hstep
    exact absurd hmutex (hs.alone (Bool.eq_false_iff.mpr hended) j)

/-! ## The results -/

/-- What `start` has done is complete. -/
structure HandedOver (s : SchedulerStart C) : Prop where
  /-- The ids are those of the threads, in the order in which the threads were built. -/
  threadIds : s.threadIds = ids ++ (List.range s.i).map threadId
  built : ∀ j < s.i, (s.threads j).ctor = .constructed
  /-- The thread of a constructed object has set everything, and `Thread::run` is done with the
  object. -/
  constructed : ∀ j, (s.threads j).ctor = .constructed →
    (s.threads j).id = threadId j ∧ (s.threads j).cb = none ∧
    (s.threads j).name = threadName name j ∧
    (s.threads j).locals =
      ⟨true, threadName name j, some (Thread.title (threadName name j)), some run⟩ ∧
    ¬ (s.threads j).Touches
  /-- There is no other thread. -/
  unborn : ∀ j, s.i ≤ j → s.pc ≠ .building → (s.threads j).run = .unborn
  /-- No thread gets at the queue before the call is over. -/
  alone : s.pc.ended = false → ∀ j, s.mutex ≠ some (.worker j)
  complete : s.pc = .returned → s.stopping = false → s.i = threadCount

variable {run name threadCount threadId ids}

lemma Invariant.handedOver {s : SchedulerStart C}
    (hs : s.Invariant run name threadCount threadId ids) :
    s.HandedOver run name threadCount threadId ids where
  threadIds := hs.threadIds
  built := hs.built
  constructed j hctor := by
    obtain ⟨htouches, hrun⟩ := (hs.sound j).synchronized.not_touches hctor
    obtain ⟨hname, hid, hcb, hlocals⟩ := (hs.sound j).prepared
    rcases hrun with hrun | hrun
    · rw [hrun] at hname hid hcb hlocals
      exact ⟨hid, hcb, hname nofun, hlocals, htouches⟩
    · rw [hrun] at hname hid hcb hlocals
      exact ⟨hid, hcb, hname nofun, hlocals, htouches⟩
  unborn _ := hs.unborn
  alone := hs.alone
  complete := hs.complete

lemma invariant_of_run (stopping : Bool) (as : List StartAction) (s : SchedulerStart C)
    (hrun : (machine run name threadCount threadId).run (init stopping ids) as = some s) :
    s.Invariant run name threadCount threadId ids :=
  Machine.run_invariant (fun _ _ _ hs h => hs.step h)
    (invariant_init run name threadCount threadId ids stopping) hrun

/-- **The threads are handed over.**  Whatever the order of the steps, `m_threadIds` gets the ids
of the threads themselves, a constructed `Thread` is never touched by its thread again, and no
thread gets at the queue before `start` has unlocked it, whether by returning or by an exception. -/
theorem handedOver_of_run (stopping : Bool) (as : List StartAction) (s : SchedulerStart C)
    (hrun : (machine run name threadCount threadId).run (init stopping ids) as = some s) :
    s.HandedOver run name threadCount threadId ids :=
  (invariant_of_run stopping as s hrun).handedOver

/-- One thread is started; the caller sleeps, wakes up by itself, and sleeps again. -/
def oneThreadRun : List StartAction :=
  [.begin, .create true, .thread 0 .wait, .thread 0 (.semaphore (.lock .creator)),
    .thread 0 (.semaphore (.test .creator)), .thread 0 .setName,
    .thread 0 (.semaphore (.wake .creator)), .thread 0 (.semaphore (.lock .creator)),
    .thread 0 (.semaphore (.test .creator)), .thread 0 .setId, .thread 0 .setTitle, .thread 0 .swap,
    .thread 0 .signal, .thread 0 (.semaphore (.lock .created)),
    .thread 0 (.semaphore (.add .created)),
    .thread 0 (.semaphore (.notify .created (some .creator))),
    .thread 0 (.semaphore (.unlock .created)), .thread 0 .call,
    .thread 0 (.semaphore (.lock .creator)), .thread 0 (.semaphore (.test .creator)),
    .thread 0 (.semaphore (.unlock .creator)), .thread 0 .construct, .push, .finish, .lock 0]

/-- The machine of the run. -/
abbrev oneThread : Machine (SchedulerStart Unit) StartAction :=
  machine () (ascii "io") 1 fun j => 100 + j

/-- The whole run. -/
theorem handedOver_of_run_oneThreadRun : ∃ s : SchedulerStart Unit,
    oneThread.run (init false [7]) oneThreadRun = some s ∧
      s.pc = .returned ∧ s.threadIds = [7, 100] ∧
      s.HandedOver () (ascii "io") 1 (fun j => 100 + j) [7] := by
  have hend : (oneThread.run (init false [7]) oneThreadRun).map
      (fun s => (s.pc, s.threadIds)) = some (.returned, [7, 100]) := by decide
  obtain ⟨s, hrun, hs⟩ := Option.map_eq_some_iff.mp hend
  obtain ⟨hpc, hids⟩ := Prod.mk.inj hs
  exact ⟨s, hrun, hpc, hids, handedOver_of_run false oneThreadRun s hrun⟩

/-- **`start` comes to its end.**  The locks that it holds while it waits never stop the thread for
which it waits, and no wake-up is lost: while the call is not over, somebody can take a step that is
not a wake-up without a notification; and a run has at most `20 * m_threadCount + 2` steps, and
three more for each such wake-up, the wake-up itself among them. -/
theorem goesOn_of_run (stopping : Bool) (as : List StartAction) (s : SchedulerStart C)
    (hrun : (machine run name threadCount threadId).run (init stopping ids) as = some s)
    (hpc : s.pc.ended = false) :
    as.length ≤ 20 * threadCount + 2 + 3 * as.countP StartAction.spurious ∧
      ∃ a : StartAction, a.spurious = false ∧
        ((machine run name threadCount threadId).step s a).isSome := by
  refine ⟨?_, (invariant_of_run stopping as s hrun).canStep hpc⟩
  have hlength := Machine.length_le_of_work
    (fun _ _ _ hs h => ⟨hs.step h, hs.work_step h⟩)
    (invariant_init run name threadCount threadId ids stopping) hrun
  have hpaid := hlength.resolve_left (by simp [hpc])
  rw [work_init] at hpaid
  exact (Nat.le_add_right _ _).trans hpaid

/-- The caller is asleep for the second time. -/
theorem goesOn_of_run_asleep : ∃ s : SchedulerStart Unit,
    oneThread.run (init false [7]) (oneThreadRun.take 9) = some s ∧
      (s.threads 0).semaphore.pc .creator = .asleep ∧
      (oneThreadRun.take 9).length ≤
        20 * 1 + 2 + 3 * (oneThreadRun.take 9).countP StartAction.spurious ∧
      ∃ a : StartAction, a.spurious = false ∧ (oneThread.step s a).isSome := by
  have hasleep : (oneThread.run (init false [7]) (oneThreadRun.take 9)).map
      (fun s => (s.pc, (s.threads 0).semaphore.pc .creator)) = some (.building, .asleep) := by
    decide
  obtain ⟨s, hrun, hs⟩ := Option.map_eq_some_iff.mp hasleep
  obtain ⟨hpc, hcreator⟩ := Prod.mk.inj hs
  exact ⟨s, hrun, hcreator, goesOn_of_run false _ s hrun (by rw [hpc]; rfl)⟩

end SchedulerStart

end CoroutineGateway
