import CoroutineGateway.Construction.ThreadStart

/-!
# The object of a thread is handed back

The constructor of `Thread` returns when the created thread is done with the object for good, so
that whoever builds a thread may read `m_id`, and may even destroy the object
(`Thread.Synchronized.not_touches`).  The count of the semaphore tells how far the two are: it is 1
between the `signal` of the one and the `wait` of the other.

The constructor always comes to its end: while it waits, a step is possible
(`Thread.Synchronized.canStep`), and the work that is left goes down (`Thread.work_step`).
-/

namespace CoroutineGateway

/-! ## The semaphore between the two threads -/

namespace SemaphorePc

/-- A thread that calls `wait` only can be there. -/
def inWait : SemaphorePc → Bool
  | .idle | .entering | .testing | .asleep | .taken => true
  | _ => false

/-- A thread that calls `signal` only can be there. -/
def inSignal : SemaphorePc → Bool
  | .idle | .signalling | .counting | .notifying | .notified => true
  | _ => false

/-- In `wait`, or after it: the count has been decremented. -/
def hasTaken : SemaphorePc → ℕ
  | .taken | .idle => 1
  | _ => 0

/-- In `signal`, or after it: the count has been incremented. -/
def hasAdded : SemaphorePc → ℕ
  | .notifying | .notified | .idle => 1
  | _ => 0

end SemaphorePc

namespace Thread

variable {C : Type*}

/-- What the creator has taken from the count. -/
def taken (th : Thread C) : ℕ :=
  match th.ctor with
  | .waiting => (th.semaphore.pc .creator).hasTaken
  | .constructed => 1
  | _ => 0

/-- What the created thread has added to the count. -/
def added (th : Thread C) : ℕ :=
  match th.run with
  | .signalling => (th.semaphore.pc .created).hasAdded
  | .called => 1
  | _ => 0

/-- What ties the two threads and the semaphore together. -/
structure Synchronized (th : Thread C) : Prop where
  unborn : th.run = .unborn ↔ th.ctor = .unbuilt ∨ th.ctor = .failed
  waits : (th.semaphore.pc .creator).inWait = true
  waits_idle : th.ctor ≠ .waiting → th.semaphore.pc .creator = .idle
  signals : (th.semaphore.pc .created).inSignal = true
  signals_idle : th.run ≠ .signalling → th.semaphore.pc .created = .idle
  balance : th.semaphore.count + th.taken = th.added
  /-- The creator gets through when the created thread is out of the semaphore. -/
  alone : th.taken = 1 → th.semaphore.pc .created = .idle

lemma synchronized_init : (init : Thread C).Synchronized where
  unborn := by simp [init]
  waits := rfl
  waits_idle _ := rfl
  signals := rfl
  signals_idle _ := rfl
  balance := rfl
  alone h := by simp [init, taken] at h

lemma synchronized_create (cb : C) (name : Bytes) (ok : Bool) :
    (create cb name ok).Synchronized := by
  cases ok with
  | false =>
    exact ⟨by simp [create, init], rfl, fun _ => rfl, rfl, fun _ => rfl, rfl,
      by simp [create, taken]⟩
  | true =>
    exact ⟨by simp [create], rfl, fun _ => rfl, rfl, fun _ => rfl, rfl, by simp [create, taken]⟩

namespace Synchronized

variable {th : Thread C} (h : th.Synchronized)
include h

lemma waiting_of_busy (hbusy : th.semaphore.pc .creator ≠ .idle) : th.ctor = .waiting := by
  by_contra hctor
  exact hbusy (h.waits_idle hctor)

lemma signalling_of_busy (hbusy : th.semaphore.pc .created ≠ .idle) : th.run = .signalling := by
  by_contra hrun
  exact hbusy (h.signals_idle hrun)

/-- The creator goes on in `wait`. -/
lemma creatorMoves {q : SemaphorePc} (p : SemaphorePc) {semaphore : Semaphore Side}
    (hpc : th.semaphore.pc .creator = q) (hq : q ≠ .idle)
    (hmoved : semaphore.pc = Function.update th.semaphore.pc .creator p) (hp : p.inWait = true)
    (hcount : semaphore.count + p.hasTaken = th.semaphore.count + q.hasTaken)
    (halone : p.hasTaken = 1 → th.semaphore.pc .created = .idle) :
    Synchronized { th with semaphore } := by
  have hctor : th.ctor = .waiting := h.waiting_of_busy (hpc.trans_ne hq)
  have hnext : semaphore.pc .creator = p := by rw [hmoved, Function.update_self]
  have hother : semaphore.pc .created = th.semaphore.pc .created := by simp [hmoved]
  have hbalance := h.balance
  have htaken : th.taken = q.hasTaken := by rw [taken, hctor, hpc]
  have htaken' : ({ th with semaphore } : Thread C).taken = p.hasTaken := by
    simp only [taken, hctor, hnext]
  have hadded : ({ th with semaphore } : Thread C).added = th.added := by
    simp only [added, hother]
  exact
    { unborn := h.unborn
      waits := by rw [hnext]; exact hp
      waits_idle := fun hne => absurd hctor hne
      signals := by rw [hother]; exact h.signals
      signals_idle := fun hne => hother.trans (h.signals_idle hne)
      balance := by rw [hadded, htaken', hcount, ← htaken, hbalance]
      alone := fun hone => hother.trans (halone (htaken'.symm.trans hone)) }

/-- The created thread goes on in `signal`. -/
lemma createdMoves {q : SemaphorePc} (p : SemaphorePc) {semaphore : Semaphore Side}
    (hpc : th.semaphore.pc .created = q) (hq : q ≠ .idle)
    (hmoved : semaphore.pc = Function.update th.semaphore.pc .created p) (hp : p.inSignal = true)
    (hcount : semaphore.count + q.hasAdded = th.semaphore.count + p.hasAdded) :
    Synchronized { th with semaphore } := by
  have hrun : th.run = .signalling := h.signalling_of_busy (hpc.trans_ne hq)
  have hnext : semaphore.pc .created = p := by rw [hmoved, Function.update_self]
  have hother : semaphore.pc .creator = th.semaphore.pc .creator := by simp [hmoved]
  have hbalance := h.balance
  have hadded : th.added = q.hasAdded := by rw [added, hrun, hpc]
  have hadded' : ({ th with semaphore } : Thread C).added = p.hasAdded := by
    simp only [added, hrun, hnext]
  have htaken : ({ th with semaphore } : Thread C).taken = th.taken := by
    simp only [taken, hother]
  have hbusy : th.taken ≠ 1 := fun hone => hq (hpc.symm.trans (h.alone hone))
  exact
    { unborn := h.unborn
      waits := by rw [hother]; exact h.waits
      waits_idle := fun hne => hother.trans (h.waits_idle hne)
      signals := by rw [hnext]; exact hp
      signals_idle := fun hne => absurd hrun hne
      balance := by
        rw [hadded', htaken]
        change semaphore.count + _ = _
        omega
      alone := fun hone => absurd (htaken.symm.trans hone) hbusy }

/-- When the count is positive and the creator has the mutex, the created thread is out of the
semaphore. -/
lemma created_idle (hs : th.semaphore.Sound) (hpc : th.semaphore.pc .creator = .testing)
    (hcount : 0 < th.semaphore.count) : th.semaphore.pc .created = .idle := by
  by_contra hbusy
  have hrun : th.run = .signalling := h.signalling_of_busy hbusy
  have hfree : (th.semaphore.pc .created).holds ≠ true := fun hholds =>
    nomatch hs.exclusive.eq_of_holds (t := .creator) (by rw [hpc]; rfl) hholds
  have hbalance := h.balance
  have hadded : 0 < (th.semaphore.pc .created).hasAdded := by
    rw [added, hrun] at hbalance
    dsimp only at hbalance
    omega
  cases hnow : th.semaphore.pc .created <;>
    simp [hnow, SemaphorePc.holds, SemaphorePc.hasAdded] at hfree hadded hbusy

/-- A step inside of an operation of the semaphore. -/
lemma semaphoreStep (hs : th.semaphore.Sound) {a : SemaphoreAction Side} (ha : a.inner = true)
    {semaphore : Semaphore Side} (hstep : th.semaphore.step a = some semaphore) :
    Synchronized { th with semaphore } := by
  have hwaits := h.waits
  have hsignals := h.signals
  cases Semaphore.moves_of_step hstep with
  | wait _ | signal _ => exact absurd ha Bool.false_ne_true
  | @lockWait side _ hpc =>
    cases side with
    | created => simp [hpc, SemaphorePc.inSignal] at hsignals
    | creator =>
      exact h.creatorMoves .testing hpc nofun rfl rfl rfl (fun hone => absurd hone (by decide))
  | @lockSignal side _ hpc =>
    cases side with
    | creator => simp [hpc, SemaphorePc.inWait] at hwaits
    | created => exact h.createdMoves .counting hpc nofun rfl rfl rfl
  | @sleep side hpc _ =>
    cases side with
    | created => simp [hpc, SemaphorePc.inSignal] at hsignals
    | creator =>
      exact h.creatorMoves .asleep hpc nofun rfl rfl rfl (fun hone => absurd hone (by decide))
  | @take side hpc hcount =>
    cases side with
    | created => simp [hpc, SemaphorePc.inSignal] at hsignals
    | creator =>
      exact h.creatorMoves .taken hpc nofun rfl rfl (Nat.sub_add_cancel hcount)
        fun _ => h.created_idle hs hpc hcount
  | @add side hpc =>
    cases side with
    | creator => simp [hpc, SemaphorePc.inWait] at hwaits
    | created => exact h.createdMoves .notifying hpc nofun rfl rfl rfl
  | @notifyNone side hpc _ =>
    cases side with
    | creator => simp [hpc, SemaphorePc.inWait] at hwaits
    | created => exact h.createdMoves .notified hpc nofun rfl rfl rfl
  | @notifySome side sleeper hpc hsleeper =>
    cases side with
    | creator => simp [hpc, SemaphorePc.inWait] at hwaits
    | created =>
      cases sleeper with
      | created => simp [hpc] at hsleeper
      | creator =>
        have hnotified :
            Synchronized { th with semaphore := th.semaphore.goTo .created .notified } :=
          h.createdMoves .notified hpc nofun rfl rfl rfl
        exact hnotified.creatorMoves .entering hsleeper nofun rfl rfl rfl
          (fun hone => absurd hone (by decide))
  | @unlockWait side hpc =>
    cases side with
    | created => simp [hpc, SemaphorePc.inSignal] at hsignals
    | creator =>
      have htaken : th.taken = 1 := by rw [taken, h.waiting_of_busy (hpc.trans_ne nofun), hpc]; rfl
      exact h.creatorMoves .idle hpc nofun rfl rfl rfl fun _ =>
        h.alone htaken
  | @unlockSignal side hpc =>
    cases side with
    | creator => simp [hpc, SemaphorePc.inWait] at hwaits
    | created => exact h.createdMoves .idle hpc nofun rfl rfl rfl
  | @wake side hpc =>
    cases side with
    | created => simp [hpc, SemaphorePc.inSignal] at hsignals
    | creator =>
      exact h.creatorMoves .entering hpc nofun rfl rfl rfl (fun hone => absurd hone (by decide))

/-- The created thread goes on outside of the semaphore. -/
lemma runMoves {th' : Thread C} (hctor : th'.ctor = th.ctor)
    (hsemaphore : th'.semaphore = th.semaphore) (hborn : th.run ≠ .unborn)
    (hborn' : th'.run ≠ .unborn) (hidle : th.semaphore.pc .created = .idle)
    (hadded : th'.added = th.added) : th'.Synchronized := by
  have htaken : th'.taken = th.taken := by rw [taken, taken, hctor, hsemaphore]
  exact
    { unborn := iff_of_false hborn' fun hunbuilt => hborn (h.unborn.mpr (by rwa [← hctor]))
      waits := by rw [hsemaphore]; exact h.waits
      waits_idle := fun hne => by
        rw [hsemaphore]
        exact h.waits_idle (by rwa [← hctor])
      signals := by rw [hsemaphore]; exact h.signals
      signals_idle := fun _ => by rw [hsemaphore, hidle]
      balance := by rw [hsemaphore, htaken, hadded, h.balance]
      alone := fun _ => by rw [hsemaphore, hidle] }

/-- The creator calls `wait`. -/
lemma callWait (hctor : th.ctor = .created) {semaphore : Semaphore Side}
    (hstep : th.semaphore.step (.wait .creator) = some semaphore) :
    Synchronized { th with ctor := .waiting, semaphore } := by
  cases Semaphore.moves_of_step hstep with
  | wait hpc =>
    have hbalance := h.balance
    have htaken : th.taken = 0 := by rw [taken, hctor]
    have hborn : th.run ≠ .unborn := by simp [h.unborn, hctor]
    exact
      { unborn := by simpa using hborn
        waits := by simp [SemaphorePc.inWait]
        waits_idle := fun hne => absurd rfl hne
        signals := by simpa [Semaphore.goTo_pc_of_ne] using h.signals
        signals_idle := fun hne => by simpa [Semaphore.goTo_pc_of_ne] using h.signals_idle hne
        balance := by
          rw [htaken] at hbalance
          simpa [taken, added, SemaphorePc.hasTaken, Semaphore.goTo_pc_of_ne] using hbalance
        alone := fun hone => by simp [taken, SemaphorePc.hasTaken] at hone }

/-- The created thread calls `signal`. -/
lemma callSignal (hrun : th.run = .swapped) {semaphore : Semaphore Side}
    (hstep : th.semaphore.step (.signal .created) = some semaphore) :
    Synchronized { th with run := .signalling, semaphore } := by
  cases Semaphore.moves_of_step hstep with
  | signal hpc =>
    have hbalance := h.balance
    have hadded : th.added = 0 := by rw [added, hrun]
    have htaken : th.taken = 0 := by omega
    have hunbuilt : ¬ (th.ctor = .unbuilt ∨ th.ctor = .failed) := by simp [← h.unborn, hrun]
    have htaken' : taken { th with
        run := .signalling, semaphore := th.semaphore.goTo .created .signalling } = th.taken := by
      simp [taken, Semaphore.goTo_pc_of_ne]
    exact
      { unborn := by simpa using hunbuilt
        waits := by simpa [Semaphore.goTo_pc_of_ne] using h.waits
        waits_idle := fun hne => by simpa [Semaphore.goTo_pc_of_ne] using h.waits_idle hne
        signals := by simp [SemaphorePc.inSignal]
        signals_idle := fun hne => absurd rfl hne
        balance := by
          rw [htaken']
          simp only [added, Semaphore.goTo_pc_self, SemaphorePc.hasAdded, Semaphore.goTo_count]
          omega
        alone := fun hone => by omega }

/-- The constructor returns. -/
lemma construct (hctor : th.ctor = .waiting) (hidle : th.semaphore.pc .creator = .idle) :
    Synchronized { th with ctor := .constructed } := by
  have htaken : th.taken = 1 := by rw [taken, hctor, hidle]; rfl
  have hbalance := h.balance
  have hborn : th.run ≠ .unborn := by simp [h.unborn, hctor]
  rw [htaken] at hbalance
  exact { h with
    unborn := by simpa using hborn
    waits_idle := fun _ => hidle
    balance := hbalance
    alone := fun _ => h.alone htaken }

/-- The semaphore and the two threads stay in step. -/
lemma step (hs : th.semaphore.Sound) {threadId : ℤ} {a : ThreadAction} {th' : Thread C}
    (hstep : th.step threadId a = some th') : th'.Synchronized := by
  have hidle (r : ThreadRun) (hrun : th.run = r) (hr : r ≠ .signalling) :
      th.semaphore.pc .created = .idle := h.signals_idle (by rwa [hrun])
  cases a with
  | wait =>
    obtain ⟨hctor, hstep⟩ := Option.ite_none_right_eq_some.mp hstep
    obtain ⟨semaphore, hsemaphore, rfl⟩ := Option.map_eq_some_iff.mp hstep
    exact h.callWait hctor hsemaphore
  | semaphore a =>
    obtain ⟨ha, hstep⟩ := Option.ite_none_right_eq_some.mp hstep
    obtain ⟨semaphore, hsemaphore, rfl⟩ := Option.map_eq_some_iff.mp hstep
    exact h.semaphoreStep hs ha hsemaphore
  | construct =>
    obtain ⟨⟨hctor, hdone⟩, ⟨⟩⟩ := Option.ite_none_right_eq_some.mp hstep
    exact h.construct hctor hdone
  | setName | setId | setTitle | swap =>
    obtain ⟨hrun, ⟨⟩⟩ := Option.ite_none_right_eq_some.mp hstep
    exact h.runMoves rfl rfl (hrun.trans_ne nofun) nofun (hidle _ hrun nofun)
      (by simp only [added, hrun])
  | signal =>
    obtain ⟨hrun, hstep⟩ := Option.ite_none_right_eq_some.mp hstep
    obtain ⟨semaphore, hsemaphore, rfl⟩ := Option.map_eq_some_iff.mp hstep
    exact h.callSignal hrun hsemaphore
  | call =>
    obtain ⟨⟨hrun, hout⟩, ⟨⟩⟩ := Option.ite_none_right_eq_some.mp hstep
    exact h.runMoves rfl rfl (hrun.trans_ne nofun) nofun hout
      (by simp only [added, hrun, hout]; rfl)

/-- Once the constructor has returned, the created thread is done with the object. -/
lemma not_touches (hctor : th.ctor = .constructed) :
    ¬ th.Touches ∧ (th.run = .signalling ∨ th.run = .called) := by
  have htaken : th.taken = 1 := by rw [taken, hctor]
  have hbalance := h.balance
  have hrun : th.run = .signalling ∨ th.run = .called := by
    cases hrun : th.run with
    | signalling => exact .inl rfl
    | called => exact .inr rfl
    | unborn | entered | named | identified | titled | swapped =>
      simp only [htaken, added, hrun] at hbalance
      omega
  refine ⟨fun htouches => ?_, hrun⟩
  obtain ⟨-, hnotCalled, hbusy⟩ := htouches
  exact hbusy (hrun.resolve_right hnotCalled) (h.alone htaken)

/-- Nothing happens at an object whose thread has not been created. -/
lemma born_of_step {threadId : ℤ} {a : ThreadAction} {th' : Thread C}
    (hstep : th.step threadId a = some th') : th.run ≠ .unborn := by
  intro hrun
  have hctor := h.unborn.mp hrun
  have hcreator : th.semaphore.pc .creator = .idle :=
    h.waits_idle (by rcases hctor with hctor | hctor <;> simp [hctor])
  have hcreated : th.semaphore.pc .created = .idle := h.signals_idle (by simp [hrun])
  have hidle (side : Side) : th.semaphore.pc side = .idle := by
    cases side with
    | creator => exact hcreator
    | created => exact hcreated
  cases a with
  | wait | construct => rcases hctor with hctor | hctor <;> simp [Thread.step, hctor] at hstep
  | setName | setId | setTitle | swap | signal | call => simp [Thread.step, hrun] at hstep
  | semaphore a =>
    obtain ⟨ha, hstep⟩ := Option.ite_none_right_eq_some.mp hstep
    obtain ⟨semaphore, hsemaphore, -⟩ := Option.map_eq_some_iff.mp hstep
    cases Semaphore.moves_of_step hsemaphore with
    | wait _ | signal _ => exact absurd ha Bool.false_ne_true
    | lockWait _ hpc | lockSignal _ hpc | sleep hpc _ | take hpc _ | add hpc | notifyNone hpc _
    | notifySome hpc _ | unlockWait hpc | unlockSignal hpc | wake hpc =>
      simp [hidle] at hpc

/-- The semaphore does not hold up two threads that are both past the `signal`. -/
lemma semaphore_canStep (hs : th.semaphore.Sound) (hctor : th.ctor = .waiting)
    (hcreator : th.semaphore.pc .creator ≠ .idle)
    (hrun : th.semaphore.pc .created ≠ .idle ∨ th.run = .called) :
    ∃ a : SemaphoreAction Side, a.inner = true ∧ a.spurious = false ∧
      (th.semaphore.step a).isSome := by
  refine hs.canStep.resolve_right fun ⟨hrest, hzero⟩ => ?_
  have hasleep := (hrest .creator).resolve_left hcreator
  have hcreated : th.semaphore.pc .created = .idle := by
    refine (hrest .created).resolve_right fun hpc => ?_
    have hsignals := h.signals
    simp [hpc, SemaphorePc.inSignal] at hsignals
  have hcalled := hrun.resolve_left fun hbusy => hbusy hcreated
  have hbalance := h.balance
  rw [hzero .creator hasleep] at hbalance
  simp [taken, added, hctor, hasleep, hcalled, SemaphorePc.hasTaken] at hbalance

/-- While a constructor waits, it gets on or its thread does, without a wake-up from outside. -/
lemma canStep (hs : th.semaphore.Sound) (hctor : th.ctor = .created ∨ th.ctor = .waiting)
    (threadId : ℤ) : ∃ a : ThreadAction, a.spurious = false ∧ (th.step threadId a).isSome := by
  rcases hctor with hctor | hctor
  · have hpc := h.waits_idle (by simp [hctor])
    exact ⟨.wait, rfl, by simp [Thread.step, Semaphore.step, hctor, hpc]⟩
  by_cases hcreator : th.semaphore.pc .creator = .idle
  · exact ⟨.construct, rfl, by simp [Thread.step, hctor, hcreator]⟩
  have hinner (hrun : th.semaphore.pc .created ≠ .idle ∨ th.run = .called) :
      ∃ a : ThreadAction, a.spurious = false ∧ (th.step threadId a).isSome := by
    obtain ⟨a, ha, hspurious, hstep⟩ := h.semaphore_canStep hs hctor hcreator hrun
    exact ⟨.semaphore a, hspurious, by simpa [Thread.step, ha] using hstep⟩
  cases hrun : th.run with
  | unborn => simp [h.unborn, hctor] at hrun
  | entered => exact ⟨.setName, rfl, by simp [Thread.step, hrun]⟩
  | named => exact ⟨.setId, rfl, by simp [Thread.step, hrun]⟩
  | identified => exact ⟨.setTitle, rfl, by simp [Thread.step, hrun]⟩
  | titled => exact ⟨.swap, rfl, by simp [Thread.step, hrun]⟩
  | swapped =>
    have hpc := h.signals_idle (by simp [hrun])
    exact ⟨.signal, rfl, by simp [Thread.step, Semaphore.step, hrun, hpc]⟩
  | signalling =>
    by_cases hcreated : th.semaphore.pc .created = .idle
    · exact ⟨.call, rfl, by simp [Thread.step, hrun, hcreated]⟩
    · exact hinner (.inl hcreated)
  | called => exact hinner (.inr hrun)

end Synchronized

/-! ## What the created thread does to the object -/

section Prepared

variable (threadId : ℤ) (cb : C) (name : Bytes)

/-- `m_id`, when the created thread has got so far. -/
def idAt : ThreadRun → ℤ
  | .unborn | .entered | .named => -1
  | _ => threadId

/-- `m_cb`, when the created thread has got so far. -/
def cbAt : ThreadRun → Option C
  | .entered | .named | .identified | .titled => some cb
  | _ => none

/-- What belongs to the created thread, when it has got so far. -/
def localsAt : ThreadRun → ThreadLocals C
  | .unborn | .entered => .init
  | .named | .identified => { ThreadLocals.init with tThread := true, tThreadName := name }
  | .titled => ⟨true, name, some (title name), none⟩
  | _ => ⟨true, name, some (title name), some cb⟩

/-- The object is as far as the created thread. -/
structure Prepared (th : Thread C) : Prop where
  name_eq : th.run ≠ .unborn → th.name = name
  id_eq : th.id = idAt threadId th.run
  cb_eq : th.cb = cbAt cb th.run
  locals_eq : th.locals = localsAt cb name th.run

lemma prepared_init : (init : Thread C).Prepared threadId cb name :=
  ⟨fun h => absurd rfl h, rfl, rfl, rfl⟩

lemma prepared_create (ok : Bool) : (create cb name ok).Prepared threadId cb name := by
  cases ok with
  | false => exact ⟨fun h => absurd rfl h, rfl, rfl, rfl⟩
  | true => exact ⟨fun _ => rfl, rfl, rfl, rfl⟩

variable {threadId cb name}

lemma Prepared.step {th th' : Thread C} (h : th.Prepared threadId cb name) {a : ThreadAction}
    (hstep : th.step threadId a = some th') : th'.Prepared threadId cb name := by
  obtain ⟨hname, hid, hcb, hlocals⟩ := h
  cases a with
  | wait | semaphore a =>
    obtain ⟨-, hstep⟩ := Option.ite_none_right_eq_some.mp hstep
    obtain ⟨semaphore, -, rfl⟩ := Option.map_eq_some_iff.mp hstep
    exact ⟨hname, hid, hcb, hlocals⟩
  | construct =>
    obtain ⟨-, ⟨⟩⟩ := Option.ite_none_right_eq_some.mp hstep
    exact ⟨hname, hid, hcb, hlocals⟩
  | setName =>
    obtain ⟨hrun, ⟨⟩⟩ := Option.ite_none_right_eq_some.mp hstep
    rw [hrun] at hid hcb hlocals
    have hname := hname (hrun.trans_ne nofun)
    exact ⟨fun _ => hname, hid, hcb, by rw [hlocals, hname]; rfl⟩
  | setId =>
    obtain ⟨hrun, ⟨⟩⟩ := Option.ite_none_right_eq_some.mp hstep
    rw [hrun] at hcb hlocals
    exact ⟨fun _ => hname (hrun.trans_ne nofun), rfl, hcb, hlocals⟩
  | setTitle =>
    obtain ⟨hrun, ⟨⟩⟩ := Option.ite_none_right_eq_some.mp hstep
    rw [hrun] at hid hcb hlocals
    have hname := hname (hrun.trans_ne nofun)
    exact ⟨fun _ => hname, hid, hcb, by rw [hlocals, hname]; rfl⟩
  | swap =>
    obtain ⟨hrun, ⟨⟩⟩ := Option.ite_none_right_eq_some.mp hstep
    rw [hrun] at hid hcb hlocals
    exact ⟨fun _ => hname (hrun.trans_ne nofun), hid, by rw [hlocals]; rfl,
      by rw [hlocals, hcb]; rfl⟩
  | signal =>
    obtain ⟨hrun, hstep⟩ := Option.ite_none_right_eq_some.mp hstep
    obtain ⟨semaphore, -, rfl⟩ := Option.map_eq_some_iff.mp hstep
    rw [hrun] at hid hcb hlocals
    exact ⟨fun _ => hname (hrun.trans_ne nofun), hid, hcb, hlocals⟩
  | call =>
    obtain ⟨⟨hrun, -⟩, ⟨⟩⟩ := Option.ite_none_right_eq_some.mp hstep
    rw [hrun] at hid hcb hlocals
    exact ⟨fun _ => hname (hrun.trans_ne nofun), hid, hcb, hlocals⟩

variable (threadId cb name) in
/-- The invariant of an object. -/
structure Sound (th : Thread C) : Prop where
  semaphore : th.semaphore.Sound
  synchronized : th.Synchronized
  prepared : th.Prepared threadId cb name

lemma sound_init : (init : Thread C).Sound threadId cb name :=
  ⟨Semaphore.sound_init 0, synchronized_init, prepared_init ..⟩

lemma sound_create (ok : Bool) : (create cb name ok).Sound threadId cb name := by
  refine ⟨?_, synchronized_create cb name ok, prepared_create threadId cb name ok⟩
  cases ok with
  | false => exact Semaphore.sound_init 0
  | true => exact Semaphore.sound_init 0

/-- Every step at an object keeps its invariant. -/
theorem Sound.step {th th' : Thread C} (h : th.Sound threadId cb name) {a : ThreadAction}
    (hstep : th.step threadId a = some th') : th'.Sound threadId cb name := by
  refine ⟨?_, h.synchronized.step h.semaphore hstep, h.prepared.step hstep⟩
  cases a with
  | wait | semaphore a | signal =>
    obtain ⟨-, hstep⟩ := Option.ite_none_right_eq_some.mp hstep
    obtain ⟨semaphore, hsemaphore, rfl⟩ := Option.map_eq_some_iff.mp hstep
    exact h.semaphore.step hsemaphore
  | construct | setName | setId | setTitle | swap | call =>
    obtain ⟨-, ⟨⟩⟩ := Option.ite_none_right_eq_some.mp hstep
    exact h.semaphore

end Prepared

/-! ## How long the construction takes -/

/-- What is left of the constructor, without its call of the semaphore. -/
def ctorWork : ThreadCtor → ℕ
  | .unbuilt => 19
  | .created => 6
  | .waiting => 1
  | .constructed | .failed => 0

/-- What is left of `Thread::run` up to the call of `cb`, without its call of the semaphore. -/
def runWork : ThreadRun → ℕ
  | .entered => 12
  | .named => 11
  | .identified => 10
  | .titled => 9
  | .swapped => 8
  | .signalling => 1
  | .unborn | .called => 0

/-- What is left of the construction. -/
def work (th : Thread C) : ℕ := ctorWork th.ctor + runWork th.run + th.semaphore.work

lemma work_init : (init : Thread C).work = 19 := rfl

lemma Synchronized.work_unbuilt {th : Thread C} (h : th.Synchronized) (hctor : th.ctor = .unbuilt) :
    th.work = 19 := by
  have hrun : th.run = .unborn := h.unborn.mpr (.inl hctor)
  have hsemaphore : th.semaphore.work = 0 := by
    refine Finset.sum_eq_zero fun side _ => ?_
    cases side with
    | creator => rw [h.waits_idle (by simp [hctor])]; rfl
    | created => rw [h.signals_idle (by simp [hrun])]; rfl
  rw [work, hctor, hrun, hsemaphore]
  rfl

lemma work_create (cb : C) (name : Bytes) (ok : Bool) : (create cb name ok).work ≤ 18 := by
  cases ok with
  | false => exact Nat.zero_le 18
  | true => exact (rfl : (create cb name true).work = 18).le

/-- A step is one step less, unless a sleeper wakes up by itself. -/
lemma work_step {th th' : Thread C} {threadId : ℤ} {a : ThreadAction}
    (hstep : th.step threadId a = some th') : th'.work + 1 ≤ th.work + 3 * a.spurious.toNat := by
  cases a with
  | wait | signal =>
    obtain ⟨hpc, hstep⟩ := Option.ite_none_right_eq_some.mp hstep
    obtain ⟨semaphore, hsemaphore, rfl⟩ := Option.map_eq_some_iff.mp hstep
    have hwork := Semaphore.work_step hsemaphore
    simp only [work, hpc, ctorWork, runWork, SemaphoreAction.brings] at hwork ⊢
    omega
  | semaphore a =>
    obtain ⟨ha, hstep⟩ := Option.ite_none_right_eq_some.mp hstep
    obtain ⟨semaphore, hsemaphore, rfl⟩ := Option.map_eq_some_iff.mp hstep
    have hwork := Semaphore.work_step hsemaphore
    have hbrings : a.brings = 3 * a.spurious.toNat := by
      cases a <;> simp [SemaphoreAction.inner, SemaphoreAction.brings,
        SemaphoreAction.spurious] at ha ⊢
    simp only [work, ThreadAction.spurious]
    omega
  | construct | call =>
    obtain ⟨⟨hpc, -⟩, ⟨⟩⟩ := Option.ite_none_right_eq_some.mp hstep
    simp only [work, hpc, ctorWork, runWork]
    omega
  | setName | setId | setTitle | swap =>
    obtain ⟨hpc, ⟨⟩⟩ := Option.ite_none_right_eq_some.mp hstep
    simp only [work, hpc, runWork]
    omega

/-! ## How far the construction gets -/

/-- A thread has been created for the object. -/
def Live (th : Thread C) : Prop :=
  th.ctor = .created ∨ th.ctor = .waiting ∨ th.ctor = .constructed

/-- What a step does not undo. -/
lemma kept_step {th th' : Thread C} {threadId : ℤ} {a : ThreadAction}
    (hstep : th.step threadId a = some th') :
    (th.Live → th'.Live) ∧ (th.ctor = .constructed → th'.ctor = .constructed) ∧
      (th.run = .called → th'.run = .called) := by
  cases a with
  | wait =>
    obtain ⟨hctor, hstep⟩ := Option.ite_none_right_eq_some.mp hstep
    obtain ⟨semaphore, -, rfl⟩ := Option.map_eq_some_iff.mp hstep
    exact ⟨fun _ => .inr (.inl rfl), fun hbuilt => by simp [hctor] at hbuilt, fun h => h⟩
  | semaphore a =>
    obtain ⟨-, hstep⟩ := Option.ite_none_right_eq_some.mp hstep
    obtain ⟨semaphore, -, rfl⟩ := Option.map_eq_some_iff.mp hstep
    exact ⟨fun h => h, fun h => h, fun h => h⟩
  | construct =>
    obtain ⟨-, ⟨⟩⟩ := Option.ite_none_right_eq_some.mp hstep
    exact ⟨fun _ => .inr (.inr rfl), fun _ => rfl, fun h => h⟩
  | setName | setId | setTitle | swap =>
    obtain ⟨hrun, ⟨⟩⟩ := Option.ite_none_right_eq_some.mp hstep
    exact ⟨fun h => h, fun h => h, fun hcalled => by simp [hrun] at hcalled⟩
  | signal =>
    obtain ⟨hrun, hstep⟩ := Option.ite_none_right_eq_some.mp hstep
    obtain ⟨semaphore, -, rfl⟩ := Option.map_eq_some_iff.mp hstep
    exact ⟨fun h => h, fun h => h, fun hcalled => by simp [hrun] at hcalled⟩
  | call =>
    obtain ⟨-, ⟨⟩⟩ := Option.ite_none_right_eq_some.mp hstep
    exact ⟨fun h => h, fun h => h, fun _ => rfl⟩

end Thread

end CoroutineGateway
