import CoroutineGateway.Framework.Census
import Mathlib.Algebra.Order.BigOperators.Group.Finset

/-!
# A counting semaphore made of a mutex and a condition variable

`wait` takes the mutex, sleeps on the condition variable while the count is 0, and decrements the
count.  `signal` takes the mutex, increments the count and wakes up one sleeper, if there is one.
A sleeper may also wake up by itself.

A wake-up is *lost* when a thread sleeps on although the count is positive and nobody else will look
at the count.  The invariant against it (`Semaphore.Sound`): while a thread sleeps, the count is at
most the number of the threads that look at it still, or are about to wake up one.
`Sound.canStep` is what follows for progress, and `work` measures how long the calls can go on.
-/

namespace CoroutineGateway

/-- Where a thread stands in an operation of the semaphore. -/
inductive SemaphorePc where
  | idle
  /-- In `wait`, without the mutex: at the beginning, or after a wake-up. -/
  | entering
  /-- In `wait`, with the mutex, before the test of the count. -/
  | testing
  /-- In `wait`, asleep on the condition variable. -/
  | asleep
  /-- In `wait`, with the mutex, after the count has been decremented. -/
  | taken
  /-- In `signal`, without the mutex. -/
  | signalling
  /-- In `signal`, with the mutex, before the count is incremented. -/
  | counting
  /-- In `signal`, with the mutex, before the notification. -/
  | notifying
  /-- In `signal`, with the mutex, after the notification. -/
  | notified
  deriving DecidableEq

namespace SemaphorePc

/-- The thread has the mutex. -/
def holds : SemaphorePc → Bool
  | .testing | .taken | .counting | .notifying | .notified => true
  | _ => false

/-- The thread is going to look at the count, or to make another one do so. -/
def looks : SemaphorePc → ℕ
  | .entering | .testing | .notifying => 1
  | _ => 0

/-- What is left of the operation, without a wake-up from outside; that of `signal` includes what
it wakes up. -/
def work : SemaphorePc → ℕ
  | .idle => 0
  | .taken | .notified => 1
  | .asleep => 2
  | .testing => 3
  | .entering | .notifying => 4
  | .counting => 5
  | .signalling => 6

end SemaphorePc

/-- A semaphore, and where the threads that use it stand. -/
structure Semaphore (T : Type*) where
  count : ℕ
  mutex : Option T
  pc : T → SemaphorePc

/-- The steps of a semaphore. -/
inductive SemaphoreAction (T : Type*) where
  /-- `wait` is called. -/
  | wait (t : T)
  /-- `signal` is called. -/
  | signal (t : T)
  /-- The mutex is taken. -/
  | lock (t : T)
  /-- The test of the count, with what depends on it. -/
  | test (t : T)
  /-- The count is incremented. -/
  | add (t : T)
  /-- The notification, and the thread that it wakes up. -/
  | notify (t : T) (u : Option T)
  | unlock (t : T)
  /-- A sleeper wakes up by itself. -/
  | wake (t : T)

namespace SemaphoreAction

variable {T : Type*}

/-- The step is one inside of an operation. -/
def inner : SemaphoreAction T → Bool
  | .wait _ | .signal _ => false
  | _ => true

/-- A sleeper wakes up by itself. -/
def spurious : SemaphoreAction T → Bool
  | .wake _ => true
  | _ => false

/-- What a step adds to the work, the step itself included. -/
def brings : SemaphoreAction T → ℕ
  | .wait _ => 5
  | .signal _ => 7
  | .wake _ => 3
  | _ => 0

end SemaphoreAction

namespace Semaphore

variable {T : Type*}

/-- A semaphore that nobody uses. -/
def init (count : ℕ) : Semaphore T := ⟨count, none, fun _ => .idle⟩

/-- The mutex belongs to the thread that is between taking it and giving it back. -/
def Exclusive (s : Semaphore T) : Prop := ∀ t, s.mutex = some t ↔ (s.pc t).holds = true

/-- Two threads never have the mutex at once. -/
lemma Exclusive.eq_of_holds {s : Semaphore T} (hs : s.Exclusive) {t u : T}
    (ht : (s.pc t).holds = true) (hu : (s.pc u).holds = true) : t = u :=
  Option.some.inj (((hs t).mpr ht).symm.trans ((hs u).mpr hu))

section Step

variable [DecidableEq T]

/-- A thread goes on. -/
def goTo (s : Semaphore T) (t : T) (p : SemaphorePc) : Semaphore T :=
  { s with pc := Function.update s.pc t p }

@[simp] lemma goTo_pc_self (s : Semaphore T) (t : T) (p : SemaphorePc) : (s.goTo t p).pc t = p :=
  Function.update_self ..

lemma goTo_pc_of_ne (s : Semaphore T) {t u : T} (h : u ≠ t) (p : SemaphorePc) :
    (s.goTo t p).pc u = s.pc u :=
  Function.update_of_ne h ..

@[simp] lemma goTo_count (s : Semaphore T) (t : T) (p : SemaphorePc) :
    (s.goTo t p).count = s.count := rfl

@[simp] lemma goTo_mutex (s : Semaphore T) (t : T) (p : SemaphorePc) :
    (s.goTo t p).mutex = s.mutex := rfl

namespace Exclusive

variable {s : Semaphore T} (hs : s.Exclusive)
include hs

/-- A thread goes on and keeps the mutex, or keeps being without it. -/
lemma goTo {t : T} {p : SemaphorePc} (hp : p.holds = (s.pc t).holds) : (s.goTo t p).Exclusive := by
  intro u
  rw [goTo_mutex, hs u]
  by_cases hu : u = t
  · rw [hu, goTo_pc_self, hp]
  · rw [s.goTo_pc_of_ne hu]

/-- A thread takes the mutex. -/
lemma lock {t : T} {p : SemaphorePc} (hmutex : s.mutex = none) (hp : p.holds = true) :
    Exclusive { s.goTo t p with mutex := some t } := by
  intro u
  by_cases hu : u = t
  · simp [hu, hp]
  · have hother : ¬ (s.pc u).holds = true := by
      rw [← hs u, hmutex]
      nofun
    simpa [s.goTo_pc_of_ne hu, hother] using Ne.symm hu

/-- A thread gives the mutex back. -/
lemma unlock {t : T} {p : SemaphorePc} (ht : (s.pc t).holds = true) (hp : p.holds = false) :
    Exclusive { s.goTo t p with mutex := none } := by
  intro u
  by_cases hu : u = t
  · simp [hu, hp]
  · have hother : ¬ (s.pc u).holds = true := fun h => hu (hs.eq_of_holds h ht)
    simp [s.goTo_pc_of_ne hu, hother]

end Exclusive

variable [Fintype T]

/-! ## The steps -/

/-- The step function. -/
def step (s : Semaphore T) : SemaphoreAction T → Option (Semaphore T)
  | .wait t => if s.pc t = .idle then some (s.goTo t .entering) else none
  | .signal t => if s.pc t = .idle then some (s.goTo t .signalling) else none
  | .lock t =>
    if s.mutex = none ∧ s.pc t = .entering then
      some { s.goTo t .testing with mutex := some t }
    else if s.mutex = none ∧ s.pc t = .signalling then
      some { s.goTo t .counting with mutex := some t }
    else none
  | .test t =>
    if s.pc t = .testing then
      if s.count = 0 then some { s.goTo t .asleep with mutex := none }
      else some { s.goTo t .taken with count := s.count - 1 }
    else none
  | .add t =>
    if s.pc t = .counting then some { s.goTo t .notifying with count := s.count + 1 } else none
  | .notify t none =>
    if s.pc t = .notifying ∧ ∀ v, s.pc v ≠ .asleep then some (s.goTo t .notified) else none
  | .notify t (some u) =>
    if s.pc t = .notifying ∧ s.pc u = .asleep then
      some ((s.goTo t .notified).goTo u .entering)
    else none
  | .unlock t =>
    if s.pc t = .taken ∨ s.pc t = .notified then some { s.goTo t .idle with mutex := none }
    else none
  | .wake t => if s.pc t = .asleep then some (s.goTo t .entering) else none

/-- What a step does, branch by branch. -/
inductive Moves (s : Semaphore T) : SemaphoreAction T → Semaphore T → Prop
  | wait {t : T} (hpc : s.pc t = .idle) : Moves s (.wait t) (s.goTo t .entering)
  | signal {t : T} (hpc : s.pc t = .idle) : Moves s (.signal t) (s.goTo t .signalling)
  | lockWait {t : T} (hmutex : s.mutex = none) (hpc : s.pc t = .entering) :
    Moves s (.lock t) { s.goTo t .testing with mutex := some t }
  | lockSignal {t : T} (hmutex : s.mutex = none) (hpc : s.pc t = .signalling) :
    Moves s (.lock t) { s.goTo t .counting with mutex := some t }
  | sleep {t : T} (hpc : s.pc t = .testing) (hcount : s.count = 0) :
    Moves s (.test t) { s.goTo t .asleep with mutex := none }
  | take {t : T} (hpc : s.pc t = .testing) (hcount : 0 < s.count) :
    Moves s (.test t) { s.goTo t .taken with count := s.count - 1 }
  | add {t : T} (hpc : s.pc t = .counting) :
    Moves s (.add t) { s.goTo t .notifying with count := s.count + 1 }
  | notifyNone {t : T} (hpc : s.pc t = .notifying) (hnone : ∀ v, s.pc v ≠ .asleep) :
    Moves s (.notify t none) (s.goTo t .notified)
  | notifySome {t u : T} (hpc : s.pc t = .notifying) (hsleeper : s.pc u = .asleep) :
    Moves s (.notify t (some u)) ((s.goTo t .notified).goTo u .entering)
  | unlockWait {t : T} (hpc : s.pc t = .taken) :
    Moves s (.unlock t) { s.goTo t .idle with mutex := none }
  | unlockSignal {t : T} (hpc : s.pc t = .notified) :
    Moves s (.unlock t) { s.goTo t .idle with mutex := none }
  | wake {t : T} (hpc : s.pc t = .asleep) : Moves s (.wake t) (s.goTo t .entering)

lemma moves_of_step {s s' : Semaphore T} {a : SemaphoreAction T} (h : s.step a = some s') :
    s.Moves a s' := by
  cases a with
  | wait t =>
    obtain ⟨hpc, ⟨⟩⟩ := Option.ite_none_right_eq_some.mp h
    exact .wait hpc
  | signal t =>
    obtain ⟨hpc, ⟨⟩⟩ := Option.ite_none_right_eq_some.mp h
    exact .signal hpc
  | lock t =>
    simp only [step] at h
    split_ifs at h with henter hsignal
    · obtain rfl := Option.some.inj h
      exact .lockWait henter.1 henter.2
    · obtain rfl := Option.some.inj h
      exact .lockSignal hsignal.1 hsignal.2
  | test t =>
    simp only [step] at h
    split_ifs at h with hpc hcount
    · obtain rfl := Option.some.inj h
      exact .sleep hpc hcount
    · obtain rfl := Option.some.inj h
      exact .take hpc (Nat.pos_of_ne_zero hcount)
  | add t =>
    obtain ⟨hpc, ⟨⟩⟩ := Option.ite_none_right_eq_some.mp h
    exact .add hpc
  | notify t u =>
    cases u with
    | none =>
      obtain ⟨⟨hpc, hnone⟩, ⟨⟩⟩ := Option.ite_none_right_eq_some.mp h
      exact .notifyNone hpc hnone
    | some u =>
      obtain ⟨⟨hpc, hsleeper⟩, ⟨⟩⟩ := Option.ite_none_right_eq_some.mp h
      exact .notifySome hpc hsleeper
  | unlock t =>
    obtain ⟨hpc | hpc, ⟨⟩⟩ := Option.ite_none_right_eq_some.mp h
    · exact .unlockWait hpc
    · exact .unlockSignal hpc
  | wake t =>
    obtain ⟨hpc, ⟨⟩⟩ := Option.ite_none_right_eq_some.mp h
    exact .wake hpc

/-! ## How long the calls go on -/

/-- What is left of all the operations. -/
def work (s : Semaphore T) : ℕ := ∑ t, (s.pc t).work

lemma work_goTo (s : Semaphore T) (t : T) (p : SemaphorePc) :
    (s.goTo t p).work + (s.pc t).work = s.work + p.work :=
  sum_update_add s.pc SemaphorePc.work t p

/-- A step inside of an operation is one step less, unless a sleeper wakes up by itself. -/
theorem work_step {s s' : Semaphore T} {a : SemaphoreAction T} (h : s.step a = some s') :
    s'.work + 1 ≤ s.work + a.brings := by
  have hone {t : T} {p q : SemaphorePc} (hpc : s.pc t = p) (b : ℕ)
      (hdiff : q.work + 1 ≤ p.work + b) : (s.goTo t q).work + 1 ≤ s.work + b := by
    have hwork := s.work_goTo t q
    rw [hpc] at hwork
    omega
  cases moves_of_step h with
  | wait hpc | signal hpc | lockWait _ hpc | lockSignal _ hpc | sleep hpc _ | take hpc _
  | add hpc | notifyNone hpc _ | unlockWait hpc | unlockSignal hpc | wake hpc =>
    exact hone hpc _ (by simp [SemaphorePc.work, SemaphoreAction.brings])
  | @notifySome t u hpc hsleeper =>
    have hne : u ≠ t := by
      rintro rfl
      simp [hpc] at hsleeper
    have hfirst := s.work_goTo t .notified
    have hsecond := (s.goTo t .notified).work_goTo u .entering
    rw [hpc] at hfirst
    rw [s.goTo_pc_of_ne hne, hsleeper] at hsecond
    simp only [SemaphorePc.work, SemaphoreAction.brings] at hfirst hsecond ⊢
    omega

/-! ## No wake-up is lost -/

/-- How many threads are going to look at the count, or to make another one do so. -/
def looking (s : Semaphore T) : ℕ := ∑ t, (s.pc t).looks

lemma looking_goTo (s : Semaphore T) (t : T) (p : SemaphorePc) :
    (s.goTo t p).looking + (s.pc t).looks = s.looking + p.looks :=
  sum_update_add s.pc SemaphorePc.looks t p

/-- The invariant. -/
structure Sound (s : Semaphore T) : Prop where
  exclusive : s.Exclusive
  /-- A positive count is going to be seen. -/
  heard : ∀ t, s.pc t = .asleep → s.count ≤ s.looking

omit [DecidableEq T] in
lemma sound_init (count : ℕ) : (init count : Semaphore T).Sound where
  exclusive t := by simp [init, SemaphorePc.holds]
  heard t h := by simp [init] at h

namespace Sound

variable {s : Semaphore T} (hs : s.Sound)
include hs

/-- A thread goes on, and the count grows by no more than what is going to look at it. -/
lemma heard_goTo {t : T} {p q : SemaphorePc} {count : ℕ} (hpc : s.pc t = q) (hp : p ≠ .asleep)
    (hcount : count + q.looks ≤ s.count + p.looks) {u : T} (hu : (s.goTo t p).pc u = .asleep) :
    count ≤ (s.goTo t p).looking := by
  have hne : u ≠ t := by
    rintro rfl
    exact hp (by rwa [goTo_pc_self] at hu)
  rw [s.goTo_pc_of_ne hne] at hu
  have hheard := hs.heard u hu
  have hlooking := s.looking_goTo t p
  rw [hpc] at hlooking
  omega

/-- The notification makes one sleeper look in the place of the thread that has counted. -/
lemma heard_notify {t u : T} (hpc : s.pc t = .notifying) (hsleeper : s.pc u = .asleep) :
    s.count ≤ ((s.goTo t .notified).goTo u .entering).looking := by
  have hne : u ≠ t := by
    rintro rfl
    simp [hpc] at hsleeper
  have hheard := hs.heard u hsleeper
  have hfirst := s.looking_goTo t .notified
  have hsecond := (s.goTo t .notified).looking_goTo u .entering
  rw [hpc] at hfirst
  rw [s.goTo_pc_of_ne hne, hsleeper] at hsecond
  simp only [SemaphorePc.looks] at hfirst hsecond
  omega

/-- The mutex excludes, and no wake-up is lost, whatever the next step is. -/
theorem step {s' : Semaphore T} {a : SemaphoreAction T} (h : s.step a = some s') : s'.Sound := by
  cases moves_of_step h with
  | wait hpc | signal hpc | wake hpc | add hpc =>
    exact ⟨hs.exclusive.goTo (by rw [hpc]; rfl),
      fun _ => hs.heard_goTo hpc (by decide) (by simp [SemaphorePc.looks])⟩
  | take hpc hcount =>
    exact ⟨hs.exclusive.goTo (by rw [hpc]; rfl),
      fun _ => hs.heard_goTo hpc (by decide) (by simp only [SemaphorePc.looks]; omega)⟩
  | lockWait hmutex hpc | lockSignal hmutex hpc =>
    exact ⟨hs.exclusive.lock hmutex rfl,
      fun _ => hs.heard_goTo hpc (by decide) (by simp [SemaphorePc.looks])⟩
  | sleep hpc hcount =>
    exact ⟨hs.exclusive.unlock (by rw [hpc]; rfl) rfl, fun _ _ => hcount.le.trans (Nat.zero_le _)⟩
  | unlockWait hpc | unlockSignal hpc =>
    exact ⟨hs.exclusive.unlock (by rw [hpc]; rfl) rfl,
      fun _ => hs.heard_goTo hpc (by decide) (by simp [SemaphorePc.looks])⟩
  | @notifyNone t hpc hnone =>
    refine ⟨hs.exclusive.goTo (by rw [hpc]; rfl), fun u hu => ?_⟩
    by_cases hut : u = t
    · simp [hut] at hu
    · rw [s.goTo_pc_of_ne hut] at hu
      exact absurd hu (hnone u)
  | @notifySome t u hpc hsleeper =>
    have hne : u ≠ t := by
      rintro rfl
      simp [hpc] at hsleeper
    refine ⟨(hs.exclusive.goTo (by rw [hpc]; rfl)).goTo ?_, fun _ _ => hs.heard_notify hpc hsleeper⟩
    rw [s.goTo_pc_of_ne hne, hsleeper]
    rfl

omit hs in
/-- Whoever has the mutex can go on. -/
lemma canStep_of_holds {t : T} (ht : (s.pc t).holds = true) :
    ∃ a : SemaphoreAction T, a.inner = true ∧ a.spurious = false ∧ (s.step a).isSome := by
  cases hpc : s.pc t with
  | testing =>
    refine ⟨.test t, rfl, rfl, ?_⟩
    by_cases hcount : s.count = 0
    · simp [Semaphore.step, hpc, hcount]
    · simp [Semaphore.step, hpc, hcount]
  | taken | notified => exact ⟨.unlock t, rfl, rfl, by simp [Semaphore.step, hpc]⟩
  | counting => exact ⟨.add t, rfl, rfl, by simp [Semaphore.step, hpc]⟩
  | notifying =>
    by_cases hsleeper : ∃ u, s.pc u = .asleep
    · obtain ⟨u, hu⟩ := hsleeper
      exact ⟨.notify t (some u), rfl, rfl, by simp [Semaphore.step, hpc, hu]⟩
    · exact ⟨.notify t none, rfl, rfl, by simpa [Semaphore.step, hpc] using hsleeper⟩
  | idle | entering | asleep | signalling => simp [hpc, SemaphorePc.holds] at ht

/-- **No thread is stuck at a positive count.**  If no operation can go on, then all of them are
asleep; and if there is one, the count is 0. -/
theorem canStep :
    (∃ a : SemaphoreAction T, a.inner = true ∧ a.spurious = false ∧ (s.step a).isSome) ∨
      (∀ t, s.pc t = .idle ∨ s.pc t = .asleep) ∧ ∀ t, s.pc t = .asleep → s.count = 0 := by
  by_cases hholder : ∃ t, (s.pc t).holds = true
  · obtain ⟨t, ht⟩ := hholder
    exact .inl (canStep_of_holds ht)
  have hmutex : s.mutex = none :=
    Option.eq_none_iff_forall_ne_some.mpr fun t ht => hholder ⟨t, (hs.exclusive t).mp ht⟩
  by_cases hlock : ∃ t, s.pc t = .entering ∨ s.pc t = .signalling
  · obtain ⟨t, ht⟩ := hlock
    refine .inl ⟨.lock t, rfl, rfl, ?_⟩
    rcases ht with ht | ht
    · simp [Semaphore.step, hmutex, ht]
    · simp [Semaphore.step, hmutex, ht]
  have hrest (t : T) : s.pc t = .idle ∨ s.pc t = .asleep := by
    have hfree : ¬ (s.pc t).holds = true := fun h => hholder ⟨t, h⟩
    have hwants : ¬ (s.pc t = .entering ∨ s.pc t = .signalling) := fun h => hlock ⟨t, h⟩
    cases hpc : s.pc t <;> simp [hpc, SemaphorePc.holds] at hfree hwants ⊢
  refine .inr ⟨hrest, fun t ht => ?_⟩
  have hlooking : s.looking = 0 := by
    refine Finset.sum_eq_zero fun u _ => ?_
    rcases hrest u with hu | hu
    · rw [hu]; rfl
    · rw [hu]; rfl
  have hheard := hs.heard t ht
  omega

end Sound

end Step

end Semaphore

end CoroutineGateway
