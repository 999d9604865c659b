import CoroutineGateway.Construction.Scheduler
import Mathlib.Order.Nat

/-!
# A task fiber runs on at most one worker

`do_io` registers its fiber before it yields, so the fiber can be queued, dequeued by another
worker, and even be queued several times while it is still `RUNNING`.  What keeps two workers
out of one fiber is `Fiber::m_mutex`: the holder of the mutex of `f` is the one worker that is
past the lock and before the unlock of `f`, and `f` is `RUNNING` exactly while that worker is
inside `resume`.  Whoever gets the mutex afterwards therefore finds the fiber `READY` or `TERM`.
-/

namespace CoroutineGateway

namespace Phase

variable {C : Type*}

/-- The fiber whose mutex the worker holds. -/
def held : Phase C → Option ℕ
  | .exec _ (.locked f) | .exec _ (.inside f) | .exec _ (.left f) => some f
  | _ => none

/-- The fiber the worker is inside. -/
def inside : Phase C → Option ℕ
  | .exec _ (.inside f) => some f
  | _ => none

/-- The fiber that was made for the callback of the worker and not resumed yet. -/
def prepared : Phase C → Option ℕ
  | .exec t (.locked f) => if t.fiber = none then some f else none
  | _ => none

lemma held_of_inside {p : Phase C} {f : ℕ} (h : p.inside = some f) : p.held = some f := by
  unfold inside at h
  split at h
  · simpa [held] using h
  · cases h

end Phase

namespace Scheduler

variable {W O C : Type*}

/-- A task that `scheduleLock` accepts: not empty, and its fiber exists. -/
def Formed (fibers : ℕ) (t : ScheduleTask ℕ C) : Prop :=
  t.nonempty ∧ ∀ f ∈ t.fiber, f < fibers

lemma formed_mono {n m : ℕ} {t : ScheduleTask ℕ C} (h : Formed n t) (hnm : n ≤ m) :
    Formed m t :=
  ⟨h.1, fun f hf => (h.2 f hf).trans_le hnm⟩

/-- What ties the fibers, their mutexes, the queue and the workers together. -/
structure FiberInvariant (s : Scheduler W O C) : Prop where
  holder : ∀ f w, s.mutex f = some w ↔ (s.phase w).held = some f
  running : ∀ f, s.state f = .running ↔ ∃ w, (s.phase w).inside = some f
  prepared : ∀ w f, (s.phase w).prepared = some f → s.state f = .ready
  fresh : ∀ f, s.fibers ≤ f → s.state f = .ready ∧ s.mutex f = none
  queued : ∀ t ∈ s.tasks, Formed s.fibers t
  taken : ∀ w, ∀ t ∈ (s.phase w).job, Formed s.fibers t
  assertions : s.aborted = false

lemma fiberInvariant_init : (init : Scheduler W O C).FiberInvariant := by
  constructor <;> simp [init, Phase.held, Phase.inside, Phase.prepared, Phase.job]

namespace FiberInvariant

variable {s s' : Scheduler W O C}

lemma prepared_held {p : Phase C} {f : ℕ} (h : p.prepared = some f) : p.held = some f := by
  unfold Phase.prepared at h
  split at h
  · simpa [Phase.held] using (Option.ite_none_right_eq_some.mp h).2
  · cases h

/-- Two workers never hold the mutex of one fiber. -/
lemma held_unique (hs : s.FiberInvariant) {v w : W} {f : ℕ} (hv : (s.phase v).held = some f)
    (hw : (s.phase w).held = some f) : v = w :=
  Option.some.inj (((hs.holder f v).mpr hv).symm.trans ((hs.holder f w).mpr hw))

lemma held_lt (hs : s.FiberInvariant) {w : W} {f : ℕ} (hw : (s.phase w).held = some f) :
    f < s.fibers := by
  by_contra hf
  have hnone := (hs.fresh f (Nat.not_lt.mp hf)).2
  rw [(hs.holder f w).mpr hw] at hnone
  cases hnone

/-- A step that changes neither the workers nor the fibers. -/
lemma congr (hs : s.FiberInvariant) (hphase : s'.phase = s.phase) (hmutex : s'.mutex = s.mutex)
    (hstate : s'.state = s.state) (hfibers : s'.fibers = s.fibers)
    (htasks : ∀ t ∈ s'.tasks, Formed s.fibers t) (haborted : s'.aborted = s.aborted) :
    s'.FiberInvariant where
  holder := by rw [hphase, hmutex]; exact hs.holder
  running := by rw [hphase, hstate]; exact hs.running
  prepared := by rw [hphase, hstate]; exact hs.prepared
  fresh := by rw [hfibers, hmutex, hstate]; exact hs.fresh
  queued := by rw [hfibers]; exact htasks
  taken := by rw [hphase, hfibers]; exact hs.taken
  assertions := haborted.trans hs.assertions

/-- The mutex of a fiber that stays held does not change. -/
lemma mutex_eq (hs : s.FiberInvariant) {w : W} {f : ℕ}
    (hheld : (s.phase w).held = some f) :
    s.mutex = Function.update s.mutex f (some w) := by
  rw [← (hs.holder f w).mpr hheld, Function.update_eq_self]

/-- Whoever has the mutex of a fiber and is not inside it finds it `READY` or `TERM`. -/
lemma not_running (hs : s.FiberInvariant) {w : W} {f : ℕ}
    (hheld : (s.phase w).held = some f) (hinside : (s.phase w).inside = none) :
    s.state f ≠ .running := by
  intro hrun
  obtain ⟨v, hv⟩ := (hs.running f).mp hrun
  obtain rfl := hs.held_unique (Phase.held_of_inside hv) hheld
  rw [hinside] at hv
  cases hv

/-- The assertion of `Fiber::resume` holds at every call of `run()`. -/
lemma ready (hs : s.FiberInvariant) {w : W} {t : ScheduleTask ℕ C} {f : ℕ}
    (hphase : s.phase w = .exec t (.locked f)) (hcall : ¬ (t.fiber.isSome ∧ s.state f = .term)) :
    s.state f = .ready := by
  cases hfiber : t.fiber with
  | none => exact hs.prepared w f (by simp [hphase, Phase.prepared, hfiber])
  | some g =>
    have hrun := hs.not_running (w := w) (f := f) (by simp [hphase, Phase.held])
      (by simp [hphase, Phase.inside])
    have hterm : s.state f ≠ .term := fun h => hcall ⟨by simp [hfiber], h⟩
    cases hstate : s.state f with
    | ready => rfl
    | running => exact absurd hstate hrun
    | term => exact absurd hstate hterm

lemma spawn (hs : s.FiberInvariant) :
    ({ s with fibers := s.fibers + 1, state := Function.update s.state s.fibers .ready } :
      Scheduler W O C).FiberInvariant := by
  have hstate : Function.update s.state s.fibers .ready = s.state :=
    Function.update_eq_self_iff.mpr (hs.fresh s.fibers le_rfl).1.symm
  rw [hstate]
  exact {
    holder := hs.holder
    running := hs.running
    prepared := hs.prepared
    fresh := fun f hf => hs.fresh f ((Nat.le_succ _).trans hf)
    queued := fun t ht => formed_mono (hs.queued t ht) (Nat.le_succ _)
    taken := fun w t ht => formed_mono (hs.taken w t ht) (Nat.le_succ _)
    assertions := hs.assertions }

variable [DecidableEq W]

/-- A worker moves on without touching a fiber or a mutex. -/
lemma advance (hs : s.FiberInvariant) (w : W) (p : Phase C)
    (hphase : s'.phase = Function.update s.phase w p) (hmutex : s'.mutex = s.mutex)
    (hstate : s'.state = s.state) (hfibers : s'.fibers = s.fibers)
    (haborted : s'.aborted = s.aborted) (hheld : p.held = (s.phase w).held)
    (hinside : p.inside = (s.phase w).inside) (hprepared : p.prepared = none)
    (htasks : ∀ t ∈ s'.tasks, Formed s.fibers t) (hjob : ∀ t ∈ p.job, Formed s.fibers t) :
    s'.FiberInvariant where
  holder f v := by
    rw [hphase, hmutex, hs.holder]
    by_cases hv : v = w
    · subst hv
      rw [Function.update_self, hheld]
    · rw [Function.update_of_ne hv]
  running f := by
    rw [hphase, hstate, hs.running]
    refine exists_congr fun v => ?_
    by_cases hv : v = w
    · subst hv
      rw [Function.update_self, hinside]
    · rw [Function.update_of_ne hv]
  prepared v f hf := by
    rw [hphase] at hf
    rw [hstate]
    by_cases hv : v = w
    · subst hv
      rw [Function.update_self, hprepared] at hf
      cases hf
    · rw [Function.update_of_ne hv] at hf
      exact hs.prepared v f hf
  fresh := by rw [hfibers, hmutex, hstate]; exact hs.fresh
  queued := by rw [hfibers]; exact htasks
  taken v t ht := by
    rw [hphase] at ht
    rw [hfibers]
    by_cases hv : v = w
    · subst hv
      rw [Function.update_self] at ht
      exact hjob t ht
    · rw [Function.update_of_ne hv] at ht
      exact hs.taken v t ht
  assertions := haborted.trans hs.assertions

/-- A worker moves on and changes one fiber, which no other worker holds. -/
lemma change (hs : s.FiberInvariant) (w : W) (p : Phase C) (f : ℕ) (m : Option W)
    (r : FiberState) (hphase : s'.phase = Function.update s.phase w p)
    (hmutex : s'.mutex = Function.update s.mutex f m)
    (hstate : s'.state = Function.update s.state f r)
    (hfibers : s.fibers ≤ s'.fibers) (hf : f < s'.fibers) (htasks : s'.tasks = s.tasks)
    (haborted : s'.aborted = s.aborted) (hold : ∀ g, (s.phase w).held = some g → g = f)
    (hnew : ∀ g, p.held = some g → g = f) (hothers : ∀ v, v ≠ w → (s.phase v).held ≠ some f)
    (hm : ∀ v, m = some v ↔ v = w ∧ p.held = some f)
    (hr : r = .running ↔ p.inside = some f) (hprepared : p.prepared = some f → r = .ready)
    (hjob : ∀ t ∈ p.job, Formed s'.fibers t) : s'.FiberInvariant where
  holder g v := by
    rw [hphase, hmutex]
    by_cases hg : g = f
    · subst hg
      rw [Function.update_self, hm]
      by_cases hv : v = w
      · simp [hv]
      · simp [hv, hothers v hv]
    · rw [Function.update_of_ne hg, hs.holder]
      by_cases hv : v = w
      · subst hv
        rw [Function.update_self]
        exact ⟨fun h => absurd (hold g h) hg, fun h => absurd (hnew g h) hg⟩
      · rw [Function.update_of_ne hv]
  running g := by
    rw [hphase, hstate]
    by_cases hg : g = f
    · subst hg
      rw [Function.update_self, hr]
      refine ⟨fun h => ⟨w, by rwa [Function.update_self]⟩, fun ⟨v, hv⟩ => ?_⟩
      by_cases hvw : v = w
      · rwa [hvw, Function.update_self] at hv
      · rw [Function.update_of_ne hvw] at hv
        exact absurd (Phase.held_of_inside hv) (hothers v hvw)
    · rw [Function.update_of_ne hg, hs.running]
      refine exists_congr fun v => ?_
      by_cases hv : v = w
      · subst hv
        rw [Function.update_self]
        exact ⟨fun h => absurd (hold g (Phase.held_of_inside h)) hg,
          fun h => absurd (hnew g (Phase.held_of_inside h)) hg⟩
      · rw [Function.update_of_ne hv]
  prepared v g h := by
    rw [hphase] at h
    rw [hstate]
    by_cases hv : v = w
    · subst hv
      rw [Function.update_self] at h
      obtain rfl := hnew g (prepared_held h)
      rw [Function.update_self]
      exact hprepared h
    · rw [Function.update_of_ne hv] at h
      have hg : g ≠ f := fun hg => hothers v hv (hg ▸ prepared_held h)
      rw [Function.update_of_ne hg]
      exact hs.prepared v g h
  fresh g hg := by
    have hgf : g ≠ f := (hf.trans_le hg).ne'
    rw [hmutex, hstate, Function.update_of_ne hgf, Function.update_of_ne hgf]
    exact hs.fresh g (hfibers.trans hg)
  queued t ht := formed_mono (hs.queued t (htasks ▸ ht)) hfibers
  taken v t ht := by
    rw [hphase] at ht
    by_cases hv : v = w
    · subst hv
      rw [Function.update_self] at ht
      exact hjob t ht
    · rw [Function.update_of_ne hv] at ht
      exact formed_mono (hs.taken v t ht) hfibers
  assertions := haborted.trans hs.assertions

/-- The worker that holds the fiber `f` moves on, still holding it or not. -/
lemma change_held (hs : s.FiberInvariant) {w : W} {f : ℕ}
    (hheld : (s.phase w).held = some f) (p : Phase C) (r : FiberState)
    (hphase : s'.phase = Function.update s.phase w p)
    (hmutex : s'.mutex = Function.update s.mutex f (if p.held = some f then some w else none))
    (hstate : s'.state = Function.update s.state f r) (hfibers : s'.fibers = s.fibers)
    (htasks : s'.tasks = s.tasks) (haborted : s'.aborted = s.aborted)
    (hjob : p.job = (s.phase w).job) (hnew : ∀ g, p.held = some g → g = f)
    (hr : r = .running ↔ p.inside = some f) (hprepared : p.prepared = none) :
    s'.FiberInvariant := by
  refine hs.change w p f _ r hphase hmutex hstate hfibers.ge (hfibers ▸ hs.held_lt hheld) htasks
    haborted (fun g hg => Option.some.inj (hg.symm.trans hheld)) hnew
    (fun v hv h => hv (hs.held_unique h hheld)) (fun v => ?_) hr (by simp [hprepared])
    (fun t ht => hfibers ▸ hs.taken w t (hjob ▸ ht))
  split_ifs with hp
  · simp [hp, eq_comm]
  · simp [hp]

lemma acquire (hs : s.FiberInvariant) {w : W} {t : ScheduleTask ℕ C} {f : ℕ}
    (hphase : s.phase w = .exec t .taken) (hfiber : t.fiber = some f)
    (hmutex : s.mutex f = none) :
    ({ s.move w (.exec t (.locked f)) with
      mutex := Function.update s.mutex f (some w) } : Scheduler W O C).FiberInvariant := by
  have hjob : Formed s.fibers t := hs.taken w t (by simp [hphase, Phase.job])
  have hinside : ∀ v, (s.phase v).held ≠ some f := by
    intro v hv
    rw [(hs.holder f v).mpr hv] at hmutex
    cases hmutex
  refine hs.change w (.exec t (.locked f)) f (some w) (s.state f) rfl rfl
    (Function.update_eq_self f s.state).symm le_rfl (hjob.2 f hfiber) rfl rfl ?_ ?_
    (fun v _ => hinside v) ?_ ?_ ?_ ?_
  · simp [hphase, Phase.held]
  · simp [Phase.held]
  · simp [Phase.held, eq_comm]
  · rw [hs.running]
    simpa [Phase.inside] using fun v hv => hinside v (Phase.held_of_inside hv)
  · simp [Phase.prepared, hfiber]
  · rintro u ⟨⟩
    exact hjob

lemma acquireNew (hs : s.FiberInvariant) {w : W} {t : ScheduleTask ℕ C}
    (hphase : s.phase w = .exec t .taken) :
    ({ s.move w (.exec t (.locked s.fibers)) with
      fibers := s.fibers + 1, state := Function.update s.state s.fibers .ready,
      mutex := Function.update s.mutex s.fibers (some w) } : Scheduler W O C).FiberInvariant := by
  have hjob : Formed s.fibers t := hs.taken w t (by simp [hphase, Phase.job])
  refine hs.change w (.exec t (.locked s.fibers)) s.fibers (some w) .ready rfl rfl rfl
    (Nat.le_succ _) (Nat.lt_succ_self _) rfl rfl ?_ ?_
    (fun v _ hv => absurd (hs.held_lt hv) (lt_irrefl _)) ?_ ?_ ?_ ?_
  · simp [hphase, Phase.held]
  · simp [Phase.held]
  · simp [Phase.held, eq_comm]
  · simp [Phase.inside]
  · exact fun _ => rfl
  · rintro u ⟨⟩
    exact formed_mono hjob (Nat.le_succ _)

end FiberInvariant

section Steps

variable [DecidableEq W] [DecidableEq O] {threadId : W → ℤ} {s s' : Scheduler W O C}
  {a : SchedulerAction W O C}

lemma FiberInvariant.scheduleLock (hs : s.FiberInvariant) (th : W ⊕ O)
    (task : ScheduleTask ℕ C) (hfiber : ∀ f ∈ task.fiber, f < s.fibers) :
    (s.scheduleLock th task).FiberInvariant := by
  unfold Scheduler.scheduleLock
  by_cases hne : task.nonempty
  · rw [if_pos hne]
    refine hs.congr rfl rfl rfl rfl (fun t ht => ?_) rfl
    rcases List.mem_append.mp ht with ht | ht
    · exact hs.queued t ht
    · obtain rfl := List.mem_singleton.mp ht
      exact ⟨hne, hfiber⟩
  · rw [if_neg hne]
    exact hs.congr rfl rfl rfl rfl hs.queued rfl

theorem fiberInvariant_step (h : Transition threadId s a s') (hs : s.FiberInvariant) :
    s'.FiberInvariant := by
  cases h with
  | tickle | testIdle | testBusy | tickleWrite | stop | drain =>
    exact hs.congr rfl rfl rfl rfl hs.queued rfl
  | spawn => exact hs.spawn
  | push th task hmay hcall hfiber => exact hs.scheduleLock th task hfiber
  | take w skipped t rest hcall hphase htasks =>
    have hmem : ∀ u ∈ skipped ++ rest, u ∈ s.tasks := by
      rw [htasks]
      intro u hu
      simp only [List.mem_append, List.mem_cons] at hu ⊢
      tauto
    refine hs.advance w (.exec t .taken) rfl rfl rfl rfl rfl ?_ ?_ rfl
      (fun u hu => hs.queued u (hmem u hu)) ?_
    · simp [hphase, Phase.held]
    · simp [hphase, Phase.inside]
    · simpa [Phase.job] using hs.queued t (by simp [htasks])
  | takeEmpty w t hphase ht hne => exact absurd (hs.queued t ht).1 hne
  | takeNone w hcall hphase =>
    refine hs.advance w (if s.idleTerm w then .exited else .idle .before) rfl rfl rfl rfl rfl
      ?_ ?_ ?_ hs.queued ?_ <;>
      split_ifs <;> simp [hphase, Phase.held, Phase.inside, Phase.prepared, Phase.job]
  | acquire w t f hphase hfiber hmutex => exact hs.acquire hphase hfiber hmutex
  | acquireNew w t hphase => exact hs.acquireNew hphase
  | skip w t f hphase =>
    refine hs.advance w (.exec t (.left f)) rfl rfl rfl rfl rfl ?_ ?_ rfl hs.queued ?_
    · simp [hphase, Phase.held]
    · simp [hphase, Phase.inside]
    · simpa [hphase, Phase.job] using hs.taken w
  | resume w t f hphase hready =>
    have hheld : (s.phase w).held = some f := by simp [hphase, Phase.held]
    exact hs.change_held hheld (.exec t (.inside f)) .running rfl
      (by simpa [Phase.held, move] using hs.mutex_eq hheld) rfl rfl rfl rfl
      (by simp [hphase, Phase.job]) (by simp [Phase.held]) (by simp [Phase.inside]) rfl
  | resumeAbort w t f hphase hready hterm => exact absurd (hs.ready hphase hterm) hready
  | yield w t f hphase =>
    have hheld : (s.phase w).held = some f := by simp [hphase, Phase.held]
    exact hs.change_held hheld (.exec t (.left f)) .ready rfl
      (by simpa [Phase.held, move] using hs.mutex_eq hheld) rfl rfl rfl rfl
      (by simp [hphase, Phase.job]) (by simp [Phase.held]) (by simp [Phase.inside]) rfl
  | finish w t f hphase =>
    have hheld : (s.phase w).held = some f := by simp [hphase, Phase.held]
    exact hs.change_held hheld (.exec t (.left f)) .term rfl
      (by simpa [Phase.held, move] using hs.mutex_eq hheld) rfl rfl rfl rfl
      (by simp [hphase, Phase.job]) (by simp [Phase.held]) (by simp [Phase.inside]) rfl
  | yieldTerm w t f hphase hstate | yieldAbort w t f hphase hstate =>
    have hrunning := (hs.running f).mpr ⟨w, by simp [hphase, Phase.inside]⟩
    rw [hstate] at hrunning
    cases hrunning
  | release w t f hphase =>
    have hheld : (s.phase w).held = some f := by simp [hphase, Phase.held]
    refine hs.change_held hheld (.exec t .unlocked) (s.state f) rfl (by simp [Phase.held])
      (Function.update_eq_self f s.state).symm rfl rfl rfl (by simp [hphase, Phase.job])
      (by simp [Phase.held]) ?_ rfl
    simpa [Phase.inside] using hs.not_running hheld (by simp [hphase, Phase.inside])
  | retire w t hphase | idleEnter w hphase | block w hphase | wake w hphase
  | idleLeave w hphase | idleExit w hphase =>
    refine hs.advance w _ rfl rfl rfl rfl rfl ?_ ?_ rfl hs.queued ?_ <;>
      simp [hphase, Phase.held, Phase.inside, Phase.job]

/-- A fiber that has terminated stays so. -/
lemma term_step (h : Transition threadId s a s') (hs : s.FiberInvariant) {f : ℕ}
    (hf : s.state f = .term) : s'.state f = .term := by
  -- the only fibers that change state are new, `READY` or `RUNNING`, or end in `TERM`
  have hne : ∀ g, s.state g ≠ .term → f ≠ g := fun g hg h => hg (h ▸ hf)
  cases h with
  | spawn | acquireNew =>
    have hfresh := (hs.fresh s.fibers le_rfl).1
    simpa [Function.update_of_ne (hne s.fibers (by simp [hfresh]))] using hf
  | push th task =>
    unfold Scheduler.scheduleLock
    split_ifs <;> exact hf
  | resume w t g hphase hready =>
    simpa [Function.update_of_ne (hne g (by simp [hready]))] using hf
  | yield w t g hphase hrunning =>
    simpa [Function.update_of_ne (hne g (by simp [hrunning]))] using hf
  | finish w t g hphase =>
    by_cases hg : f = g
    · simp [hg]
    · simpa [Function.update_of_ne hg] using hf
  | _ => exact hf

lemma fiberInvariant_of_run {as : List (SchedulerAction W O C)} (hs : s.FiberInvariant)
    (hrun : (machine threadId).run s as = some s') : s'.FiberInvariant :=
  Machine.run_invariant (fun _ _ _ hs h => fiberInvariant_step (transition_of_step h).2 hs) hs hrun

lemma term_of_run {as : List (SchedulerAction W O C)} {f : ℕ} (hs : s.FiberInvariant)
    (hf : s.state f = .term) (hrun : (machine threadId).run s as = some s') :
    s'.state f = .term :=
  (Machine.run_invariant (I := fun s => s.FiberInvariant ∧ s.state f = .term)
    (fun _ _ _ hs h => ⟨fiberInvariant_step (transition_of_step h).2 hs.1,
      term_step (transition_of_step h).2 hs.1 hs.2⟩) ⟨hs, hf⟩ hrun).2

/-- What the exclusion of workers from a fiber says of a state. -/
structure FiberExclusion (threadId : W → ℤ) (s : Scheduler W O C) : Prop where
  /-- At most one worker is inside `resume` of a fiber. -/
  unique : ∀ f v w, (s.phase v).inside = some f → (s.phase w).inside = some f → v = w
  /-- Every call of `resume` finds its fiber `READY`. -/
  ready : ∀ w t f, s.phase w = .exec t (.locked f) → ¬ (t.fiber.isSome ∧ s.state f = .term) →
    s.state f = .ready
  /-- No assertion has failed. -/
  assertions : s.aborted = false
  /-- A fiber that has terminated stays so, and no worker is ever inside it again. -/
  term : ∀ f, s.state f = .term → ∀ bs s', (machine threadId).run s bs = some s' →
    s'.state f = .term ∧ ∀ w, (s'.phase w).inside ≠ some f

/-- **Exclusion.**  In every reachable state at most one worker is inside a task fiber, every
`resume` finds its fiber `READY`, and what has terminated is never resumed again. -/
theorem fiberExclusion_of_run (as : List (SchedulerAction W O C)) (s : Scheduler W O C)
    (hrun : (machine threadId).run init as = some s) : s.FiberExclusion threadId := by
  have hs := fiberInvariant_of_run fiberInvariant_init hrun
  refine ⟨?_, fun w t f hphase hcall => hs.ready hphase hcall, hs.assertions, ?_⟩
  · intro f v w hv hw
    exact hs.held_unique (Phase.held_of_inside hv) (Phase.held_of_inside hw)
  · intro f hf bs s' hbs
    have hs' := fiberInvariant_of_run hs hbs
    have hterm := term_of_run hs hf hbs
    refine ⟨hterm, fun w hw => ?_⟩
    rw [(hs'.running f).mpr ⟨w, hw⟩] at hterm
    cases hterm

/-- Two workers dequeue one fiber that was queued twice; the first is inside it. -/
def twiceQueuedRun : List (SchedulerAction Bool Unit Unit) :=
  [.spawn, .push (.inr ()) (.ofFiber 0 (-1)), .tickleTest (.inr ()),
    .push (.inr ()) (.ofFiber 0 (-1)), .scan true, .tickleTest (.inl true), .acquire true,
    .resume true, .scan false]

theorem fiberExclusion_of_twiceQueuedRun : ∃ s : Scheduler Bool Unit Unit,
    (machine fun w => if w then 1 else 2).run init twiceQueuedRun = some s ∧
      s.phase true = .exec (.ofFiber 0 (-1)) (.inside 0) ∧
      s.phase false = .exec (.ofFiber 0 (-1)) .taken ∧
      s.FiberExclusion fun w => if w then 1 else 2 :=
  ⟨_, rfl, rfl, rfl, fiberExclusion_of_run twiceQueuedRun _ rfl⟩

end Steps

end Scheduler

end CoroutineGateway
