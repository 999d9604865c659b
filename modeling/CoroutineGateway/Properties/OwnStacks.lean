import CoroutineGateway.Construction.FiberSwitch

/-!
# Every fiber has its own stack

A fiber saves the stack that the thread is on in the context of the fiber that it takes itself for,
and finds the fiber to return to in a thread-local pointer.  Nothing checks that the two agree.
What should hold is `OwnStacks`: `GetThis` is the fiber on whose stack the thread is, `swapcontext`
saves a stack in the context of its own fiber, no two threads are on one stack or about to switch to
it, a fiber that is on no thread goes on where it was left, and whoever is returned to is inside
`resume`.

That holds exactly as long as every `resume` is called by the fiber that the resumed one will return
to, on a fiber whose last switch is over, and no fiber that runs in the scheduler makes a new
scheduler fiber for its thread (`ownStacks_throughout_iff`).  `Scheduler::run` calls `resume` on the
fiber of the scheduler, and holds `m_mutex` until the switch is over.
-/

namespace CoroutineGateway

namespace FiberSwitch

variable {T : Type*} {s s' : FiberSwitch T} {th th' : T} {f g : ℕ}

/-- The thread is on the stack of the fiber, or about to switch to it. -/
def On (s : FiberSwitch T) (th : T) (f : ℕ) : Prop :=
  s.running th = some f ∨ ∃ src, s.swap th = some (src, f)

/-- The fiber is inside a call of `resume` on the thread. -/
structure Waiting (s : FiberSwitch T) (th : T) (f : ℕ) : Prop where
  state : s.state f = .running
  running : s.running th ≠ some f
  others : ∀ th', s.On th' f → th' = th

/-- The threads and the contexts agree on who is where. -/
structure Stacks (s : FiberSwitch T) : Prop where
  /-- `GetThis` is the fiber on whose stack the thread is. -/
  current : ∀ th, s.swap th = none → s.fiber th = s.running th
  /-- A stack is saved in the context of its fiber. -/
  saves : ∀ th src dst, s.swap th = some (src, dst) → s.running th = some src
  /-- No two threads are on one stack, or about to switch to it. -/
  exclusive : ∀ th th' f, s.On th f → s.On th' f → th = th'
  /-- A fiber that is on no thread goes on where it was left. -/
  suspended : ∀ f < s.fibers, (∀ th, s.running th ≠ some f) → s.ctx f = ⟨f, s.entries f⟩

/-- Every fiber has its own stack. -/
structure OwnStacks (s : FiberSwitch T) : Prop extends Stacks s where
  /-- A fiber returns to one that is inside `resume`. -/
  returns : ∀ th f, s.running th = some f → s.main f = false → s.swap th = none →
    ∃ t, s.returnsTo th f = some t ∧ s.Waiting th t

/-- The condition on the steps. -/
def Nested (s : FiberSwitch T) : FiberAction T → Prop
  | .resume th f => s.running th = s.returnsTo th f ∧ ∀ th', s.running th' ≠ some f
  | .useCaller th => ∀ f, s.running th = some f → s.main f = false → s.runInScheduler f = false
  | _ => True

/-- The fiber belongs to the thread. -/
def Owns (s : FiberSwitch T) (th : T) (f : ℕ) : Prop :=
  s.threadFiber th = some f ∨ s.schedulerFiber th = some f

/-- Which fiber waits for which. -/
structure Chain (s : FiberSwitch T) : Prop extends Stacks s where
  bound : ∀ th f, s.On th f → f < s.fibers
  ownsBound : ∀ th f, s.Owns th f → f < s.fibers
  started : ∀ th f, s.running th = some f → s.threadFiber th ≠ none ∧ s.schedulerFiber th ≠ none
  mainRunning : ∀ f < s.fibers, s.main f → s.state f = .running
  threadMain : ∀ th f, s.threadFiber th = some f → s.main f
  /-- A thread's own fiber stays on it. -/
  home : ∀ th f, s.threadFiber th = some f → ∀ th', s.On th' f → th' = th
  schedulerKind : ∀ th f, s.schedulerFiber th = some f →
    s.threadFiber th = some f ∨ s.main f = false ∧ s.runInScheduler f = false
  owned : ∀ th th' f, s.Owns th f → s.Owns th' f → th = th'
  /-- A fiber that is not `RUNNING` is on a stack only when it is about to leave it. -/
  leaving : ∀ th f, s.On th f → s.state f ≠ .running → s.running th = some f ∧ s.swap th ≠ none
  swapping : ∀ th src dst, s.swap th = some (src, dst) → src ≠ dst ∧ s.fiber th = some dst ∧
    (s.state src = .running ∧ s.returnsTo th dst = some src ∨
      s.main src = false ∧ s.returnsTo th src = some dst)
  /-- The fiber of the scheduler waits for the fibers that run in the scheduler. -/
  scheduled : ∀ th f t, s.running th = some f → s.main f = false → s.runInScheduler f →
    s.schedulerFiber th = some t → s.Waiting th t
  active : ∀ th f, s.running th = some f → s.entries f ≠ 0
  entered : ∀ f < s.fibers, s.main f = false → s.entries f ≠ 0 → s.curr f = some f
  mainEntered : ∀ f < s.fibers, s.main f → s.entries f ≠ 0 ∧ s.curr f = none

/-! ## Where a fiber returns to -/

namespace Chain

/-- The fiber of a thread waits for every other fiber on the thread. -/
lemma waiting_threadFiber (hs : s.Chain) (hm : s.threadFiber th = some g)
    (hrun : s.running th ≠ some g) : s.Waiting th g :=
  ⟨hs.mainRunning g (hs.ownsBound th g (.inl hm)) (hs.threadMain th g hm), hrun, hs.home th g hm⟩

/-- A fiber returns to a waiting one. -/
lemma waiting_of_returnsTo (hs : s.Chain) (hrun : s.running th = some f) (hmain : s.main f = false)
    (ht : s.returnsTo th f = some g) : s.Waiting th g := by
  by_cases hsched : s.runInScheduler f
  · rw [returnsTo, if_pos hsched] at ht
    exact hs.scheduled th f g hrun hmain hsched ht
  · rw [returnsTo, if_neg hsched] at ht
    refine hs.waiting_threadFiber ht fun h => ?_
    obtain rfl : f = g := Option.some.inj (hrun.symm.trans h)
    simp [hs.threadMain th f ht] at hmain

lemma ownStacks (hs : s.Chain) : s.OwnStacks where
  toStacks := hs.toStacks
  returns th f hrun hmain _ := by
    obtain ⟨t, ht⟩ : ∃ t, s.returnsTo th f = some t := by
      unfold returnsTo
      split_ifs
      · exact Option.ne_none_iff_exists'.mp (hs.started th f hrun).2
      · exact Option.ne_none_iff_exists'.mp (hs.started th f hrun).1
    exact ⟨t, ht, hs.waiting_of_returnsTo hrun hmain ht⟩

/-! ## New fibers -/

/-- The new fiber is on no thread and belongs to none. -/
lemma ne_fibers (hs : s.Chain) : (∀ th f, s.On th f → f ≠ s.fibers) ∧
    ∀ th f, s.Owns th f → f ≠ s.fibers :=
  ⟨fun th f h => (hs.bound th f h).ne, fun th f h => (hs.ownsBound th f h).ne⟩

lemma newFiber (hs : s.Chain) (b : Bool) : (s.newFiber b).Chain := by
  obtain ⟨hon, howns⟩ := hs.ne_fibers
  have hrunning : ∀ {th f}, s.running th = some f → f ≠ s.fibers := fun h => hon _ _ (.inl h)
  have hswap : ∀ {th src dst}, s.swap th = some (src, dst) → src ≠ s.fibers ∧ dst ≠ s.fibers :=
    fun h => ⟨hrunning (hs.saves _ _ _ h), hon _ _ (.inr ⟨_, h⟩)⟩
  have hreturns : ∀ {th f}, f ≠ s.fibers → (s.newFiber b).returnsTo th f = s.returnsTo th f :=
    fun h => by simp [returnsTo, FiberSwitch.newFiber, h]
  have hstate : ∀ {f}, f ≠ s.fibers → (s.newFiber b).state f = s.state f :=
    fun h => by simp [FiberSwitch.newFiber, h]
  have hmain : ∀ {f}, f ≠ s.fibers → (s.newFiber b).main f = s.main f :=
    fun h => by simp [FiberSwitch.newFiber, h]
  constructor
  case toStacks =>
    refine ⟨hs.current, hs.saves, hs.exclusive, fun f hf hfree => ?_⟩
    by_cases hnew : f = s.fibers
    · simp [FiberSwitch.newFiber, hnew]
    · have hlt : f < s.fibers := lt_of_le_of_ne (Nat.le_of_lt_succ hf) hnew
      simpa [FiberSwitch.newFiber, hnew] using hs.suspended f hlt hfree
  case bound => exact fun th f h => (hs.bound th f h).trans (Nat.lt_succ_self _)
  case ownsBound => exact fun th f h => (hs.ownsBound th f h).trans (Nat.lt_succ_self _)
  case started => exact hs.started
  case mainRunning =>
    intro f hf hm
    by_cases hnew : f = s.fibers
    · simp [FiberSwitch.newFiber, hnew] at hm
    · rw [hmain hnew] at hm
      rw [hstate hnew]
      exact hs.mainRunning f (lt_of_le_of_ne (Nat.le_of_lt_succ hf) hnew) hm
  case threadMain =>
    intro th f h
    rw [hmain (howns th f (.inl h))]
    exact hs.threadMain th f h
  case home => exact hs.home
  case schedulerKind =>
    intro th f h
    have hne := howns th f (.inr h)
    rw [hmain hne]
    simpa [FiberSwitch.newFiber, hne] using hs.schedulerKind th f h
  case owned => exact hs.owned
  case leaving =>
    intro th f h hst
    rw [hstate (hon th f h)] at hst
    exact hs.leaving th f h hst
  case swapping =>
    intro th src dst h
    obtain ⟨hsrc, hdst⟩ := hswap h
    rw [hreturns hsrc, hreturns hdst, hstate hsrc, hmain hsrc]
    exact hs.swapping th src dst h
  case scheduled =>
    intro th f t h hm hsched ht
    have hne := hrunning h
    rw [hmain hne] at hm
    have hw := hs.scheduled th f t h hm (by simpa [FiberSwitch.newFiber, hne] using hsched) ht
    exact ⟨(hstate (howns th t (.inr ht))).trans hw.state, hw.running, hw.others⟩
  case active =>
    intro th f h
    simpa [FiberSwitch.newFiber, hrunning h] using hs.active th f h
  case entered =>
    intro f hf hm hent
    by_cases hnew : f = s.fibers
    · simp [FiberSwitch.newFiber, hnew] at hent
    · rw [hmain hnew] at hm
      simp only [FiberSwitch.newFiber, Function.update_of_ne hnew] at hent ⊢
      exact hs.entered f (lt_of_le_of_ne (Nat.le_of_lt_succ hf) hnew) hm hent
  case mainEntered =>
    intro f hf hm
    by_cases hnew : f = s.fibers
    · simp [FiberSwitch.newFiber, hnew] at hm
    · rw [hmain hnew] at hm
      simp only [FiberSwitch.newFiber, Function.update_of_ne hnew]
      exact hs.mainEntered f (lt_of_le_of_ne (Nat.le_of_lt_succ hf) hnew) hm

variable [DecidableEq T]

/-- A fiber that nobody has becomes the fiber of the scheduler of a thread, on which no fiber runs
in the scheduler. -/
lemma setScheduler (hs : s.Chain) (hf : f < s.fibers) (hfree : ∀ th, ¬ s.Owns th f)
    (hkind : s.main f = false ∧ s.runInScheduler f = false) (hswap : s.swap th = none)
    (hrun : ∀ g, s.running th = some g → s.main g = false → s.runInScheduler g = false) :
    ({ s with schedulerFiber := Function.update s.schedulerFiber th (some f) } :
      FiberSwitch T).Chain := by
  set s' : FiberSwitch T :=
    { s with schedulerFiber := Function.update s.schedulerFiber th (some f) } with hs'
  have howns : ∀ {th' g}, s'.Owns th' g → s.Owns th' g ∨ th' = th ∧ g = f := by
    rintro th' g (h | h)
    · exact .inl (.inl h)
    · by_cases hth : th' = th
      · subst hth
        exact .inr ⟨rfl, by simpa [hs', eq_comm] using h⟩
      · exact .inl (.inr (by simpa [hs', hth] using h))
  have hreturns : ∀ {th' g}, th' ≠ th → s'.returnsTo th' g = s.returnsTo th' g :=
    fun h => by simp [returnsTo, hs', h]
  constructor
  case toStacks => exact ⟨hs.current, hs.saves, hs.exclusive, hs.suspended⟩
  case bound => exact hs.bound
  case ownsBound =>
    intro th' g h
    rcases howns h with h | ⟨-, rfl⟩
    · exact hs.ownsBound th' g h
    · exact hf
  case started =>
    intro th' g h
    refine ⟨(hs.started th' g h).1, ?_⟩
    by_cases hth : th' = th
    · simp [hs', hth]
    · simpa [hs', hth] using (hs.started th' g h).2
  case mainRunning => exact hs.mainRunning
  case threadMain => exact hs.threadMain
  case home => exact hs.home
  case schedulerKind =>
    intro th' g h
    by_cases hth : th' = th
    · subst hth
      obtain rfl : f = g := by simpa [hs'] using h
      exact .inr hkind
    · exact hs.schedulerKind th' g (by simpa [hs', hth] using h)
  case owned =>
    intro th₁ th₂ g h₁ h₂
    rcases howns h₁ with hold₁ | ⟨rfl, hg₁⟩
    · rcases howns h₂ with hold₂ | ⟨rfl, hg₂⟩
      · exact hs.owned th₁ th₂ g hold₁ hold₂
      · exact absurd (hg₂ ▸ hold₁) (hfree th₁)
    · rcases howns h₂ with hold₂ | ⟨rfl, hg₂⟩
      · exact absurd (hg₁ ▸ hold₂) (hfree th₂)
      · rfl
  case leaving => exact hs.leaving
  case swapping =>
    intro th' src dst h
    have hth : th' ≠ th := by
      rintro rfl
      rw [hswap] at h
      cases h
    rw [hreturns hth, hreturns hth]
    exact hs.swapping th' src dst h
  case scheduled =>
    intro th' g t h hm hsched ht
    by_cases hth : th' = th
    · subst hth
      exact absurd hsched (by simp [hs', hrun g h hm])
    · have hw := hs.scheduled th' g t h hm hsched (by simpa [hs', hth] using ht)
      exact ⟨hw.state, hw.running, hw.others⟩
  case active => exact hs.active
  case entered => exact hs.entered
  case mainEntered => exact hs.mainEntered

/-- The first `GetThis` on a thread. -/
lemma newMain (hs : s.Chain) (hswap : s.swap th = none) (hrun : s.running th = none) :
    (s.newMain th).Chain := by
  obtain ⟨hon, howns⟩ := hs.ne_fibers
  have hother : ∀ {th'}, th' ≠ th → (s.newMain th).running th' = s.running th' ∧
      (s.newMain th).fiber th' = s.fiber th' ∧
      (s.newMain th).threadFiber th' = s.threadFiber th' ∧
      (s.newMain th).schedulerFiber th' = s.schedulerFiber th' :=
    fun h => by simp [FiberSwitch.newMain, h]
  have hself : (s.newMain th).running th = some s.fibers ∧
      (s.newMain th).fiber th = some s.fibers ∧ (s.newMain th).threadFiber th = some s.fibers ∧
      (s.newMain th).schedulerFiber th = some s.fibers := by simp [FiberSwitch.newMain]
  have hon' : ∀ {th' f}, (s.newMain th).On th' f → s.On th' f ∨ th' = th ∧ f = s.fibers := by
    rintro th' f (h | ⟨src, h⟩)
    · by_cases hth : th' = th
      · subst hth
        exact .inr ⟨rfl, Option.some.inj (h.symm.trans hself.1)⟩
      · exact .inl (.inl ((hother hth).1.symm.trans h))
    · exact .inl (.inr ⟨src, h⟩)
  have howns' : ∀ {th' f}, (s.newMain th).Owns th' f →
      th' ≠ th ∧ s.Owns th' f ∨ th' = th ∧ f = s.fibers := by
    intro th' f h
    by_cases hth : th' = th
    · subst hth
      refine .inr ⟨rfl, ?_⟩
      rcases h with h | h
      · exact Option.some.inj (h.symm.trans hself.2.2.1)
      · exact Option.some.inj (h.symm.trans hself.2.2.2)
    · refine .inl ⟨hth, h.imp (fun h => ?_) fun h => ?_⟩
      · exact (hother hth).2.2.1.symm.trans h
      · exact (hother hth).2.2.2.symm.trans h
  have hstate : ∀ {f}, f ≠ s.fibers → (s.newMain th).state f = s.state f ∧
      (s.newMain th).main f = s.main f ∧ (s.newMain th).entries f = s.entries f ∧
      (s.newMain th).ctx f = s.ctx f ∧ (s.newMain th).curr f = s.curr f :=
    fun h => by simp [FiberSwitch.newMain, h]
  have hnew : (s.newMain th).state s.fibers = .running ∧ (s.newMain th).main s.fibers = true ∧
      (s.newMain th).entries s.fibers = 1 ∧ (s.newMain th).curr s.fibers = none := by
    simp [FiberSwitch.newMain]
  have hreturns : ∀ {th' f}, th' ≠ th → (s.newMain th).returnsTo th' f = s.returnsTo th' f := by
    intro th' f h
    unfold returnsTo
    rw [(hother h).2.2.1, (hother h).2.2.2]
    rfl
  have hidle : ∀ {th' src dst}, s.swap th' = some (src, dst) → th' ≠ th := by
    rintro th' src dst h rfl
    rw [hswap] at h
    cases h
  constructor
  case toStacks =>
    refine ⟨fun th' h => ?_, fun th' src dst h => ?_, fun th₁ th₂ f h₁ h₂ => ?_, fun f hf h => ?_⟩
    · by_cases hth : th' = th
      · rw [hth, hself.1, hself.2.1]
      · rw [(hother hth).1, (hother hth).2.1]
        exact hs.current th' h
    · rw [(hother (hidle h)).1]
      exact hs.saves th' src dst h
    · rcases hon' h₁ with hold₁ | ⟨rfl, hf₁⟩
      · rcases hon' h₂ with hold₂ | ⟨rfl, hf₂⟩
        · exact hs.exclusive th₁ th₂ f hold₁ hold₂
        · exact absurd hf₂ (hon th₁ f hold₁)
      · rcases hon' h₂ with hold₂ | ⟨rfl, hf₂⟩
        · exact absurd hf₁ (hon th₂ f hold₂)
        · rfl
    · have hne : f ≠ s.fibers := by
        rintro rfl
        exact h th hself.1
      rw [(hstate hne).2.2.1, (hstate hne).2.2.2.1]
      refine hs.suspended f (lt_of_le_of_ne (Nat.le_of_lt_succ hf) hne) fun th' => ?_
      by_cases hth : th' = th
      · simp [hth, hrun]
      · exact (hother hth).1 ▸ h th'
  case bound =>
    intro th' f h
    rcases hon' h with h | ⟨-, rfl⟩
    · exact (hs.bound th' f h).trans (Nat.lt_succ_self _)
    · exact Nat.lt_succ_self _
  case ownsBound =>
    intro th' f h
    rcases howns' h with ⟨-, h⟩ | ⟨-, rfl⟩
    · exact (hs.ownsBound th' f h).trans (Nat.lt_succ_self _)
    · exact Nat.lt_succ_self _
  case started =>
    intro th' f h
    by_cases hth : th' = th
    · rw [hth, hself.2.2.1, hself.2.2.2]
      simp
    · rw [(hother hth).1] at h
      rw [(hother hth).2.2.1, (hother hth).2.2.2]
      exact hs.started th' f h
  case mainRunning =>
    intro f hf hm
    by_cases hne : f = s.fibers
    · rw [hne]
      exact hnew.1
    · rw [(hstate hne).2.1] at hm
      rw [(hstate hne).1]
      exact hs.mainRunning f (lt_of_le_of_ne (Nat.le_of_lt_succ hf) hne) hm
  case threadMain =>
    intro th' f h
    by_cases hth : th' = th
    · rw [hth, hself.2.2.1] at h
      rw [← Option.some.inj h]
      exact hnew.2.1
    · rw [(hother hth).2.2.1] at h
      rw [(hstate (howns th' f (.inl h))).2.1]
      exact hs.threadMain th' f h
  case home =>
    intro th₁ f h th₂ h₂
    by_cases hth : th₁ = th
    · rw [hth, hself.2.2.1] at h
      rcases hon' h₂ with h₂ | ⟨rfl, -⟩
      · exact absurd (Option.some.inj h).symm (hon th₂ f h₂)
      · exact hth.symm
    · rw [(hother hth).2.2.1] at h
      rcases hon' h₂ with h₂ | ⟨-, hf⟩
      · exact hs.home th₁ f h th₂ h₂
      · exact absurd hf (howns th₁ f (.inl h))
  case schedulerKind =>
    intro th' f h
    by_cases hth : th' = th
    · rw [hth, hself.2.2.2] at h
      rw [hth, hself.2.2.1]
      exact .inl h
    · rw [(hother hth).2.2.2] at h
      rw [(hother hth).2.2.1, (hstate (howns th' f (.inr h))).2.1]
      exact hs.schedulerKind th' f h
  case owned =>
    intro th₁ th₂ f h₁ h₂
    rcases howns' h₁ with ⟨-, hold₁⟩ | ⟨rfl, hf₁⟩
    · rcases howns' h₂ with ⟨-, hold₂⟩ | ⟨rfl, hf₂⟩
      · exact hs.owned th₁ th₂ f hold₁ hold₂
      · exact absurd hf₂ (howns th₁ f hold₁)
    · rcases howns' h₂ with ⟨-, hold₂⟩ | ⟨rfl, hf₂⟩
      · exact absurd hf₁ (howns th₂ f hold₂)
      · rfl
  case leaving =>
    intro th' f h hst
    rcases hon' h with h | ⟨-, rfl⟩
    · rw [(hstate (hon th' f h)).1] at hst
      obtain ⟨hrun', hswap'⟩ := hs.leaving th' f h hst
      have hth : th' ≠ th := fun heq => hswap' (heq ▸ hswap)
      exact ⟨(hother hth).1.trans hrun', hswap'⟩
    · exact absurd hnew.1 hst
  case swapping =>
    intro th' src dst h
    have hth := hidle h
    have hsrc := hon th' src (.inl (hs.saves th' src dst h))
    rw [hreturns hth, hreturns hth, (hother hth).2.1, (hstate hsrc).1, (hstate hsrc).2.1]
    exact hs.swapping th' src dst h
  case scheduled =>
    intro th' f t h hm hsched ht
    have hth : th' ≠ th := by
      rintro rfl
      rw [hself.1] at h
      rw [← Option.some.inj h, hnew.2.1] at hm
      cases hm
    rw [(hother hth).1] at h
    rw [(hother hth).2.2.2] at ht
    rw [(hstate (hon th' f (.inl h))).2.1] at hm
    have hw := hs.scheduled th' f t h hm hsched ht
    have hne := howns th' t (.inr ht)
    refine ⟨(hstate hne).1.trans hw.state, ?_, fun th'' h'' => ?_⟩
    · rw [(hother hth).1]
      exact hw.running
    · exact hw.others th'' ((hon' h'').resolve_right fun heq => hne heq.2)
  case active =>
    intro th' f h
    by_cases hth : th' = th
    · rw [hth, hself.1] at h
      rw [← Option.some.inj h, hnew.2.2.1]
      simp
    · rw [(hother hth).1] at h
      rw [(hstate (hon th' f (.inl h))).2.2.1]
      exact hs.active th' f h
  case entered =>
    intro f hf hm hent
    have hne : f ≠ s.fibers := by
      rintro rfl
      rw [hnew.2.1] at hm
      cases hm
    rw [(hstate hne).2.1] at hm
    rw [(hstate hne).2.2.1] at hent
    rw [(hstate hne).2.2.2.2]
    exact hs.entered f (lt_of_le_of_ne (Nat.le_of_lt_succ hf) hne) hm hent
  case mainEntered =>
    intro f hf hm
    by_cases hne : f = s.fibers
    · rw [hne, hnew.2.2.1, hnew.2.2.2]
      simp
    · rw [(hstate hne).2.1] at hm
      rw [(hstate hne).2.2.1, (hstate hne).2.2.2.2]
      exact hs.mainEntered f (lt_of_le_of_ne (Nat.le_of_lt_succ hf) hne) hm

/-! ## Switching -/

/-- A fiber `src` that is about to switch to a fiber `dst`, which is on no other thread and for
which no other thread waits. -/
lemma call (hs : s.Chain) {src dst : ℕ} {state : ℕ → FiberState} (hswap : s.swap th = none)
    (hrun : s.running th = some src) (hne : src ≠ dst) (hdst : dst < s.fibers)
    (hon : ∀ th', s.On th' dst → th' = th)
    (hown : ∀ th', s.threadFiber th' = some dst ∨
      s.schedulerFiber th' = some dst ∧ s.state dst = .running → th' = th)
    (hstate : ∀ g, g ≠ src → s.state g = .running → state g = .running)
    (hmain : s.main src → state src = .running) (hready : state dst = .running)
    (hcall : state src = .running ∧ s.returnsTo th dst = some src ∨
      s.main src = false ∧ s.returnsTo th src = some dst) :
    ({ s with
      state
      fiber := Function.update s.fiber th (some dst)
      swap := Function.update s.swap th (some (src, dst)) } : FiberSwitch T).Chain := by
  set s' : FiberSwitch T := { s with
    state
    fiber := Function.update s.fiber th (some dst)
    swap := Function.update s.swap th (some (src, dst)) } with hs'
  have hother : ∀ {th'}, th' ≠ th → s'.swap th' = s.swap th' ∧ s'.fiber th' = s.fiber th' :=
    fun h => by simp [hs', h]
  have hself : s'.swap th = some (src, dst) ∧ s'.fiber th = some dst := by simp [hs']
  have hon' : ∀ {th' g}, s'.On th' g → s.On th' g ∨ th' = th ∧ g = dst := by
    rintro th' g (h | ⟨a, h⟩)
    · exact .inl (.inl h)
    · by_cases hth : th' = th
      · rw [hth, hself.1] at h
        exact .inr ⟨hth, (Prod.mk.inj (Option.some.inj h)).2.symm⟩
      · exact .inl (.inr ⟨a, (hother hth).1.symm.trans h⟩)
  have hsome : ∀ th', s.swap th' ≠ none ∨ th' = th → s'.swap th' ≠ none := by
    intro th' h
    by_cases hth : th' = th
    · rw [hth, hself.1]
      simp
    · rw [(hother hth).1]
      exact h.resolve_right hth
  constructor
  case toStacks =>
    refine ⟨fun th' h => ?_, fun th' a b h => ?_, fun th₁ th₂ g h₁ h₂ => ?_, hs.suspended⟩
    · have hth : th' ≠ th := fun heq => hsome th' (.inr heq) h
      rw [(hother hth).1] at h
      rw [(hother hth).2]
      exact hs.current th' h
    · by_cases hth : th' = th
      · rw [hth, hself.1] at h
        obtain ⟨rfl, rfl⟩ := Prod.mk.inj (Option.some.inj h)
        exact hth ▸ hrun
      · rw [(hother hth).1] at h
        exact hs.saves th' a b h
    · rcases hon' h₁ with hold₁ | ⟨rfl, hg₁⟩
      · rcases hon' h₂ with hold₂ | ⟨rfl, hg₂⟩
        · exact hs.exclusive th₁ th₂ g hold₁ hold₂
        · exact hon th₁ (hg₂ ▸ hold₁)
      · rcases hon' h₂ with hold₂ | ⟨rfl, hg₂⟩
        · exact (hon th₂ (hg₁ ▸ hold₂)).symm
        · rfl
  case bound =>
    intro th' g h
    rcases hon' h with h | ⟨-, rfl⟩
    · exact hs.bound th' g h
    · exact hdst
  case ownsBound => exact hs.ownsBound
  case started => exact hs.started
  case mainRunning =>
    intro g hg hm
    by_cases hsrc : g = src
    · rw [hsrc] at hm ⊢
      exact hmain hm
    · exact hstate g hsrc (hs.mainRunning g hg hm)
  case threadMain => exact hs.threadMain
  case home =>
    intro th₁ g h th₂ h₂
    rcases hon' h₂ with h₂ | ⟨rfl, rfl⟩
    · exact hs.home th₁ g h th₂ h₂
    · exact (hown th₁ (.inl h)).symm
  case schedulerKind => exact hs.schedulerKind
  case owned => exact hs.owned
  case leaving =>
    intro th' g h hst
    rcases hon' h with hold | ⟨-, rfl⟩
    · by_cases hsrc : g = src
      · subst hsrc
        obtain rfl := hs.exclusive th' th g hold (.inl hrun)
        exact ⟨hrun, hsome th' (.inr rfl)⟩
      · obtain ⟨hrun', hswap'⟩ := hs.leaving th' g hold fun hold => hst (hstate g hsrc hold)
        exact ⟨hrun', hsome th' (.inl hswap')⟩
    · exact absurd hready hst
  case swapping =>
    intro th' a b h
    by_cases hth : th' = th
    · rw [hth, hself.1] at h
      obtain ⟨rfl, rfl⟩ := Prod.mk.inj (Option.some.inj h)
      exact ⟨hne, hth ▸ hself.2, hth ▸ hcall⟩
    · rw [(hother hth).1] at h
      rw [(hother hth).2]
      obtain ⟨hab, hfib, hcall'⟩ := hs.swapping th' a b h
      refine ⟨hab, hfib, hcall'.imp_left fun hold => ⟨hstate a ?_ hold.1, hold.2⟩⟩
      rintro rfl
      exact hth (hs.exclusive th' th a (.inl (hs.saves th' a b h)) (.inl hrun))
  case scheduled =>
    intro th' g u h hm hsched hu
    have hw := hs.scheduled th' g u h hm hsched hu
    have hsrc : u ≠ src := by
      rintro rfl
      obtain rfl := hw.others th (.inl hrun)
      exact hw.running hrun
    refine ⟨hstate u hsrc hw.state, hw.running, fun th'' h'' => ?_⟩
    rcases hon' h'' with h'' | ⟨rfl, rfl⟩
    · exact hw.others th'' h''
    · exact (hown th' (.inr ⟨hu, hw.state⟩)).symm
  case active => exact hs.active
  case entered => exact hs.entered
  case mainEntered => exact hs.mainEntered

omit [DecidableEq T] in
/-- Where a fiber is not `RUNNING` and no thread is on its stack, none is about to be. -/
lemma off_of_state (hs : s.Chain) (hst : s.state f ≠ .running) (hfree : ∀ th, s.running th ≠ some f)
    (th : T) : ¬ s.On th f :=
  fun h => hfree th (hs.leaving th f h hst).1

omit [DecidableEq T] in
/-- A thread that is not about to switch runs a fiber in state `RUNNING`. -/
lemma state_of_running (hs : s.Chain) (hrun : s.running th = some f) (hswap : s.swap th = none) :
    s.state f = .running := by
  by_contra hst
  exact (hs.leaving th f (.inl hrun) hst).2 hswap

lemma resume (hs : s.Chain) (hswap : s.swap th = none) (hf : f < s.fibers)
    (hG : s.running th = s.returnsTo th f ∧ ∀ th', s.running th' ≠ some f)
    (h : s.resume th f = some s') : s'.Chain := by
  simp only [FiberSwitch.resume, Fiber.resume] at h
  split at h
  next state t hready ht =>
    split_ifs at hready with hst
    obtain rfl := Option.some.inj hready
    obtain rfl := Option.some.inj h
    have hrun := hG.1.trans ht
    have hoff := hs.off_of_state (by simp [hst]) hG.2
    have hne : t ≠ f := by
      rintro rfl
      exact hG.2 th hrun
    have hstate := hs.state_of_running hrun hswap
    refine hs.call hswap hrun hne hf (fun th' h => absurd h (hoff th')) ?_ ?_ ?_ (by simp) ?_
    · rintro th' (h | ⟨-, h⟩)
      · have hmain := hs.mainRunning f hf (hs.threadMain th' f h)
        simp [hst] at hmain
      · simp [hst] at h
    · intro g _ hg
      by_cases hgf : g = f
      · simp [hgf]
      · simpa [hgf] using hg
    · simp [hne, hstate]
    · exact .inl ⟨by simp [hne, hstate], ht⟩
  next => cases h

lemma leave (hs : s.Chain) (hswap : s.swap th = none) (hrun : s.running th = some f)
    {v : FiberState} (h : s.leave th f (some (Function.update s.state f v)) = some s') :
    s'.Chain := by
  unfold FiberSwitch.leave at h
  split_ifs at h with hmain
  split at h
  next state t hstate ht =>
    obtain rfl := Option.some.inj hstate
    obtain rfl := Option.some.inj h
    have hmain' : s.main f = false := by simpa using hmain
    have hw := hs.waiting_of_returnsTo hrun hmain' ht
    have hne : f ≠ t := by
      rintro rfl
      exact hw.running hrun
    have howns : s.Owns th t := by
      unfold returnsTo at ht
      split_ifs at ht
      · exact .inr ht
      · exact .inl ht
    refine hs.call hswap hrun hne (hs.ownsBound th t howns) hw.others ?_ ?_ ?_ ?_ ?_
    · rintro th' (h | ⟨h, -⟩)
      · exact hs.owned th' th t (.inl h) howns
      · exact hs.owned th' th t (.inr h) howns
    · intro g hg hold
      simpa [hg] using hold
    · exact fun h => absurd h hmain
    · simp [hne.symm, hw.state]
    · exact .inr ⟨hmain', ht⟩
  next => cases h

omit [DecidableEq T] in
/-- The stack of the fiber that is switched to. -/
lemma ctx_of_swap (hs : s.Chain) {src dst : ℕ} (hswap : s.swap th = some (src, dst)) :
    (Function.update s.ctx src ⟨src, s.entries src⟩ dst).stack = dst := by
  have hne := (hs.swapping th src dst hswap).1
  have hon : s.On th dst := .inr ⟨src, hswap⟩
  have hfree : ∀ th', s.running th' ≠ some dst := by
    intro th' h
    obtain rfl := hs.exclusive th' th dst (.inl h) hon
    exact hne (Option.some.inj ((hs.saves th' src dst hswap).symm.trans h))
  rw [Function.update_of_ne hne.symm, hs.suspended dst (hs.bound th dst hon) hfree]

/-- The call of `swapcontext`. -/
lemma swapcontext (hs : s.Chain) {src dst : ℕ} (hswap : s.swap th = some (src, dst)) :
    (s.swapcontext th src src dst).Chain := by
  obtain ⟨hne, hfiber, hcall⟩ := hs.swapping th src dst hswap
  have hrun := hs.saves th src dst hswap
  have hon : s.On th dst := .inr ⟨src, hswap⟩
  simp only [FiberSwitch.swapcontext, hs.ctx_of_swap hswap]
  set s' : FiberSwitch T := { s with
    ctx := Function.update s.ctx src ⟨src, s.entries src⟩
    entries := Function.update s.entries dst (s.entries dst + 1)
    curr := if s.entries dst = 0 then Function.update s.curr dst (s.fiber th) else s.curr
    running := Function.update s.running th (some dst)
    swap := Function.update s.swap th none } with hs'
  have hother : ∀ {th'}, th' ≠ th → s'.swap th' = s.swap th' ∧ s'.running th' = s.running th' :=
    fun h => by simp [hs', h]
  have hself : s'.swap th = none ∧ s'.running th = some dst := by simp [hs']
  have hon' : ∀ {th' g}, s'.On th' g → s.On th' g := by
    intro th' g h
    by_cases hth : th' = th
    · rcases h with h | ⟨a, h⟩
      · rw [hth, hself.2] at h
        rw [hth, ← Option.some.inj h]
        exact hon
      · rw [hth, hself.1] at h
        cases h
    · exact h.imp (fun h => (hother hth).2.symm.trans h)
        fun ⟨a, h⟩ => ⟨a, (hother hth).1.symm.trans h⟩
  have hidle : ∀ {th' a b}, s'.swap th' = some (a, b) → th' ≠ th := by
    rintro th' a b h rfl
    rw [hself.1] at h
    cases h
  constructor
  case toStacks =>
    refine ⟨fun th' h => ?_, fun th' a b h => ?_,
      fun th₁ th₂ g h₁ h₂ => hs.exclusive th₁ th₂ g (hon' h₁) (hon' h₂), fun g hg h => ?_⟩
    · by_cases hth : th' = th
      · rw [hth, hself.2]
        exact hfiber
      · rw [(hother hth).1] at h
        rw [(hother hth).2]
        exact hs.current th' h
    · have hth := hidle h
      rw [(hother hth).1] at h
      rw [(hother hth).2]
      exact hs.saves th' a b h
    · have hdst : g ≠ dst := fun heq => h th (heq ▸ hself.2)
      by_cases hsrc : g = src
      · simp [hs', hsrc, hne]
      · simp only [hs', Function.update_of_ne hsrc, Function.update_of_ne hdst]
        refine hs.suspended g hg fun th' => ?_
        by_cases hth : th' = th
        · rw [hth, hrun]
          exact fun heq => hsrc (Option.some.inj heq).symm
        · exact (hother hth).2 ▸ h th'
  case bound => exact fun th' g h => hs.bound th' g (hon' h)
  case ownsBound => exact hs.ownsBound
  case started =>
    intro th' g h
    by_cases hth : th' = th
    · exact hth ▸ hs.started th src hrun
    · exact hs.started th' g ((hother hth).2.symm.trans h)
  case mainRunning => exact hs.mainRunning
  case threadMain => exact hs.threadMain
  case home => exact fun th' g h th'' h'' => hs.home th' g h th'' (hon' h'')
  case schedulerKind => exact hs.schedulerKind
  case owned => exact hs.owned
  case leaving =>
    intro th' g h hst
    obtain ⟨hrun', hswap'⟩ := hs.leaving th' g (hon' h) hst
    by_cases hth : th' = th
    · -- the thread has left the fiber that was about to leave
      subst hth
      obtain rfl : src = g := Option.some.inj (hrun.symm.trans hrun')
      rcases h with h | ⟨a, h⟩
      · exact absurd (Option.some.inj (hself.2.symm.trans h)).symm hne
      · rw [hself.1] at h
        cases h
    · rw [(hother hth).1, (hother hth).2]
      exact ⟨hrun', hswap'⟩
  case swapping =>
    intro th' a b h
    exact hs.swapping th' a b ((hother (hidle h)).1.symm.trans h)
  case scheduled =>
    intro th' g u h hm hsched hu
    by_cases hth : th' = th
    · subst hth
      obtain rfl : dst = g := Option.some.inj (hself.2.symm.trans h)
      rcases hcall with ⟨hst, hret⟩ | ⟨hm', hret⟩
      · -- the fiber of the scheduler has resumed a fiber
        obtain rfl : u = src := by
          rw [returnsTo, if_pos hsched] at hret
          exact Option.some.inj (hu.symm.trans hret)
        refine ⟨hst, fun heq => hne (Option.some.inj (hself.2.symm.trans heq)).symm,
          fun th'' h'' => hs.exclusive th'' th' u (hon' h'') (.inl hrun)⟩
      · -- a fiber that is returned to does not run in the scheduler
        have hthread : ¬ s.threadFiber th' = some dst := fun h => by
          simp [hs.threadMain th' dst h, hs'] at hm
        unfold returnsTo at hret
        split_ifs at hret
        · rcases hs.schedulerKind th' dst hret with h | h
          · exact absurd h hthread
          · exact absurd hsched (by simp [hs', h.2])
        · exact absurd hret hthread
    · have hw := hs.scheduled th' g u ((hother hth).2.symm.trans h) hm hsched hu
      refine ⟨hw.state, ?_, fun th'' h'' => hw.others th'' (hon' h'')⟩
      rw [(hother hth).2]
      exact hw.running
  case active =>
    intro th' g h
    by_cases hdst : g = dst
    · simp [hs', hdst]
    · by_cases hth : th' = th
      · rw [hth, hself.2] at h
        exact absurd (Option.some.inj h).symm hdst
      · simpa [hs', hdst] using hs.active th' g ((hother hth).2.symm.trans h)
  case entered =>
    intro g hg hm hent
    by_cases hdst : g = dst
    · subst hdst
      by_cases hfirst : s.entries g = 0
      · simp [hs', hfirst, hfiber]
      · simpa [hs', hfirst] using hs.entered g hg hm hfirst
    · have hold := hs.entered g hg hm (by simpa [hs', hdst] using hent)
      simp only [hs']
      split_ifs
      · rwa [Function.update_of_ne hdst]
      · exact hold

  case mainEntered =>
    intro g hg hm
    obtain ⟨hent, hcurr⟩ := hs.mainEntered g hg hm
    by_cases hdst : g = dst
    · subst hdst
      simp [hs', hent, hcurr]
    · simp only [hs', Function.update_of_ne hdst]
      split_ifs
      · rw [Function.update_of_ne hdst]
        exact ⟨hent, hcurr⟩
      · exact ⟨hent, hcurr⟩

end Chain

/-! ## Runs -/

lemma chain_init : (init : FiberSwitch T).Chain where
  current _ _ := rfl
  saves _ _ _ h := by cases h
  exclusive _ _ _ h := by rcases h with h | ⟨_, h⟩ <;> cases h
  suspended _ h := absurd h (Nat.not_lt_zero _)
  bound _ _ h := by rcases h with h | ⟨_, h⟩ <;> cases h
  ownsBound _ _ h := by rcases h with h | h <;> cases h
  started _ _ h := by cases h
  mainRunning _ h := absurd h (Nat.not_lt_zero _)
  threadMain _ _ h := by cases h
  home _ _ h := by cases h
  schedulerKind _ _ h := by cases h
  owned _ _ _ h := by rcases h with h | h <;> cases h
  leaving _ _ h := by rcases h with h | ⟨_, h⟩ <;> cases h
  swapping _ _ _ h := by cases h
  scheduled _ _ _ h := by cases h
  active _ _ h := by cases h
  entered _ h := absurd h (Nat.not_lt_zero _)
  mainEntered _ h := absurd h (Nat.not_lt_zero _)

variable [DecidableEq T] {a : FiberAction T}

lemma Chain.useCaller (hs : s.Chain) (hswap : s.swap th = none) (hG : s.Nested (.useCaller th)) :
    ({ s.newFiber false with
      schedulerFiber := Function.update s.schedulerFiber th (some s.fibers) } :
      FiberSwitch T).Chain := by
  obtain ⟨hon, howns⟩ := hs.ne_fibers
  refine (hs.newFiber false).setScheduler (f := s.fibers) (Nat.lt_succ_self _)
    (fun th' h => howns th' _ h rfl) (by simp [FiberSwitch.newFiber]) hswap fun g hg hm => ?_
  have hne := hon th g (.inl hg)
  simp only [FiberSwitch.newFiber, Function.update_of_ne hne] at hm ⊢
  exact hG g hg hm

lemma chain_step (hs : s.Chain) (hG : s.Nested a) (h : machine.step s a = some s') : s'.Chain := by
  cases a with
  | getThis th =>
    simp only [machine] at h
    split_ifs at h with hswap hfiber
    · obtain rfl := Option.some.inj h
      exact hs.newMain hswap ((hs.current th hswap).symm.trans hfiber)
    · obtain rfl := Option.some.inj h
      exact hs
  | new b =>
    obtain rfl := Option.some.inj h
    exact hs.newFiber b
  | useCaller th =>
    simp only [machine] at h
    split_ifs at h with hswap
    obtain rfl := Option.some.inj h
    exact hs.useCaller hswap.1 hG
  | resume th f =>
    simp only [machine] at h
    split_ifs at h with hf
    exact hs.resume hf.1 hf.2 hG h
  | yield th =>
    simp only [machine] at h
    split at h
    next f hswap hfiber =>
      have hrun := (hs.current th hswap).symm.trans hfiber
      rw [Fiber.yield_of_running (hs.state_of_running hrun hswap)] at h
      exact hs.leave hswap hrun h
    next => cases h
  | finish th =>
    simp only [machine] at h
    split at h
    next f hswap hcurr =>
      obtain ⟨x, hrun, hcurr⟩ := Option.bind_eq_some_iff.mp hcurr
      have hx := hs.bound th x (.inl hrun)
      cases hmain : s.main x with
      | true =>
        rw [(hs.mainEntered x hx hmain).2] at hcurr
        cases hcurr
      | false =>
        rw [hs.entered x hx hmain (hs.active th x hrun)] at hcurr
        obtain rfl := Option.some.inj hcurr
        rw [Fiber.finish_eq] at h
        exact hs.leave hswap hrun h
    next => cases h
  | swapcontext th =>
    simp only [machine] at h
    split at h
    next src dst x hswap hrun =>
      obtain rfl : src = x := Option.some.inj ((hs.saves th src dst hswap).symm.trans hrun)
      obtain rfl := Option.some.inj h
      exact hs.swapcontext hswap
    next => cases h

/-- A step that violates the condition mixes up two stacks, or leaves a fiber that will return to
one that does not wait for it. -/
lemma not_ownStacks (hs : s.Chain) (hG : ¬ s.Nested a) (h : machine.step s a = some s') :
    ¬ s'.OwnStacks := by
  intro hown
  cases a with
  | resume th f =>
    simp only [machine] at h
    split_ifs at h with hf
    simp only [FiberSwitch.resume, Fiber.resume] at h
    split at h
    next state t hready ht =>
      split_ifs at hready with hst
      obtain rfl := Option.some.inj h
      refine hG ⟨?_, fun th' hrun => ?_⟩
      · rw [ht]
        exact hown.saves th t f (by simp)
      · have hth : th' ≠ th := by
          rintro rfl
          simp [hs.state_of_running hrun hf.1] at hst
        exact hth (hown.exclusive th' th f (.inl hrun) (.inr ⟨t, by simp⟩))
    next => cases h
  | useCaller th =>
    simp only [machine] at h
    split_ifs at h with hswap
    obtain rfl := Option.some.inj h
    refine hG fun f hrun hmain => ?_
    by_contra hsched
    have hne := hs.ne_fibers.1 th f (.inl hrun)
    obtain ⟨t, ht, hw⟩ := hown.returns th f hrun (by simpa [newFiber, hne] using hmain) hswap.1
    have hsched' : s.runInScheduler f = true := by simpa using hsched
    obtain rfl : s.fibers = t := by simpa [returnsTo, newFiber, hne, hsched'] using ht
    have hstate := hw.state
    simp [newFiber] at hstate
  | _ => exact hG trivial

/-- **Every fiber has its own stack.**  Throughout a run, all threads and fibers find the fibers and
the stacks that are theirs, if and only if every `resume` is called by the fiber that the resumed
one will return to, no thread is still on the stack of the resumed fiber, and no fiber that runs in
the scheduler makes a new scheduler fiber for its thread. -/
theorem ownStacks_throughout_iff (as : List (FiberAction T)) (s : FiberSwitch T)
    (hrun : machine.run init as = some s) :
    machine.Throughout OwnStacks init as ↔ machine.Guarded Nested init as :=
  Machine.throughout_iff_guarded (fun _ _ _ hs hG h => chain_step hs hG h)
    (fun _ hs => hs.ownStacks) (fun _ _ _ hs hG h => not_ownStacks hs hG h) chain_init hrun

/-- On the caller's thread with a fiber for the scheduler, a task yields once and then ends. -/
def callerRun : List (FiberAction Unit) :=
  [.getThis (), .useCaller (), .new true, .resume () 1, .swapcontext (), .resume () 2,
    .swapcontext (), .yield (), .swapcontext (), .resume () 2, .swapcontext (), .finish (),
    .swapcontext (), .finish (), .swapcontext ()]

theorem ownStacks_throughout_callerRun : machine.Throughout OwnStacks init callerRun := by
  refine (ownStacks_throughout_iff callerRun _ rfl).mpr ?_
  have hcaller : ∀ s : FiberSwitch Unit, (∀ f, s.running () = some f → s.main f) →
      s.Nested (.useCaller ()) := fun s h f hf hm => by simp [h f hf] at hm
  refine .cons trivial rfl (.cons (hcaller _ ?_) rfl (.cons trivial rfl
    (.cons ⟨rfl, fun () => by decide⟩ rfl (.cons trivial rfl
    (.cons ⟨rfl, fun () => by decide⟩ rfl (.cons trivial rfl (.cons trivial rfl (.cons trivial rfl
    (.cons ⟨rfl, fun () => by decide⟩ rfl (.cons trivial rfl (.cons trivial rfl (.cons trivial rfl
    (.cons trivial rfl (.cons trivial rfl trivial))))))))))))))
  intro f hf
  obtain rfl : 0 = f := Option.some.inj hf
  rfl

/-- A task resumes another fiber.  When that one yields, the thread is back on the stack of the
task, but `GetThis` is the fiber of the thread, which the next `yield` of the task is on. -/
theorem stack_lost_by_nested_resume : ∃ s : FiberSwitch Unit,
    machine.run init [.getThis (), .new true, .new true, .resume () 1, .swapcontext (),
      .resume () 2, .swapcontext (), .yield (), .swapcontext ()] = some s ∧
      s.running () = some 1 ∧ s.fiber () = some 0 ∧ machine.step s (.yield ()) = none :=
  ⟨_, rfl, rfl, rfl, rfl⟩

end FiberSwitch

end CoroutineGateway
