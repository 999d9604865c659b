import CoroutineGateway.Properties.RegistryInvariant

/-!
# Runs of the event registry

With one worker the registry keeps its invariant on every run.  With several workers a report
can be out of date when it is handled: the early exit of `idle` looks at the events that are
both reported and registered, but the branches after it look at all that are reported, so a
report of which one event has been cancelled and the other has not makes the assertion of
`triggerEvent` fail.  That is the only way: the dispatches are safe throughout a run exactly
when the bits of every report that is handled are then all registered or none of them is, or
`epoll_ctl` fails.
-/

namespace CoroutineGateway

open Finset

variable {W F C : Type*}

namespace IOManager

/-- The invariant holds of a new registry, whose table has no events in it. -/
lemma sound_init (t : ℕ) : (init t : IOManager F C).Sound t := by
  let m : IOManager F C :=
    ⟨[], 0, fun fd => if fd = t then some {.read} else none, [], [], []⟩
  have hle : m.fdContexts.length ≤ 32 := Nat.zero_le 32
  have hinit : init t = m.grow 32 := rfl
  have hbits : (m.grow 32).bits = m.bits := sum_grow _ (fun _ => rfl) hle
  have hwaiting : (m.grow 32).waiting = m.waiting := sum_grow _ (fun _ => rfl) hle
  rw [hinit]
  refine ⟨⟨(length_grow hle).ge, fun fd => ?_, fun fd => ?_, ?_, ?_⟩, ?_, fun fd hfd => ?_, ?_⟩
  · rw [context_grow hle]
    rfl
  · rw [context_grow hle]
    exact FdContext.tight_new fd
  · rw [hwaiting]
    rfl
  · simp [grow, m]
  · rw [hbits]
    rfl
  · rw [context_grow hle]
    exact if_neg hfd
  · rw [context_grow hle]
    exact ⟨if_pos rfl, rfl⟩

end IOManager

namespace Registry

/-- Every worker is inside a fiber that is `RUNNING`, and no two are inside the same one. -/
structure Alive (s : Registry W F C) : Prop where
  running : ∀ w, s.state (s.current w) = .running
  own : ∀ w, s.state (.inl w) = .running
  own_only : ∀ v w, s.current v = .inl w → v = w
  injective : Function.Injective s.current

/-- The invariant of the registry and its workers. -/
structure Sound (t : ℕ) (s : Registry W F C) : Prop where
  manager : s.manager.Sound t
  alive : s.Alive
  going : s.aborted = false

lemma sound_init (t : ℕ) : (init t : Registry W F C).Sound t where
  manager := IOManager.sound_init t
  alive := ⟨fun _ => rfl, fun _ => rfl, fun _ _ h => Sum.inl.inj h, Sum.inl_injective⟩
  going := rfl

variable {t : ℕ} {s s' : Registry W F C} [DecidableEq W] [DecidableEq F]

omit [DecidableEq F] in
/-- No two workers are in one place after one of them has moved to where no other is. -/
lemma injective_update {α : Type*} {g : W → α} (hg : Function.Injective g) {w : W} {x : α}
    (hx : ∀ v ≠ w, g v ≠ x) : Function.Injective (Function.update g w x) := by
  intro v u h
  by_cases hv : v = w <;> by_cases hu : u = w
  · exact hv.trans hu.symm
  · rw [hv, Function.update_self, Function.update_of_ne hu] at h
    exact absurd h.symm (hx u hu)
  · rw [hu, Function.update_self, Function.update_of_ne hv] at h
    exact absurd h (hx v hv)
  · rw [Function.update_of_ne hv, Function.update_of_ne hu] at h
    exact hg h

lemma Alive.resume (hs : s.Alive) {w : W} {f : F} (hstep : s.resume w f = some s') :
    s'.Alive ∧ s'.manager = s.manager ∧ s'.aborted = s.aborted := by
  unfold Registry.resume at hstep
  split_ifs at hstep with hcurrent
  unfold Fiber.resume at hstep
  split_ifs at hstep with hready
  · obtain rfl := Option.some.inj hstep
    have hne : ∀ g, s.state g = .running → g ≠ .inr f := by
      rintro g hg rfl
      rw [hready] at hg
      cases hg
    refine ⟨⟨fun v => ?_, fun v => ?_, fun v u h => ?_,
      injective_update hs.injective fun v _ => hne _ (hs.running v)⟩, rfl, rfl⟩
    · by_cases hv : v = w
      · simp [hv]
      · simpa [Function.update_of_ne hv, Function.update_of_ne (hne _ (hs.running v))] using
          hs.running v
    · simpa using hs.own v
    · by_cases hv : v = w
      · simp [hv] at h
      · exact hs.own_only v u (by simpa [Function.update_of_ne hv] using h)
  · cases hstep

/-- A worker leaves a fiber that becomes `r`, and is back in its own one. -/
lemma Alive.leave (hs : s.Alive) {w : W} {r : FiberState}
    (hstep : s.leave w (some (Function.update s.state (s.current w) r)) = some s') :
    s'.Alive ∧ s'.manager = s.manager ∧ s'.aborted = s.aborted := by
  unfold Registry.leave at hstep
  split_ifs at hstep with hcurrent
  obtain rfl := Option.some.inj hstep
  have hown : ∀ v, Sum.inl v ≠ s.current w := by
    intro v h
    exact hcurrent (by rw [← h, hs.own_only w v h.symm])
  refine ⟨⟨fun v => ?_, fun v => ?_, fun v u h => ?_,
    injective_update hs.injective fun v hv h => hv (hs.own_only v w h)⟩, rfl, rfl⟩
  · dsimp only
    by_cases hv : v = w
    · rw [hv, Function.update_self, Function.update_of_ne (hown w)]
      exact hs.own w
    · rw [Function.update_of_ne hv, Function.update_of_ne fun h => hv (hs.injective h)]
      exact hs.running v
  · simpa [Function.update_of_ne (hown v)] using hs.own v
  · by_cases hv : v = w
    · simpa [hv] using h
    · exact hs.own_only v u (by simpa [Function.update_of_ne hv] using h)

/-- The report that the operation handles has all its bits registered or none, or `epoll_ctl`
fails. -/
def Clean (s : Registry W F C) : RegistryOp W F C → Prop
  | .dispatch w fail => ∀ r ∈ (s.inbox w).head?, s.manager.Clean r fail
  | _ => True

omit [DecidableEq W] [DecidableEq F] in
lemma Sound.commit (hs : s.Sound t) {o : Option (IOManager (W ⊕ F) C)}
    (h : ∃ m, o = some m ∧ m.Sound t) : (s.commit o).Sound t := by
  obtain ⟨m, rfl, hm⟩ := h
  exact ⟨hm, ⟨hs.alive.running, hs.alive.own, hs.alive.own_only, hs.alive.injective⟩, hs.going⟩

omit [DecidableEq W] [DecidableEq F] in
lemma Sound.commit_fst (hs : s.Sound t) {β : Type*} {o : Option (IOManager (W ⊕ F) C × β)}
    (h : ∃ r, o = some r ∧ r.1.Sound t) : (s.commit (o.map Prod.fst)).Sound t := by
  obtain ⟨r, rfl, hr⟩ := h
  exact hs.commit ⟨r.1, rfl, hr⟩

/-- A report is handled only if there is one. -/
lemma dispatch_of_step {w : W} {fail : Bool} (hstep : s.step t (.dispatch w fail) = some s') :
    ∃ r rest, s.inbox w = r :: rest ∧
      s' = { s.commit (s.manager.dispatch r fail) with
        inbox := Function.update s.inbox w rest } := by
  cases hinbox : s.inbox w with
  | nil => simp [step, hinbox] at hstep
  | cons r rest =>
    simp only [step, hinbox, Option.some.injEq] at hstep
    exact ⟨r, rest, rfl, hstep.symm⟩

/-- Every operation keeps the invariant, where a report that is handled is clean. -/
theorem sound_step (hs : s.Sound t) (a : RegistryOp W F C) (hclean : s.Clean a)
    (hstep : s.step t a = some s') : s'.Sound t := by
  cases a with
  | resume w f =>
    obtain ⟨halive, hmanager, haborted⟩ := hs.alive.resume hstep
    exact ⟨hmanager ▸ hs.manager, halive, haborted.trans hs.going⟩
  | yield w =>
    rw [step, Fiber.yield_of_running (hs.alive.running w)] at hstep
    obtain ⟨halive, hmanager, haborted⟩ := hs.alive.leave hstep
    exact ⟨hmanager ▸ hs.manager, halive, haborted.trans hs.going⟩
  | finish w =>
    rw [step, Fiber.finish_eq] at hstep
    obtain ⟨halive, hmanager, haborted⟩ := hs.alive.leave hstep
    exact ⟨hmanager ▸ hs.manager, halive, haborted.trans hs.going⟩
  | addEvent w fd e cb fail =>
    obtain rfl := Option.some.inj hstep
    exact hs.commit_fst (hs.manager.addEvent _ (hs.alive.running w) fd e cb fail)
  | delEvent w fd e fail =>
    obtain rfl := Option.some.inj hstep
    exact hs.commit ⟨_, rfl, hs.manager.delEvent fd e fail⟩
  | cancelEvent w fd e fail =>
    obtain rfl := Option.some.inj hstep
    exact hs.commit_fst (hs.manager.cancelEvent fd e fail)
  | cancelAll w fd fail =>
    obtain rfl := Option.some.inj hstep
    exact hs.commit_fst (hs.manager.cancelAll fd fail)
  | epollWait w events =>
    rw [step] at hstep
    split_ifs at hstep
    obtain rfl := Option.some.inj hstep
    exact ⟨hs.manager, ⟨hs.alive.running, hs.alive.own, hs.alive.own_only, hs.alive.injective⟩,
      hs.going⟩
  | dispatch w fail =>
    obtain ⟨r, rest, hinbox, rfl⟩ := dispatch_of_step hstep
    have hr : s.manager.Clean r fail := hclean r (by simp [hinbox])
    obtain ⟨hm, ⟨hrunning, hown, honly, hinj⟩, hgoing⟩ := hs.commit (hs.manager.dispatch hr)
    exact ⟨hm, ⟨hrunning, hown, honly, hinj⟩, hgoing⟩

/-- Handling a report of which some bits are registered and some are not fails an assertion. -/
theorem aborted_of_not_clean (hs : s.Sound t) (a : RegistryOp W F C) (hclean : ¬ s.Clean a)
    (hstep : s.step t a = some s') : s'.aborted = true := by
  cases a with
  | dispatch w fail =>
    obtain ⟨r, rest, hinbox, rfl⟩ := dispatch_of_step hstep
    have hr : ¬ s.manager.Clean r fail := by simpa [Clean, hinbox] using hclean
    rw [hs.manager.held.dispatch_eq_none hr]
    rfl
  | _ => exact absurd trivial hclean

/-! ## One worker -/

/-- What the registry promises between two operations. -/
structure Consistent (t : ℕ) (s : Registry W F C) : Prop where
  /-- `m_pendingEventCount` is the number of bits set. -/
  count : s.manager.pendingEventCount = s.manager.bits
  /-- A bit is set where the context has a scheduler and either a fiber or a callback. -/
  armed : ∀ fd e, e ∈ (s.manager.context fd).events ↔
    ((s.manager.context fd).getEventContext e).Armed
  /-- The kernel holds the mask of the `FdContext`. -/
  kernel : ∀ fd, fd ≠ t → s.manager.epoll fd = IOManager.registered (s.manager.context fd).events
  /-- The pipe of `tickle()` stays as the constructor has registered it. -/
  tickle : s.manager.epoll t = some {.read} ∧ (s.manager.context t).events = ∅
  /-- The operation chosen to end a registration is one that the kernel takes. -/
  chosen_left : ∀ fd e left, e ∈ (s.manager.context fd).events →
    (epollCtl s.manager.epoll false (if left ≠ ∅ then .mod else .del) fd left).isSome
  /-- So is the one chosen to begin a registration. -/
  chosen_insert : ∀ fd e, fd ≠ t → (epollCtl s.manager.epoll false
    (if (s.manager.context fd).events ≠ ∅ then .mod else .add) fd
    (insert e (s.manager.context fd).events)).isSome
  /-- Every waiter added is registered, or was scheduled, or was removed. -/
  waiters : (s.manager.added : Multiset (ScheduleTask (W ⊕ F) C)) =
    s.manager.waiting + s.manager.scheduled + s.manager.removed
  /-- No assertion has failed. -/
  assertions : s.aborted = false

omit [DecidableEq W] [DecidableEq F] in
lemma Sound.consistent (hs : s.Sound t) : s.Consistent t where
  count := hs.manager.count
  armed fd e := (hs.manager.tight fd).mem_iff e
  kernel := hs.manager.kernel
  tickle := hs.manager.tickle
  chosen_left fd e left he := by
    rw [IOManager.epollCtl_of_registered (hs.manager.epoll_eq he)]
    rfl
  chosen_insert fd e hfd := by
    rw [hs.manager.epollCtl_insert, if_neg (by simp [hfd])]
    rfl
  waiters := hs.manager.conserved
  assertions := hs.going

omit [DecidableEq W] [DecidableEq F] in
/-- A report of registered events, with errors and hang-ups or not, is clean. -/
lemma Sound.clean_of_reported (hs : s.Sound t) {a : RegistryOp W F C}
    (h : ∀ r ∈ s.handled a, s.Reported t r) : s.Clean a := by
  cases a with
  | dispatch w fail =>
    intro r hr
    obtain ⟨hfd, events, hevents, hsub⟩ := h r hr
    rw [hs.manager.kernel r.fd hfd, IOManager.registered] at hevents
    split_ifs at hevents with hempty
    · simp at hevents
    · obtain rfl := Option.some.inj hevents
      refine .inr (.inr ?_)
      unfold IOManager.realEvents
      split_ifs
      · exact union_subset hsub Subset.rfl
      · exact hsub
  | _ => trivial

/-- **The registry of one worker.**  In every reachable state the bits, the contexts, the count
and the kernel agree, no waiter is lost or scheduled twice, and no assertion has failed. -/
theorem consistent_of_run (t : ℕ) (as : List (RegistryOp Unit F C)) (s : Registry Unit F C)
    (hrun : (soleMachine t).run (init t) as = some s) : s.Consistent t := by
  refine Sound.consistent (Machine.run_invariant (fun s a s' hs hstep => ?_) (sound_init t) hrun)
  simp only [soleMachine, machine] at hstep
  split_ifs at hstep with hreported _
  exact sound_step hs a (hs.clean_of_reported hreported) hstep

/-- A fiber waits for both events of a descriptor, and one of them is reported. -/
def readReadyRun : List (RegistryOp Unit ℕ ℕ) :=
  [.resume () 0, .addEvent () 5 .read none false, .addEvent () 5 .write (some 7) false,
    .yield (), .epollWait () [⟨5, {.read}, false⟩], .dispatch () false]

theorem consistent_of_readReadyRun : ∃ s : Registry Unit ℕ ℕ,
    (soleMachine 3).run (init 3) readReadyRun = some s ∧
      s.manager.scheduled = [.ofFiber (.inr 0) (-1)] ∧ s.Consistent 3 :=
  ⟨_, rfl, rfl, consistent_of_run 3 readReadyRun _ rfl⟩

/-! ## Several workers -/

/-- What dispatching promises: no assertion has failed, no empty context has been scheduled, and
`m_pendingEventCount` is not below the number of registered events. -/
structure DispatchSafe (s : Registry W F C) : Prop where
  assertions : s.aborted = false
  nonempty : ∀ t ∈ s.manager.scheduled, t.nonempty
  count : s.manager.bits ≤ s.manager.pendingEventCount

/-- **When dispatching is safe.**  It is safe in every state of a run if and only if the bits of
every report are, when it is handled, all registered or none of them, or `epoll_ctl` fails. -/
theorem dispatchSafe_throughout_iff (t : ℕ) (as : List (RegistryOp W F C)) (s : Registry W F C)
    (hrun : (machine t).run (init t) as = some s) :
    (machine t).Throughout DispatchSafe (init t : Registry W F C) as ↔
      (machine t).Guarded Clean (init t : Registry W F C) as := by
  have hstep : ∀ (s : Registry W F C) a s', (machine t).step s a = some s' →
      s.step t a = some s' := by
    intro s a s' h
    simp only [machine] at h
    split_ifs at h
    exact h
  refine Machine.throughout_iff_guarded (I := Sound t)
    (fun s a s' hs hclean h => sound_step hs a hclean (hstep s a s' h))
    (fun s hs => ⟨hs.going, hs.manager.nonempty, hs.manager.count.ge⟩)
    (fun s a s' hs hclean h hsafe => ?_) (sound_init t) hrun
  have haborted := aborted_of_not_clean hs a hclean (hstep s a s' h)
  rw [hsafe.assertions] at haborted
  cases haborted

/-- Both events of a descriptor are reported to one worker; before it handles the report, the
other worker cancels one of them. -/
def staleReportRun : List (RegistryOp Bool ℕ ℕ) :=
  [.addEvent true 5 .read (some 0) false, .addEvent true 5 .write (some 1) false,
    .epollWait false [⟨5, {.read, .write}, false⟩], .cancelEvent true 5 .read false,
    .dispatch false false]

theorem dispatchSafe_staleReportRun_iff :
    (machine 3).Throughout DispatchSafe (init 3 : Registry Bool ℕ ℕ) staleReportRun ↔
      (machine 3).Guarded Clean (init 3 : Registry Bool ℕ ℕ) staleReportRun :=
  dispatchSafe_throughout_iff 3 staleReportRun _ rfl

/-- The assertion of `triggerEvent` fails for the event that was cancelled. -/
theorem staleReport_aborts :
    ¬ ∀ (as : List (RegistryOp Bool ℕ ℕ)) (s : Registry Bool ℕ ℕ),
      (machine 3).run (init 3) as = some s → s.DispatchSafe := by
  intro hall
  have hsafe := hall staleReportRun _ rfl
  exact absurd hsafe.assertions (by decide)

end Registry

end CoroutineGateway
