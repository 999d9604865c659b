import CoroutineGateway.Construction.EventRegistry
import CoroutineGateway.Framework.Census
import Mathlib.Algebra.BigOperators.Group.Finset.Basic
import Mathlib.Algebra.BigOperators.Group.Finset.Piecewise
import Mathlib.Data.List.GetD
import Mathlib.Data.Multiset.AddSub

/-!
# The invariant of the event registry

`IOManager.Sound` ties together the four places where a registration is recorded: the bits of
the `FdContext`, its `EventContext`s, `m_pendingEventCount` and the mask in the kernel.  Beside
them stands the conservation of waiters: what was added is still registered, or was scheduled,
or was removed.

Every operation keeps it.  The operations that end registrations by `triggerEvent` do so in
several steps with broken counters in between; `IOManager.Core` is what holds at each of them,
and `IOManager.Triggered` says what triggering a set of registered events does.
-/

namespace CoroutineGateway

open Finset

variable {F C : Type*}

namespace EventContext

/-- A scheduler, and either a fiber or a callback. -/
def Armed (x : EventContext F C) : Prop :=
  x.scheduler ∧ ((x.fiber.isSome ∧ x.cb = none) ∨ (x.fiber = none ∧ x.cb.isSome))

lemma not_armed_reset : ¬ (reset : EventContext F C).Armed := by
  simp [Armed, reset]

lemma Armed.nonempty_task {x : EventContext F C} (h : x.Armed) : x.task.nonempty := by
  obtain ⟨-, ⟨hf, hc⟩ | ⟨hf, hc⟩⟩ := h
  · simp [task, hc, ScheduleTask.nonempty, hf]
  · obtain ⟨c, hc⟩ := Option.isSome_iff_exists.mp hc
    simp [task, hc, ScheduleTask.nonempty, ScheduleTask.ofCb]

end EventContext

namespace FdContext

variable {c : FdContext F C}

@[simp] lemma getEventContext_setEvent_self (c : FdContext F C) (e : Event)
    (x : EventContext F C) (events : Finset Event) :
    (c.setEvent e x events).getEventContext e = x := by
  cases e <;> rfl

@[simp] lemma getEventContext_setEvent_of_ne {e e' : Event} (h : e' ≠ e) (c : FdContext F C)
    (x : EventContext F C) (events : Finset Event) :
    (c.setEvent e x events).getEventContext e' = c.getEventContext e' := by
  cases e <;> cases e' <;> first | rfl | exact absurd rfl h

@[simp] lemma setEvent_events (c : FdContext F C) (e : Event) (x : EventContext F C)
    (events : Finset Event) : (c.setEvent e x events).events = events := by
  cases e <;> rfl

@[simp] lemma setEvent_fd (c : FdContext F C) (e : Event) (x : EventContext F C)
    (events : Finset Event) : (c.setEvent e x events).fd = c.fd := by
  cases e <;> rfl

/-- The contexts of the set bits are armed, the others are reset. -/
structure Tight (c : FdContext F C) : Prop where
  armed : ∀ e ∈ c.events, (c.getEventContext e).Armed
  idle : ∀ e ∉ c.events, c.getEventContext e = .reset

lemma Tight.mem_iff (hc : c.Tight) (e : Event) : e ∈ c.events ↔ (c.getEventContext e).Armed := by
  refine ⟨hc.armed e, fun harmed => ?_⟩
  by_contra he
  rw [hc.idle e he] at harmed
  exact EventContext.not_armed_reset harmed

lemma tight_new (fd : ℕ) : (new fd : FdContext F C).Tight where
  armed := by simp [new]
  idle e _ := by cases e <;> rfl

/-- The waiters registered with a context. -/
def waiters (c : FdContext F C) : Multiset (ScheduleTask F C) :=
  ∑ e ∈ c.events, {(c.getEventContext e).task}

/-- Ending the registration of one event. -/
lemma Tight.unregister (hc : c.Tight) (e : Event) :
    (c.setEvent e .reset (c.events.erase e)).Tight where
  armed e' he' := by
    rw [setEvent_events] at he'
    obtain ⟨hne, he'⟩ := mem_erase.mp he'
    simpa [hne] using hc.armed e' he'
  idle e' he' := by
    rw [setEvent_events] at he'
    by_cases hne : e' = e
    · subst hne
      simp
    · simpa [hne] using hc.idle e' fun h => he' (mem_erase.mpr ⟨hne, h⟩)

lemma waiters_unregister {e : Event} (he : e ∈ c.events) :
    (c.setEvent e .reset (c.events.erase e)).waiters + {(c.getEventContext e).task} =
      c.waiters := by
  unfold waiters
  rw [setEvent_events, ← sum_erase_add _ _ he]
  refine congrArg (· + _) (sum_congr rfl fun e' he' => ?_)
  simp [(mem_erase.mp he').1]

/-- Beginning the registration of one event. -/
lemma Tight.register (hc : c.Tight) (e : Event) {x : EventContext F C} (hx : x.Armed) :
    (c.setEvent e x (insert e c.events)).Tight where
  armed e' he' := by
    rw [setEvent_events] at he'
    by_cases hne : e' = e
    · subst hne
      simpa using hx
    · simpa [hne] using hc.armed e' (mem_of_mem_insert_of_ne he' hne)
  idle e' he' := by
    rw [setEvent_events, mem_insert, not_or] at he'
    simpa [he'.1] using hc.idle e' he'.2

lemma waiters_register {e : Event} (he : e ∉ c.events) (x : EventContext F C) :
    (c.setEvent e x (insert e c.events)).waiters = c.waiters + {x.task} := by
  unfold waiters
  rw [setEvent_events, sum_insert he, add_comm]
  refine congrArg₂ (· + ·) (sum_congr rfl fun e' he' => ?_) (by simp)
  have hne : e' ≠ e := fun h => he (h ▸ he')
  simp [hne]

/-- `triggerEvent` ends the registration of a set bit and hands over its waiter. -/
lemma Tight.triggerEvent (hc : c.Tight) {e : Event} (he : e ∈ c.events) :
    c.triggerEvent e =
      some (c.setEvent e .reset (c.events.erase e), (c.getEventContext e).task) :=
  if_pos ⟨he, (hc.armed e he).1⟩

lemma triggerEvent_of_notMem {e : Event} (he : e ∉ c.events) : c.triggerEvent e = none :=
  if_neg fun h => he h.1

end FdContext

namespace IOManager

/-- The mask that the kernel should hold for a context with these events. -/
def registered (events : Finset Event) : Option (Finset Event) :=
  if events = ∅ then none else some events

/-- The number of `READ` and `WRITE` bits set over all `FdContext`s. -/
def bits (m : IOManager F C) : ℕ := (m.fdContexts.map fun c => c.events.card).sum

/-- The waiters registered over all `FdContext`s. -/
def waiting (m : IOManager F C) : Multiset (ScheduleTask F C) :=
  (m.fdContexts.map FdContext.waiters).sum

/-- What holds of the contexts and the waiters also in the middle of an operation. -/
structure Core (m : IOManager F C) : Prop where
  size : 32 ≤ m.fdContexts.length
  fd_eq : ∀ fd, (m.context fd).fd = fd
  tight : ∀ fd, (m.context fd).Tight
  /-- A waiter is registered, or was scheduled, or was removed. -/
  conserved : (m.added : Multiset (ScheduleTask F C)) = m.waiting + m.scheduled + m.removed
  nonempty : ∀ t ∈ m.scheduled, t.nonempty

/-- Besides, the kernel holds the mask of every descriptor that has one. -/
structure Held (m : IOManager F C) : Prop extends m.Core where
  epoll_eq : ∀ fd e, e ∈ (m.context fd).events → m.epoll fd = some (m.context fd).events

/-- The invariant of the registry. -/
structure Sound (tickleFd : ℕ) (m : IOManager F C) : Prop extends m.Core where
  count : m.pendingEventCount = m.bits
  kernel : ∀ fd, fd ≠ tickleFd → m.epoll fd = registered (m.context fd).events
  tickle : m.epoll tickleFd = some {.read} ∧ (m.context tickleFd).events = ∅

variable {m m' : IOManager F C} {fd : ℕ}

/-! ## Contexts -/

lemma context_of_lt (h : fd < m.fdContexts.length) : m.context fd = m.fdContexts[fd] :=
  List.getD_eq_getElem _ _ h

lemma context_of_le (h : m.fdContexts.length ≤ fd) : m.context fd = .new fd :=
  List.getD_eq_default _ _ h

lemma lt_length_of_mem {e : Event} (he : e ∈ (m.context fd).events) :
    fd < m.fdContexts.length := by
  by_contra h
  simp [context_of_le (Nat.not_lt.mp h), FdContext.new] at he

lemma context_setContext (h : fd < m.fdContexts.length) (c : FdContext F C) (g : ℕ) :
    (m.setContext fd c).context g = if g = fd then c else m.context g := by
  split_ifs with hg
  · subst hg
    rw [context_of_lt (by simpa [setContext] using h)]
    simp [setContext]
  · simp [context, setContext, List.getD_eq_getElem?_getD, List.getElem?_set_ne (Ne.symm hg)]

lemma bits_setContext (h : fd < m.fdContexts.length) (c : FdContext F C) :
    (m.setContext fd c).bits + (m.context fd).events.card = m.bits + c.events.card := by
  rw [context_of_lt h]
  exact sum_map_set_add (fun c => c.events.card) c h

lemma waiting_setContext (h : fd < m.fdContexts.length) (c : FdContext F C) :
    (m.setContext fd c).waiting + (m.context fd).waiters = m.waiting + c.waiters := by
  rw [context_of_lt h]
  exact sum_map_set_add FdContext.waiters c h

/-! ## Growing the table -/

lemma contextResize_of_le {cs : List (FdContext F C)} {size : ℕ} (h : cs.length ≤ size) :
    contextResize cs size = cs ++ (List.range' cs.length (size - cs.length)).map .new := by
  rw [contextResize, List.take_of_length_le h]

/-- The registry after `contextResize`. -/
def grow (m : IOManager F C) (size : ℕ) : IOManager F C :=
  { m with fdContexts := contextResize m.fdContexts size }

lemma length_grow {size : ℕ} (h : m.fdContexts.length ≤ size) :
    (m.grow size).fdContexts.length = size := by
  simp only [grow, contextResize_of_le h, List.length_append, List.length_map,
    List.length_range']
  omega

lemma context_grow {size : ℕ} (h : m.fdContexts.length ≤ size) (g : ℕ) :
    (m.grow size).context g = m.context g := by
  simp only [context, grow, contextResize_of_le h, List.getD_eq_getElem?_getD]
  rcases Nat.lt_or_ge g m.fdContexts.length with hg | hg
  · rw [List.getElem?_append_left hg]
  · rw [List.getElem?_append_right hg, List.getElem?_eq_none hg, List.getElem?_map]
    cases hnew : (List.range' m.fdContexts.length (size - m.fdContexts.length))[
        g - m.fdContexts.length]? with
    | none => rfl
    | some i =>
      obtain rfl : i = g := by
        rw [List.getElem?_eq_some_iff] at hnew
        obtain ⟨hi, hnew⟩ := hnew
        rw [List.getElem_range'] at hnew
        omega
      rfl

lemma sum_grow {M : Type*} [AddCommMonoid M] (f : FdContext F C → M) (hf : ∀ fd, f (.new fd) = 0)
    {size : ℕ} (h : m.fdContexts.length ≤ size) :
    ((m.grow size).fdContexts.map f).sum = (m.fdContexts.map f).sum := by
  rw [grow, contextResize_of_le h, List.map_append, List.sum_append, List.map_map]
  have hnew : ((List.range' m.fdContexts.length (size - m.fdContexts.length)).map
      (f ∘ .new)).sum = 0 := by
    refine List.sum_eq_zero fun x hx => ?_
    obtain ⟨fd, -, rfl⟩ := List.mem_map.mp hx
    exact hf fd
  rw [hnew, add_zero]

lemma Core.grow (hm : m.Core) {size : ℕ} (h : m.fdContexts.length ≤ size) :
    (m.grow size).Core where
  size := (length_grow h).symm ▸ hm.size.trans h
  fd_eq g := by rw [context_grow h]; exact hm.fd_eq g
  tight g := by rw [context_grow h]; exact hm.tight g
  conserved := by
    have hwaiting : (m.grow size).waiting = m.waiting := sum_grow _ (fun _ => rfl) h
    rw [hwaiting]
    exact hm.conserved
  nonempty := hm.nonempty

lemma Held.grow (hm : m.Held) {size : ℕ} (h : m.fdContexts.length ≤ size) :
    (m.grow size).Held where
  toCore := hm.toCore.grow h
  epoll_eq g e he := by
    rw [context_grow h] at he ⊢
    exact hm.epoll_eq g e he

lemma Sound.grow {t : ℕ} (hm : m.Sound t) {size : ℕ} (h : m.fdContexts.length ≤ size) :
    (m.grow size).Sound t where
  toCore := hm.toCore.grow h
  count := by
    have hbits : (m.grow size).bits = m.bits := sum_grow _ (fun _ => rfl) h
    rw [hbits]
    exact hm.count
  kernel g hg := by rw [context_grow h]; exact hm.kernel g hg
  tickle := by rw [context_grow h]; exact hm.tickle

/-! ## Triggering registered events -/

/-- What triggering the registered events `real` of `fd` does.  The count may be off in the
middle of an operation; it moves with the bits. -/
structure Triggered (m : IOManager F C) (fd : ℕ) (real : Finset Event) (m' : IOManager F C) :
    Prop extends m'.Core where
  events : ∀ g, (m'.context g).events =
    if g = fd then (m.context fd).events \ real else (m.context g).events
  epoll : m'.epoll = m.epoll
  slack : m'.pendingEventCount - m'.bits = m.pendingEventCount - m.bits

/-- The context of `fd` is replaced by `c`, and the records account for the waiters. -/
lemma Core.change (hm : m.Core) (hfd : fd < m.fdContexts.length) {c : FdContext F C}
    (hc : c.fd = fd) (htight : c.Tight) (hcontexts : m'.fdContexts = m.fdContexts.set fd c)
    (hrecords : (m'.added + ((m.context fd).waiters + (m.scheduled + m.removed)) :
        Multiset (ScheduleTask F C)) = m.added + (c.waiters + (m'.scheduled + m'.removed)))
    (hnonempty : ∀ t ∈ m'.scheduled, t.nonempty) :
    m'.Core ∧ (∀ g, (m'.context g).events =
      if g = fd then c.events else (m.context g).events) ∧
      m'.bits + (m.context fd).events.card = m.bits + c.events.card := by
  have hcontext : ∀ g, m'.context g = if g = fd then c else m.context g := by
    intro g
    rw [← context_setContext hfd c g, context, hcontexts]
    rfl
  have hwaiting : m'.waiting + (m.context fd).waiters = m.waiting + c.waiters := by
    rw [← waiting_setContext hfd c, waiting, hcontexts]
    rfl
  refine ⟨⟨?_, fun g => ?_, fun g => ?_, ?_, hnonempty⟩, fun g => ?_, ?_⟩
  · simpa [hcontexts] using hm.size
  · rw [hcontext]
    split_ifs with hg
    · exact hc.trans hg.symm
    · exact hm.fd_eq g
  · rw [hcontext]
    split_ifs with hg
    · exact htight
    · exact hm.tight g
  · refine add_right_cancel (hrecords.trans ?_)
    rw [hm.conserved]
    calc m.waiting + m.scheduled + m.removed + (c.waiters + (m'.scheduled + m'.removed))
        = m.waiting + c.waiters + (m'.scheduled + m'.removed + m.scheduled + m.removed) := by
          ac_rfl
      _ = m'.waiting + m'.scheduled + m'.removed +
          ((m.context fd).waiters + (m.scheduled + m.removed)) := by
          rw [← hwaiting]
          ac_rfl
  · rw [hcontext]
    split_ifs <;> rfl
  · rw [← bits_setContext hfd c, bits, hcontexts]
    rfl

variable (m') in
/-- The registration of `e` at `fd` begins. -/
lemma Core.register (hm : m.Core) (hfd : fd < m.fdContexts.length) {e : Event}
    (he : e ∉ (m.context fd).events) {x : EventContext F C} (hx : x.Armed)
    (hcontexts : m'.fdContexts =
      m.fdContexts.set fd ((m.context fd).setEvent e x (insert e (m.context fd).events)))
    (hadded : m'.added = m.added ++ [x.task]) (hscheduled : m'.scheduled = m.scheduled)
    (hremoved : m'.removed = m.removed) :
    m'.Core ∧ (∀ g, (m'.context g).events =
      if g = fd then insert e (m.context fd).events else (m.context g).events) ∧
      m'.bits = m.bits + 1 := by
  obtain ⟨hcore, hevents, hbits⟩ := hm.change hfd
    ((FdContext.setEvent_fd _ _ _ _).trans (hm.fd_eq fd)) ((hm.tight fd).register e hx) hcontexts
    (by
      rw [FdContext.waiters_register he, hadded, hscheduled, hremoved, ← Multiset.coe_add,
        Multiset.coe_singleton]
      ac_rfl) (hscheduled ▸ hm.nonempty)
  rw [FdContext.setEvent_events, card_insert_of_notMem he] at hbits
  exact ⟨hcore, fun g => (hevents g).trans (by simp), by omega⟩

variable (m') in
/-- The registration of `e` at `fd` ends, and its waiter is scheduled or removed. -/
lemma Core.unregister (hm : m.Core) {e : Event} (he : e ∈ (m.context fd).events)
    (hcontexts : m'.fdContexts =
      m.fdContexts.set fd ((m.context fd).setEvent e .reset ((m.context fd).events.erase e)))
    (hadded : m'.added = m.added)
    (hscheduled : ∀ t ∈ m'.scheduled,
      t ∈ m.scheduled ∨ t = ((m.context fd).getEventContext e).task)
    (hmoved : (m'.scheduled + m'.removed : Multiset (ScheduleTask F C)) =
      m.scheduled + m.removed + {((m.context fd).getEventContext e).task}) :
    m'.Core ∧ (∀ g, (m'.context g).events =
      if g = fd then (m.context fd).events.erase e else (m.context g).events) ∧
      m'.bits + 1 = m.bits := by
  have hnonempty : ∀ t ∈ m'.scheduled, t.nonempty := by
    intro t ht
    rcases hscheduled t ht with ht | rfl
    · exact hm.nonempty t ht
    · exact ((hm.tight fd).armed e he).nonempty_task
  obtain ⟨hcore, hevents, hbits⟩ := hm.change (lt_length_of_mem he)
    ((FdContext.setEvent_fd _ _ _ _).trans (hm.fd_eq fd)) ((hm.tight fd).unregister e) hcontexts
    (by
      rw [hmoved, hadded, ← FdContext.waiters_unregister he]
      ac_rfl) hnonempty
  rw [FdContext.setEvent_events, ← card_erase_add_one he] at hbits
  exact ⟨hcore, fun g => (hevents g).trans (by simp), by omega⟩

lemma Core.triggerEvent (hm : m.Core) (fd : ℕ) (e : Event) (he : e ∈ (m.context fd).events) :
    ∃ m', m.triggerEvent fd e = some m' ∧ m'.Core ∧
      (∀ g, (m'.context g).events =
        if g = fd then (m.context fd).events.erase e else (m.context g).events) ∧
      m'.bits + 1 = m.bits ∧ m'.epoll = m.epoll ∧
      m'.pendingEventCount = m.pendingEventCount := by
  let m' : IOManager F C :=
    { m.setContext fd ((m.context fd).setEvent e .reset ((m.context fd).events.erase e)) with
      scheduled := m.scheduled ++ [((m.context fd).getEventContext e).task] }
  have htrigger : m.triggerEvent fd e = some m' := by
    simp [IOManager.triggerEvent, (hm.tight fd).triggerEvent he, m']
  obtain ⟨hcore, hevents, hbits⟩ := hm.unregister m' he rfl rfl
    (fun t ht => by simpa [m'] using ht) (by
    simp only [m', setContext, ← Multiset.coe_add, Multiset.coe_singleton]
    ac_rfl)
  exact ⟨m', htrigger, hcore, hevents, hbits, rfl, rfl⟩

lemma Triggered.refl (hm : m.Core) (fd : ℕ) : m.Triggered fd ∅ m where
  toCore := hm
  events g := by
    split_ifs with hg
    · rw [hg, sdiff_empty]
    · rfl
  epoll := rfl
  slack := rfl

lemma Triggered.trans {m'' : IOManager F C} {real real' : Finset Event}
    (h : m.Triggered fd real m') (h' : m'.Triggered fd real' m'') :
    m.Triggered fd (real ∪ real') m'' where
  toCore := h'.toCore
  events g := by
    rw [h'.events]
    by_cases hg : g = fd
    · rw [if_pos hg, if_pos hg, h.events, if_pos rfl, sdiff_sdiff_left]
      rfl
    · rw [if_neg hg, if_neg hg, h.events, if_neg hg]
  epoll := h'.epoll.trans h.epoll
  slack := h'.slack.trans h.slack

lemma Core.triggerIf (hm : m.Core) (fd : ℕ) (real : Finset Event) (e : Event)
    (he : e ∈ real → e ∈ (m.context fd).events) :
    ∃ m', m.triggerIf fd real e = some m' ∧ m.Triggered fd (real ∩ {e}) m' := by
  by_cases hreal : e ∈ real
  · obtain ⟨m', htrigger, hcore, hevents, hbits, hepoll, hcount⟩ := hm.triggerEvent fd e (he hreal)
    refine ⟨{ m' with pendingEventCount := m'.pendingEventCount - 1 }, ?_,
      ⟨⟨hcore.size, hcore.fd_eq, hcore.tight, hcore.conserved, hcore.nonempty⟩, fun g => ?_, hepoll,
        ?_⟩⟩
    · simp [IOManager.triggerIf, hreal, htrigger]
    · rw [inter_singleton_of_mem hreal, sdiff_singleton_eq_erase]
      exact hevents g
    · change m'.pendingEventCount - 1 - (m'.bits : ℤ) = _
      omega
  · refine ⟨m, by simp [IOManager.triggerIf, hreal], ?_⟩
    rw [inter_singleton_of_notMem hreal]
    exact .refl hm fd

/-- An unset bit makes the assertion of `triggerEvent` fail. -/
lemma triggerIf_of_notMem {real : Finset Event} {e : Event} (hreal : e ∈ real)
    (he : e ∉ (m.context fd).events) : m.triggerIf fd real e = none := by
  simp [IOManager.triggerIf, hreal, IOManager.triggerEvent, FdContext.triggerEvent_of_notMem he]

/-- `if (real & READ) { … } if (real & WRITE) { … }` -/
def triggerBoth (m : IOManager F C) (fd : ℕ) (real : Finset Event) : Option (IOManager F C) :=
  (m.triggerIf fd real .read).bind fun m => m.triggerIf fd real .write

lemma eq_union_inter (real : Finset Event) : real ∩ {.read} ∪ real ∩ {.write} = real := by
  ext e
  cases e <;> simp

lemma Core.triggerBoth (hm : m.Core) {real : Finset Event} (hreal : real ⊆ (m.context fd).events) :
    ∃ m', m.triggerBoth fd real = some m' ∧ m.Triggered fd real m' := by
  obtain ⟨m', hread, h⟩ := hm.triggerIf fd real .read (@hreal _)
  have hwrite : .write ∈ real → .write ∈ (m'.context fd).events := by
    intro hw
    rw [h.events, if_pos rfl]
    exact mem_sdiff.mpr ⟨hreal hw, by simp⟩
  obtain ⟨m'', hwrite, h'⟩ := h.toCore.triggerIf fd real .write hwrite
  refine ⟨m'', by simp [IOManager.triggerBoth, hread, hwrite], ?_⟩
  simpa only [eq_union_inter] using h.trans h'

lemma Core.triggerBoth_eq_none (hm : m.Core) {real : Finset Event}
    (hreal : ¬ real ⊆ (m.context fd).events) : m.triggerBoth fd real = none := by
  by_cases hread : .read ∈ real → .read ∈ (m.context fd).events
  · obtain ⟨m', htrigger, h⟩ := hm.triggerIf fd real .read hread
    have hwrite : .write ∈ real ∧ .write ∉ (m.context fd).events := by
      by_contra hw
      refine hreal fun e he => ?_
      cases e with
      | read => exact hread he
      | write => exact by_contra fun h => hw ⟨he, h⟩
    rw [IOManager.triggerBoth, htrigger]
    refine triggerIf_of_notMem hwrite.1 fun hmem => hwrite.2 ?_
    rw [h.events, if_pos rfl] at hmem
    exact (mem_sdiff.mp hmem).1
  · rw [Classical.not_imp] at hread
    simp [IOManager.triggerBoth, triggerIf_of_notMem hread.1 hread.2]

/-! ## The operations -/

lemma epollCtl_of_registered {epoll : ℕ → Option (Finset Event)} {events : Finset Event}
    (h : epoll fd = some events) (left : Finset Event) (fail : Bool) :
    epollCtl epoll fail (if left ≠ ∅ then .mod else .del) fd left =
      if fail then none else some (Function.update epoll fd (registered left)) := by
  unfold epollCtl registered
  by_cases hleft : left = ∅ <;> simp [h, hleft]

variable {t : ℕ}

/-- A set bit is the bit of a descriptor that the kernel holds with the same mask. -/
lemma Sound.ne_tickle (hm : m.Sound t) {e : Event} (he : e ∈ (m.context fd).events) : fd ≠ t := by
  rintro rfl
  simp [hm.tickle.2] at he

lemma Sound.epoll_eq (hm : m.Sound t) {e : Event} (he : e ∈ (m.context fd).events) :
    m.epoll fd = some (m.context fd).events := by
  rw [hm.kernel fd (hm.ne_tickle he), registered, if_neg (ne_empty_of_mem he)]

lemma Sound.held (hm : m.Sound t) : m.Held where
  toCore := hm.toCore
  epoll_eq _ _ he := hm.epoll_eq he

/-- What an operation does that has handed the mask of `fd` to the kernel. -/
structure Told (m : IOManager F C) (fd : ℕ) (m' : IOManager F C) : Prop extends m'.Core where
  events : ∀ g, g ≠ fd → (m'.context g).events = (m.context g).events
  epoll : m'.epoll = Function.update m.epoll fd (registered (m'.context fd).events)
  slack : m'.pendingEventCount - m'.bits = m.pendingEventCount - m.bits

lemma Core.told (hm' : m'.Core) (left : Finset Event)
    (hevents : ∀ g, (m'.context g).events = if g = fd then left else (m.context g).events)
    (hepoll : m'.epoll = Function.update m.epoll fd (registered left))
    (hcount : m'.pendingEventCount - m'.bits = m.pendingEventCount - m.bits) : m.Told fd m' where
  toCore := hm'
  events g hg := (hevents g).trans (if_neg hg)
  epoll := by rw [hepoll, hevents, if_pos rfl]
  slack := hcount

lemma Told.held (h : m.Told fd m') (hm : m.Held) : m'.Held where
  toCore := h.toCore
  epoll_eq g e he := by
    rw [h.epoll]
    by_cases hg : g = fd
    · subst hg
      rw [Function.update_self, registered, if_neg (ne_empty_of_mem he)]
    · rw [h.events g hg] at he ⊢
      rw [Function.update_of_ne hg]
      exact hm.epoll_eq g e he

lemma Told.sound (h : m.Told fd m') (hm : m.Sound t) (hfd : fd ≠ t) : m'.Sound t where
  toCore := h.toCore
  count := by
    have hcount := hm.count
    have hslack := h.slack
    omega
  kernel g hg := by
    rw [h.epoll]
    by_cases hgf : g = fd
    · rw [hgf, Function.update_self]
    · rw [Function.update_of_ne hgf, h.events g hgf]
      exact hm.kernel g hg
  tickle := by
    rw [h.epoll, Function.update_of_ne hfd.symm, h.events t hfd.symm]
    exact hm.tickle

/-- What an operation on the registrations of `fd` does: nothing, or it tells the kernel. -/
def Acted (m : IOManager F C) (fd : ℕ) (m' : IOManager F C) : Prop :=
  m' = m ∨ ((m.context fd).events.Nonempty ∧ m.Told fd m')

lemma Acted.held (h : m.Acted fd m') (hm : m.Held) : m'.Held := by
  rcases h with rfl | ⟨-, htold⟩
  · exact hm
  · exact htold.held hm

lemma Acted.sound (h : m.Acted fd m') (hm : m.Sound t) : m'.Sound t := by
  rcases h with rfl | ⟨⟨e, he⟩, htold⟩
  · exact hm
  · exact htold.sound hm (hm.ne_tickle he)

lemma delEvent_of_notMem {e : Event} (he : e ∉ (m.context fd).events) (fail : Bool) :
    m.delEvent fd e fail = (m, false) := by
  unfold IOManager.delEvent
  split_ifs
  · exact if_pos he
  · rfl

lemma cancelEvent_of_notMem {e : Event} (he : e ∉ (m.context fd).events) (fail : Bool) :
    m.cancelEvent fd e fail = some (m, false) := by
  unfold IOManager.cancelEvent
  split_ifs
  · exact if_pos he
  · rfl

/-! The two operations on a registered event, by what `epoll_ctl` answers. -/

section RemoveEvent

variable {e : Event} {fail : Bool} {epoll : ℕ → Option (Finset Event)}

lemma delEvent_of_none (he : e ∈ (m.context fd).events)
    (hctl : epollCtl m.epoll fail (if (m.context fd).events.erase e ≠ ∅ then .mod else .del) fd
      ((m.context fd).events.erase e) = none) :
    m.delEvent fd e fail = (m, true) := by
  unfold IOManager.delEvent
  dsimp only
  rw [if_pos (lt_length_of_mem he), if_neg (not_not.mpr he), hctl]

lemma cancelEvent_of_none (he : e ∈ (m.context fd).events)
    (hctl : epollCtl m.epoll fail (if (m.context fd).events.erase e ≠ ∅ then .mod else .del) fd
      ((m.context fd).events.erase e) = none) :
    m.cancelEvent fd e fail = some (m, true) := by
  unfold IOManager.cancelEvent
  dsimp only
  rw [if_pos (lt_length_of_mem he), if_neg (not_not.mpr he), hctl]

lemma delEvent_of_some (he : e ∈ (m.context fd).events)
    (hctl : epollCtl m.epoll fail (if (m.context fd).events.erase e ≠ ∅ then .mod else .del) fd
      ((m.context fd).events.erase e) = some epoll) :
    m.delEvent fd e fail =
      ({ m.setContext fd ((m.context fd).setEvent e .reset ((m.context fd).events.erase e)) with
        epoll := epoll, pendingEventCount := m.pendingEventCount - 1,
        removed := m.removed ++ [((m.context fd).getEventContext e).task] }, true) := by
  unfold IOManager.delEvent
  dsimp only
  rw [if_pos (lt_length_of_mem he), if_neg (not_not.mpr he), hctl]

lemma cancelEvent_of_some (he : e ∈ (m.context fd).events)
    (hctl : epollCtl m.epoll fail (if (m.context fd).events.erase e ≠ ∅ then .mod else .del) fd
      ((m.context fd).events.erase e) = some epoll) :
    m.cancelEvent fd e fail =
      (({ m with epoll := epoll, pendingEventCount := m.pendingEventCount - 1 } :
        IOManager F C).triggerEvent fd e).map fun m => (m, true) := by
  unfold IOManager.cancelEvent
  dsimp only
  rw [if_pos (lt_length_of_mem he), if_neg (not_not.mpr he), hctl]

lemma delEvent_of_fail (he : e ∈ (m.context fd).events) : m.delEvent fd e true = (m, true) :=
  delEvent_of_none he rfl

lemma cancelEvent_of_fail (he : e ∈ (m.context fd).events) :
    m.cancelEvent fd e true = some (m, true) :=
  cancelEvent_of_none he rfl

lemma Held.delEvent_eq (hm : m.Held) (he : e ∈ (m.context fd).events) :
    m.delEvent fd e false =
      ({ m.setContext fd ((m.context fd).setEvent e .reset ((m.context fd).events.erase e)) with
        epoll := Function.update m.epoll fd (registered ((m.context fd).events.erase e)),
        pendingEventCount := m.pendingEventCount - 1,
        removed := m.removed ++ [((m.context fd).getEventContext e).task] }, true) :=
  delEvent_of_some he (epollCtl_of_registered (hm.epoll_eq fd e he) _ false)

lemma Held.cancelEvent_eq (hm : m.Held) (he : e ∈ (m.context fd).events) :
    m.cancelEvent fd e false = (({ m with
      epoll := Function.update m.epoll fd (registered ((m.context fd).events.erase e)),
      pendingEventCount := m.pendingEventCount - 1 } : IOManager F C).triggerEvent fd e).map
        fun m => (m, true) :=
  cancelEvent_of_some he (epollCtl_of_registered (hm.epoll_eq fd e he) _ false)

end RemoveEvent

lemma Held.delEvent (hm : m.Held) (fd : ℕ) (e : Event) (fail : Bool) :
    m.Acted fd (m.delEvent fd e fail).1 := by
  by_cases he : e ∈ (m.context fd).events
  · cases fail with
    | true =>
      rw [delEvent_of_fail he]
      exact .inl rfl
    | false =>
      rw [hm.delEvent_eq he]
      obtain ⟨hcore, hevents, hbits⟩ := hm.toCore.unregister (m.delEvent fd e false).1 he
        (by rw [hm.delEvent_eq he]; rfl) (by rw [hm.delEvent_eq he]; rfl)
        (by rw [hm.delEvent_eq he]; exact fun t ht => .inl ht) (by
          rw [hm.delEvent_eq he]
          simp only [setContext, ← Multiset.coe_add, Multiset.coe_singleton]
          ac_rfl)
      rw [hm.delEvent_eq he] at hcore hevents hbits
      refine .inr ⟨⟨e, he⟩, hcore.told _ hevents rfl ?_⟩
      change m.pendingEventCount - 1 - _ = _
      omega
  · rw [delEvent_of_notMem he]
    exact .inl rfl

lemma Sound.delEvent (hm : m.Sound t) (fd : ℕ) (e : Event) (fail : Bool) :
    (m.delEvent fd e fail).1.Sound t :=
  (hm.held.delEvent fd e fail).sound hm

lemma Held.cancelEvent (hm : m.Held) (fd : ℕ) (e : Event) (fail : Bool) :
    ∃ r, m.cancelEvent fd e fail = some r ∧ m.Acted fd r.1 := by
  by_cases he : e ∈ (m.context fd).events
  · cases fail with
    | true => exact ⟨_, cancelEvent_of_fail he, .inl rfl⟩
    | false =>
      rw [hm.cancelEvent_eq he]
      let m0 : IOManager F C := { m with
        epoll := Function.update m.epoll fd (registered ((m.context fd).events.erase e)),
        pendingEventCount := m.pendingEventCount - 1 }
      have hcore : m0.Core := ⟨hm.size, hm.fd_eq, hm.tight, hm.conserved, hm.nonempty⟩
      obtain ⟨m', htrigger, hcore', hevents, hbits, hepoll, hcount⟩ :=
        hcore.triggerEvent fd e he
      refine ⟨(m', true), by rw [htrigger]; rfl, .inr ⟨⟨e, he⟩, ?_⟩⟩
      refine hcore'.told _ hevents hepoll ?_
      have hbits0 : m0.bits = m.bits := rfl
      have hcount0 : m0.pendingEventCount = m.pendingEventCount - 1 := rfl
      omega
  · exact ⟨_, cancelEvent_of_notMem he fail, .inl rfl⟩

lemma Sound.cancelEvent (hm : m.Sound t) (fd : ℕ) (e : Event) (fail : Bool) :
    ∃ r, m.cancelEvent fd e fail = some r ∧ r.1.Sound t := by
  obtain ⟨r, hr, hacted⟩ := hm.held.cancelEvent fd e fail
  exact ⟨r, hr, hacted.sound hm⟩

lemma triggerIf_congr {real real' : Finset Event} {e : Event} (h : e ∈ real ↔ e ∈ real') :
    m.triggerIf fd real e = m.triggerIf fd real' e := by
  unfold IOManager.triggerIf
  simp only [h]

/-- The kernel holds the mask `left` for `fd`. -/
def tell (m : IOManager F C) (fd : ℕ) (left : Finset Event) : IOManager F C :=
  { m with epoll := Function.update m.epoll fd (registered left) }

lemma Core.tell (hm : m.Core) (fd : ℕ) (left : Finset Event) : (m.tell fd left).Core :=
  ⟨hm.size, hm.fd_eq, hm.tight, hm.conserved, hm.nonempty⟩

/-- Triggering registered events after the kernel has been told what is left. -/
lemma Core.triggerTold (hm : m.Core) {real : Finset Event} (hreal : real ⊆ (m.context fd).events) :
    ∃ m', (m.tell fd ((m.context fd).events \ real)).triggerBoth fd real = some m' ∧
      m.Told fd m' ∧ (m'.context fd).events = (m.context fd).events \ real := by
  obtain ⟨m', htrigger, h⟩ := (hm.tell fd ((m.context fd).events \ real)).triggerBoth hreal
  refine ⟨m', htrigger, h.toCore.told _ h.events h.epoll h.slack, ?_⟩
  rw [h.events, if_pos rfl]
  rfl

lemma cancelAll_of_none (h : (m.context fd).events = ∅) (fail : Bool) :
    m.cancelAll fd fail = some (m, false) := by
  unfold IOManager.cancelAll
  split_ifs <;> rfl

lemma cancelAll_of_fail {e : Event} (he : e ∈ (m.context fd).events) :
    m.cancelAll fd true = some (m, true) := by
  unfold IOManager.cancelAll
  rw [if_pos (lt_length_of_mem he), if_neg (ne_empty_of_mem he)]
  rfl

lemma Held.cancelAll_eq (hm : m.Held) {e : Event} (he : e ∈ (m.context fd).events) :
    m.cancelAll fd false =
      ((m.tell fd ∅).triggerBoth fd (m.context fd).events).bind fun m =>
        if (m.context fd).events = ∅ then some (m, true) else none := by
  unfold IOManager.cancelAll IOManager.triggerBoth
  have hepoll : epollCtl m.epoll false .del fd ∅ = some (m.tell fd ∅).epoll := by
    simpa [IOManager.tell] using epollCtl_of_registered (hm.epoll_eq fd e he) ∅ false
  rw [if_pos (lt_length_of_mem he), if_neg (ne_empty_of_mem he), hepoll, Option.bind_assoc]
  dsimp only
  -- the second test reads the mask again, after the first bit is gone
  obtain ⟨m', hread, h⟩ := (hm.toCore.tell fd ∅).triggerIf fd
    (m.context fd).events .read id
  change Option.bind ((m.tell fd ∅).triggerIf fd _ .read) _ = _
  rw [hread, Option.bind_some, Option.bind_some, triggerIf_congr]
  rw [h.events, if_pos rfl]
  simp [IOManager.tell, context]

lemma Held.cancelAll (hm : m.Held) (fd : ℕ) (fail : Bool) :
    ∃ r, m.cancelAll fd fail = some r ∧ m.Acted fd r.1 := by
  rcases (m.context fd).events.eq_empty_or_nonempty with hnone | ⟨e, he⟩
  · exact ⟨_, cancelAll_of_none hnone fail, .inl rfl⟩
  · cases fail with
    | true => exact ⟨_, cancelAll_of_fail he, .inl rfl⟩
    | false =>
      have hall : (m.context fd).events ⊆ (m.context fd).events := Subset.rfl
      obtain ⟨m', htrigger, htold, hevents⟩ := hm.toCore.triggerTold hall
      rw [sdiff_self, bot_eq_empty] at htrigger hevents
      refine ⟨(m', true), ?_, .inr ⟨⟨e, he⟩, htold⟩⟩
      rw [hm.cancelAll_eq he, htrigger]
      exact if_pos hevents

lemma Sound.cancelAll (hm : m.Sound t) (fd : ℕ) (fail : Bool) :
    ∃ r, m.cancelAll fd fail = some r ∧ r.1.Sound t := by
  obtain ⟨r, hr, hacted⟩ := hm.held.cancelAll fd fail
  exact ⟨r, hr, hacted.sound hm⟩

/-- The bits of the report are all registered, or none is, or `epoll_ctl` fails. -/
def Clean (m : IOManager F C) (r : EpollEvent) (fail : Bool) : Prop :=
  fail ∨ (m.context r.fd).events ∩ m.realEvents r = ∅ ∨
    m.realEvents r ⊆ (m.context r.fd).events

lemma Held.dispatch_eq (hm : m.Held) {r : EpollEvent}
    (hmeet : (m.context r.fd).events ∩ m.realEvents r ≠ ∅) :
    m.dispatch r false =
      (m.tell r.fd ((m.context r.fd).events \ m.realEvents r)).triggerBoth r.fd
        (m.realEvents r) := by
  obtain ⟨e, he⟩ := nonempty_iff_ne_empty.mpr hmeet
  unfold IOManager.dispatch
  dsimp only
  rw [if_neg hmeet, hm.fd_eq, epollCtl_of_registered (hm.epoll_eq _ e (mem_inter.mp he).1)]
  rfl

lemma Held.dispatch (hm : m.Held) {r : EpollEvent} {fail : Bool} (hclean : m.Clean r fail) :
    ∃ m', m.dispatch r fail = some m' ∧ m.Acted r.fd m' := by
  by_cases hmeet : (m.context r.fd).events ∩ m.realEvents r = ∅
  · exact ⟨m, if_pos hmeet, .inl rfl⟩
  · cases fail with
    | true => exact ⟨m, if_neg hmeet, .inl rfl⟩
    | false =>
      have hreal : m.realEvents r ⊆ (m.context r.fd).events := by
        simpa [Clean, hmeet] using hclean
      obtain ⟨e, he⟩ := nonempty_iff_ne_empty.mpr hmeet
      obtain ⟨m', htrigger, htold, -⟩ := hm.toCore.triggerTold hreal
      exact ⟨m', (hm.dispatch_eq hmeet).trans htrigger, .inr ⟨⟨e, (mem_inter.mp he).1⟩, htold⟩⟩

lemma Sound.dispatch (hm : m.Sound t) {r : EpollEvent} {fail : Bool} (hclean : m.Clean r fail) :
    ∃ m', m.dispatch r fail = some m' ∧ m'.Sound t := by
  obtain ⟨m', hm', hacted⟩ := hm.held.dispatch hclean
  exact ⟨m', hm', hacted.sound hm⟩

/-- A report of which some bits are registered and some are not makes an assertion fail. -/
lemma Held.dispatch_eq_none (hm : m.Held) {r : EpollEvent} {fail : Bool}
    (hclean : ¬ m.Clean r fail) : m.dispatch r fail = none := by
  simp only [Clean, not_or, Bool.not_eq_true] at hclean
  obtain ⟨rfl, hmeet, hreal⟩ := hclean
  rw [hm.dispatch_eq hmeet]
  exact (hm.toCore.tell _ _).triggerBoth_eq_none hreal

/-- `idle` handles a report, and not one that makes it end the program. -/
lemma Held.dispatch_acted (hm : m.Held) {r : EpollEvent} {fail : Bool}
    (h : m.dispatch r fail = some m') : m.Acted r.fd m' := by
  have hclean : m.Clean r fail := by
    by_contra hclean
    exact absurd ((hm.dispatch_eq_none hclean).symm.trans h) (by simp)
  obtain ⟨m'', hm'', hacted⟩ := hm.dispatch hclean
  obtain rfl : m'' = m' := Option.some.inj (hm''.symm.trans h)
  exact hacted

lemma Held.reserve (hm : m.Held) (fd : ℕ) :
    (m.reserve fd).Held ∧ fd < (m.reserve fd).fdContexts.length := by
  unfold IOManager.reserve
  split_ifs with hfd
  · exact ⟨hm, hfd⟩
  · have hsize := hm.size
    have hle : m.fdContexts.length ≤ fd * 3 / 2 := by omega
    refine ⟨hm.grow hle, ?_⟩
    change fd < (m.grow (fd * 3 / 2)).fdContexts.length
    rw [length_grow hle]
    omega

lemma Sound.reserve (hm : m.Sound t) (fd : ℕ) :
    (m.reserve fd).Sound t ∧ fd < (m.reserve fd).fdContexts.length := by
  unfold IOManager.reserve
  split_ifs with hfd
  · exact ⟨hm, hfd⟩
  · have hsize := hm.size
    have hle : m.fdContexts.length ≤ fd * 3 / 2 := by omega
    refine ⟨hm.grow hle, ?_⟩
    change fd < (m.grow (fd * 3 / 2)).fdContexts.length
    rw [length_grow hle]
    omega

lemma armed_waiter (this : F) (cb : Option C) : (waiter this cb).Armed := by
  cases cb <;> simp [waiter, EventContext.Armed]

/-- The kernel refuses to register the pipe of `tickle()` again, and takes everything else. -/
lemma Sound.epollCtl_insert (hm : m.Sound t) {e : Event} (fail : Bool) :
    epollCtl m.epoll fail (if (m.context fd).events ≠ ∅ then .mod else .add) fd
        (insert e (m.context fd).events) =
      if fail ∨ fd = t then none
      else some (Function.update m.epoll fd (registered (insert e (m.context fd).events))) := by
  by_cases hfd : fd = t
  · subst hfd
    simp [epollCtl, hm.tickle]
  · have hkernel := hm.kernel fd hfd
    by_cases hevents : (m.context fd).events = ∅
    · simp only [registered, hevents, if_true] at hkernel
      cases fail <;> simp [epollCtl, hkernel, hevents, hfd, registered]
    · simp only [registered, hevents, if_false] at hkernel
      cases fail <;> simp [epollCtl, hkernel, hevents, hfd, registered]

lemma epollCtl_insert_eq {epoll epoll' : ℕ → Option (Finset Event)} {fail : Bool} {e : Event}
    {events : Finset Event} (h : epollCtl epoll fail (if events ≠ ∅ then .mod else .add) fd
      (insert e events) = some epoll') :
    epoll' = Function.update epoll fd (registered (insert e events)) := by
  rw [registered, if_neg (insert_ne_empty e events)]
  cases fail with
  | true => cases h
  | false =>
    by_cases hevents : events = ∅
    · cases hfd : epoll fd with
      | none => simpa [epollCtl, hevents, hfd, eq_comm] using h
      | some mask => simp [epollCtl, hevents, hfd] at h
    · cases hfd : epoll fd with
      | none => simp [epollCtl, hevents, hfd] at h
      | some mask => simpa [epollCtl, hevents, hfd, eq_comm] using h

/-- `addEvent` from a fiber that runs fails no assertion.  It may enlarge the table, and then does
nothing or registers the event. -/
lemma Held.addEvent (hm : m.Held) (this : F) {state : FiberState} (hstate : state = .running)
    (fd : ℕ) (e : Event) (cb : Option C) (fail : Bool) :
    ∃ r, m.addEvent this state fd e cb fail = some r ∧ (r.1 = m.reserve fd ∨
      ((epollCtl (m.reserve fd).epoll fail
        (if ((m.reserve fd).context fd).events ≠ ∅ then .mod else .add) fd
        (insert e ((m.reserve fd).context fd).events)).isSome ∧ (m.reserve fd).Told fd r.1)) := by
  obtain ⟨hm, hfd⟩ := hm.reserve fd
  unfold IOManager.addEvent
  generalize m.reserve fd = m at hm hfd
  dsimp only
  by_cases he : e ∈ (m.context fd).events
  · exact ⟨_, if_pos he, .inl rfl⟩
  · rw [if_neg he, (hm.tight fd).idle e he]
    cases hctl : epollCtl m.epoll fail (if (m.context fd).events ≠ ∅ then .mod else .add) fd
        (insert e (m.context fd).events) with
    | none => exact ⟨_, rfl, .inl rfl⟩
    | some epoll =>
      refine ⟨_, if_pos ⟨rfl, rfl, rfl, fun _ => hstate⟩, .inr ⟨rfl, ?_⟩⟩
      obtain ⟨hcore, hevents, hbits⟩ := hm.toCore.register ({ m.setContext fd
        ((m.context fd).setEvent e (waiter this cb) (insert e (m.context fd).events)) with
          epoll := epoll, pendingEventCount := m.pendingEventCount + 1,
          added := m.added ++ [(waiter this cb).task] })
        hfd he (armed_waiter this cb) rfl rfl rfl rfl
      refine hcore.told _ hevents (epollCtl_insert_eq hctl) ?_
      rw [hbits]
      change m.pendingEventCount + 1 - _ = _
      omega

lemma Held.addEvent_held (hm : m.Held) {this : F} {e : Event} {cb : Option C} {fail : Bool}
    {r : IOManager F C × ℤ} (h : m.addEvent this .running fd e cb fail = some r) : r.1.Held := by
  obtain ⟨r', hr', hacted⟩ := hm.addEvent this rfl fd e cb fail
  obtain rfl : r' = r := Option.some.inj (hr'.symm.trans h)
  have hreserve := (hm.reserve fd).1
  rcases hacted with hacted | ⟨-, htold⟩
  · rwa [hacted]
  · exact htold.held hreserve

lemma Sound.addEvent (hm : m.Sound t) (this : F) {state : FiberState} (hstate : state = .running)
    (fd : ℕ) (e : Event) (cb : Option C) (fail : Bool) :
    ∃ r, m.addEvent this state fd e cb fail = some r ∧ r.1.Sound t := by
  obtain ⟨r, hr, hacted⟩ := hm.held.addEvent this hstate fd e cb fail
  refine ⟨r, hr, ?_⟩
  have hreserve := (hm.reserve fd).1
  rcases hacted with hacted | ⟨hctl, htold⟩
  · rwa [hacted]
  · refine htold.sound hreserve fun hfd => ?_
    rw [hreserve.epollCtl_insert, if_pos (.inr hfd)] at hctl
    cases hctl

end IOManager

end CoroutineGateway
