import CoroutineGateway.Construction.Suspension
import CoroutineGateway.Properties.EventRemoval

/-!
# Which fiber waits for what

A fiber that has called `addEvent` without a callback is in the `EventContext` of the event until
the registration ends.  `Frees` says what the operations that end registrations do to the fibers
that wait, and `addEvent_waits` what `addEvent` does.

A fiber that yields after each `addEvent` waits in one place at most.  `Seated` counts how often it
has been scheduled: as often as it has been resumed, and once more when it waits no longer.
-/

namespace CoroutineGateway

open Finset

namespace IOManager

variable {F C : Type*} {m m' : IOManager F C} {f : F} {fd g t : ℕ} {e : Event}
  {gone real : Finset Event}

/-- The fiber is to be scheduled for the event. -/
def Waits (m : IOManager F C) (f : F) (fd : ℕ) (e : Event) : Prop :=
  e ∈ (m.context fd).events ∧ ((m.context fd).getEventContext e).fiber = some f

/-- The registrations `gone` of `fd` have ended, and no task was scheduled but for some of them. -/
structure Frees (m : IOManager F C) (fd : ℕ) (gone : Finset Event) (m' : IOManager F C) : Prop where
  waits : ∀ f g e, m'.Waits f g e ↔ m.Waits f g e ∧ ¬ (g = fd ∧ e ∈ gone)
  scheduled : ∃ l : List Event, l.Nodup ∧ (∀ e ∈ l, e ∈ gone ∧ e ∈ (m.context fd).events) ∧
    m'.scheduled = m.scheduled ++ l.map fun e => ((m.context fd).getEventContext e).task

lemma Frees.refl (m : IOManager F C) (fd : ℕ) : m.Frees fd ∅ m where
  waits f g e := by simp
  scheduled := ⟨[], List.nodup_nil, fun e he => absurd he List.not_mem_nil, by simp⟩

lemma nodup_filter_events (p : Event → Bool) : ([Event.read, .write].filter p).Nodup :=
  (by decide : [Event.read, .write].Nodup).filter p

lemma Removed.waits_iff {woken : List (ScheduleTask F C)} (h : m.Removed fd gone woken m') :
    m'.Waits f g e ↔ m.Waits f g e ∧ ¬ (g = fd ∧ e ∈ gone) := by
  simp only [Waits, h.events, h.contexts]
  by_cases hg : g = fd
  · by_cases he : e ∈ gone
    · simp [hg, he]
    · simp [hg, he]
  · simp [hg]

/-- The waiters of the registrations that have ended were scheduled. -/
lemma Removed.frees {p : Event → Bool} (h : m.Removed fd gone
      (([.read, .write].filter p).map fun e => ((m.context fd).getEventContext e).task) m')
    (hp : ∀ e, p e = true → e ∈ gone) (hgone : gone ⊆ (m.context fd).events) :
    m.Frees fd gone m' where
  waits _ _ _ := h.waits_iff
  scheduled := by
    refine ⟨_, nodup_filter_events p, fun e he => ?_, h.scheduled⟩
    have hmem := hp e (List.mem_filter.mp he).2
    exact ⟨hmem, hgone hmem⟩

lemma RemovalOp.frees {op : RemovalOp}
    (h : m.Removed fd (op.asked (m.context fd)) (op.woken (m.context fd)) m') :
    m.Frees fd (op.asked (m.context fd)) m' := by
  cases op with
  | delEvent e =>
    exact ⟨fun _ _ _ => h.waits_iff, [], List.nodup_nil, fun e he => absurd he List.not_mem_nil,
      h.scheduled⟩
  | cancelEvent e | cancelAll =>
    exact Removed.frees h (fun e he => by simpa using he) (asked_subset _ _)

/-- An operation that ends registrations: it does so, or does nothing. -/
lemma run_cases (op : RemovalOp) (htight : (m.context fd).Tight) {fail b : Bool}
    (h : op.run m fd fail = some (m', b)) :
    (m' = m ∧ ((op.asked (m.context fd)).Nonempty → op.CtlFails m fd fail)) ∨
      m.Removed fd (op.asked (m.context fd)) (op.woken (m.context fd)) m' := by
  by_cases hasked : (op.asked (m.context fd)).Nonempty
  · by_cases hctl : op.CtlFails m fd fail
    · obtain ⟨rfl, -⟩ := Prod.mk.inj
        (Option.some.inj ((run_of_ctlFails op hasked hctl).symm.trans h))
      exact .inl ⟨rfl, fun _ => hctl⟩
    · obtain ⟨m'', hrun, hremoved⟩ := run_removed htight op hasked hctl
      obtain ⟨rfl, -⟩ := Prod.mk.inj (Option.some.inj (h.symm.trans hrun))
      exact .inr hremoved
  · obtain ⟨rfl, -⟩ := Prod.mk.inj
      (Option.some.inj ((run_of_not_asked op fail hasked).symm.trans h))
    exact .inl ⟨rfl, fun h => absurd h hasked⟩

/-- An operation that ends registrations. -/
lemma run_frees (op : RemovalOp) (htight : (m.context fd).Tight) {fail b : Bool}
    (h : op.run m fd fail = some (m', b)) :
    ∃ gone ⊆ op.asked (m.context fd), m.Frees fd gone m' := by
  rcases run_cases op htight h with ⟨rfl, -⟩ | hremoved
  · exact ⟨∅, empty_subset _, .refl m' fd⟩
  · exact ⟨_, Subset.refl _, RemovalOp.frees hremoved⟩

/-! ## Reports -/

/-- `triggerEvent` asserts that the event is registered. -/
lemma subset_of_triggerBoth (hm : m.Core) (h : m.triggerBoth fd real = some m') :
    real ⊆ (m.context fd).events := by
  by_contra hreal
  simp [hm.triggerBoth_eq_none hreal] at h

/-- The handling of a report ends the registrations that it is of, or does nothing. -/
lemma Held.dispatch_cases (hm : m.Held) {r : EpollEvent} {fail : Bool}
    (h : m.dispatch r fail = some m') : m' = m ∨
      (m.realEvents r ⊆ (m.context r.fd).events ∧ m.Removed r.fd (m.realEvents r)
        (([.read, .write].filter (· ∈ m.realEvents r)).map fun e =>
          ((m.context r.fd).getEventContext e).task) m') := by
  by_cases hmeet : (m.context r.fd).events ∩ m.realEvents r = ∅
  · exact .inl (Option.some.inj ((if_pos hmeet).symm.trans h)).symm
  · cases fail with
    | true => exact .inl (Option.some.inj ((if_neg hmeet).symm.trans h)).symm
    | false =>
      rw [hm.dispatch_eq hmeet] at h
      have hreal := subset_of_triggerBoth (hm.toCore.tell _ _) h
      obtain ⟨m'', htrigger, hremoved⟩ :=
        triggerBoth_removed ((hm.toCore.tell _ _).tight r.fd) hreal
      obtain rfl : m' = m'' := Option.some.inj (h.symm.trans htrigger)
      exact .inr ⟨hreal, hremoved.events, hremoved.contexts, hremoved.count, hremoved.scheduled⟩

/-- The waiters of the events that were reported and registered were scheduled. -/
lemma Held.dispatch_frees (hm : m.Held) {r : EpollEvent} {fail : Bool}
    (h : m.dispatch r fail = some m') : ∃ gone ⊆ m.realEvents r, m.Frees r.fd gone m' := by
  rcases hm.dispatch_cases h with rfl | ⟨hreal, hremoved⟩
  · exact ⟨∅, empty_subset _, .refl m' r.fd⟩
  · exact ⟨_, Subset.refl _, hremoved.frees (fun e he => by simpa using he) hreal⟩

/-! ## `addEvent` -/

lemma context_reserve (hsize : 32 ≤ m.fdContexts.length) (fd g : ℕ) :
    (m.reserve fd).context g = m.context g := by
  unfold reserve
  split_ifs with hfd
  · rfl
  · exact context_grow (by omega) g

/-- A registration is put into its context. -/
lemma waits_register (hlt : fd < m.fdContexts.length) (he : e ∉ (m.context fd).events) {this : F}
    {cb : Option C} {e' : Event} (hcontexts : m'.fdContexts = m.fdContexts.set fd
      ((m.context fd).setEvent e (waiter this cb) (insert e (m.context fd).events))) :
    m'.Waits f g e' ↔ m.Waits f g e' ∨ (cb = none ∧ f = this ∧ g = fd ∧ e' = e) := by
  have hcontext : m'.context g = if g = fd then
      (m.context fd).setEvent e (waiter this cb) (insert e (m.context fd).events)
      else m.context g := by
    rw [← context_setContext hlt, context, hcontexts]
    rfl
  have hfiber : (waiter this cb).fiber = some f ↔ cb = none ∧ f = this := by
    cases cb <;> simp [waiter, eq_comm]
  unfold Waits
  rw [hcontext]
  by_cases hg : g = fd
  · subst hg
    by_cases hne : e' = e
    · subst hne
      simp [he, hfiber]
    · simp [hne]
  · simp [hg]

/-- `addEvent` schedules nothing, and registers the fiber where it succeeds without a callback. -/
lemma addEvent_waits (hsize : 32 ≤ m.fdContexts.length) {this : F} {cb : Option C} {fail : Bool}
    {r : IOManager F C × ℤ} (hr : m.addEvent this .running fd e cb fail = some r) :
    r.1.scheduled = m.scheduled ∧ ∀ f g e', r.1.Waits f g e' ↔
      m.Waits f g e' ∨ (r.2 = 0 ∧ cb = none ∧ f = this ∧ g = fd ∧ e' = e) := by
  have hscheduled : (m.reserve fd).scheduled = m.scheduled := by
    unfold reserve
    split_ifs <;> rfl
  have hwaits : ∀ f g e', (m.reserve fd).Waits f g e' ↔ m.Waits f g e' := by
    intro f g e'
    simp only [Waits, context_reserve hsize]
  have hlt : fd < (m.reserve fd).fdContexts.length := by
    unfold reserve
    split_ifs with hfd
    · exact hfd
    · change fd < (m.grow (fd * 3 / 2)).fdContexts.length
      rw [length_grow (by omega)]
      omega
  unfold addEvent at hr
  generalize m.reserve fd = n at hr hscheduled hwaits hlt
  dsimp only at hr
  by_cases he : e ∈ (n.context fd).events
  · rw [if_pos he] at hr
    obtain rfl := Option.some.inj hr
    exact ⟨hscheduled, fun f g e' => by simp [hwaits]⟩
  · rw [if_neg he] at hr
    split at hr
    · obtain rfl := Option.some.inj hr
      exact ⟨hscheduled, fun f g e' => by simp [hwaits]⟩
    · split_ifs at hr
      obtain rfl := Option.some.inj hr
      refine ⟨hscheduled, fun f g e' => ?_⟩
      rw [waits_register hlt he rfl, hwaits]
      simp

/-! ## Seats -/

section Seats

variable [DecidableEq F] [DecidableEq C] {n : ℕ}

/-- How often the fiber has been scheduled for an event. -/
def wakeUps (m : IOManager F C) (f : F) : ℕ := m.scheduled.count (.ofFiber f (-1))

/-- The fiber has been resumed `n` times.  It waits at `seat` or nowhere, and has been scheduled `n`
times, or once more if it waits no longer. -/
structure Seated (m : IOManager F C) (f : F) (seat : Option (ℕ × Event)) (n : ℕ) : Prop where
  waits : ∀ fd e, m.Waits f fd e → seat = some (fd, e)
  waiting : ∀ fd e, m.Waits f fd e → m.wakeUps f ≤ n
  free : seat = none → m.wakeUps f ≤ n
  le : m.wakeUps f ≤ n + 1

variable {seat : Option (ℕ × Event)}

omit [DecidableEq F] [DecidableEq C] in
lemma fiber_of_task {x : EventContext F C} (h : x.task = .ofFiber f (-1)) : x.fiber = some f := by
  unfold EventContext.task at h
  split at h
  · cases h
  · exact congrArg ScheduleTask.fiber h

/-- A fiber is scheduled by what ends the registration it waits for, and then once. -/
lemma Frees.wakeUps (h : m.Frees fd gone m') (hseat : ∀ e e', m.Waits f fd e → m.Waits f fd e' →
      e = e') :
    m'.wakeUps f = m.wakeUps f ∨
      (m'.wakeUps f = m.wakeUps f + 1 ∧ ∃ e ∈ gone, m.Waits f fd e) := by
  obtain ⟨l, hnodup, hl, hscheduled⟩ := h.scheduled
  set task := fun e => ((m.context fd).getEventContext e).task with htask
  set own := l.filter fun e => task e = .ofFiber f (-1) with hown
  have hcount : m'.wakeUps f = m.wakeUps f + own.length := by
    rw [IOManager.wakeUps, IOManager.wakeUps, hscheduled, List.count_append, hown,
      ← List.countP_eq_length_filter, List.count, List.countP_map]
    rfl
  have hwaits : ∀ e ∈ own, e ∈ gone ∧ m.Waits f fd e := by
    intro e he
    obtain ⟨hmem, htask⟩ := List.mem_filter.mp he
    exact ⟨(hl e hmem).1, (hl e hmem).2, fiber_of_task (of_decide_eq_true htask)⟩
  rw [hcount]
  cases hcase : own with
  | nil => exact .inl rfl
  | cons e rest =>
    have he : e ∈ own := hcase ▸ List.mem_cons_self
    cases rest with
    | nil => exact .inr ⟨rfl, e, hwaits e he⟩
    | cons e' rest =>
      -- two registrations of one fiber
      have he' : e' ∈ own := hcase ▸ List.mem_cons_of_mem _ List.mem_cons_self
      have hne := hnodup.filter fun e => decide (task e = .ofFiber f (-1))
      rw [← hown, hcase] at hne
      obtain rfl := hseat e e' (hwaits e he).2 (hwaits e' he').2
      exact absurd List.mem_cons_self (List.nodup_cons.mp hne).1

lemma Frees.wakeUps_le (h : m.Frees fd gone m') (f : F) : m.wakeUps f ≤ m'.wakeUps f := by
  obtain ⟨l, -, -, hscheduled⟩ := h.scheduled
  rw [IOManager.wakeUps, IOManager.wakeUps, hscheduled, List.count_append]
  exact Nat.le_add_right _ _

/-- The registrations have ended, and their fibers were scheduled. -/
structure Wakes (m : IOManager F C) (fd : ℕ) (gone : Finset Event) (m' : IOManager F C) : Prop
    extends m.Frees fd gone m' where
  woken : ∀ f, ∀ e ∈ gone, m.Waits f fd e → m.wakeUps f < m'.wakeUps f

lemma Wakes.refl (m : IOManager F C) (fd : ℕ) : m.Wakes fd ∅ m where
  toFrees := .refl m fd
  woken _ e he := absurd he (notMem_empty e)

lemma Removed.wakes {p : Event → Bool} (htight : (m.context fd).Tight) (h : m.Removed fd gone
      (([.read, .write].filter p).map fun e => ((m.context fd).getEventContext e).task) m')
    (hp : ∀ e, p e = true ↔ e ∈ gone) (hgone : gone ⊆ (m.context fd).events) :
    m.Wakes fd gone m' where
  toFrees := h.frees (fun e he => (hp e).mp he) hgone
  woken f e he hwaits := by
    have htask : ((m.context fd).getEventContext e).task = .ofFiber f (-1) := by
      have hfiber := hwaits.2
      have hcb : ((m.context fd).getEventContext e).cb = none := by
        rcases (htight.armed e hwaits.1).2 with ⟨-, hcb⟩ | ⟨hnone, -⟩
        · exact hcb
        · exact absurd (hfiber.symm.trans hnone) (by simp)
      rw [EventContext.task, hcb, hfiber]
      rfl
    have hmem : e ∈ [Event.read, .write].filter p :=
      List.mem_filter.mpr ⟨by cases e <;> simp, (hp e).mpr he⟩
    rw [wakeUps, wakeUps, h.scheduled, List.count_append]
    refine Nat.lt_add_of_pos_right (List.count_pos_iff.mpr ?_)
    rw [← htask]
    exact List.mem_map_of_mem hmem

lemma cancelEvent_wakes (htight : (m.context fd).Tight) {fail b : Bool}
    (h : m.cancelEvent fd e fail = some (m', b)) : ∃ gone, m.Wakes fd gone m' := by
  rcases run_cases (.cancelEvent e) htight h with ⟨rfl, -⟩ | hremoved
  · exact ⟨∅, .refl m' fd⟩
  · exact ⟨_, hremoved.wakes htight (fun e' => by simp) (asked_subset _ _)⟩

lemma Held.dispatch_wakes (hm : m.Held) {r : EpollEvent} {fail : Bool}
    (h : m.dispatch r fail = some m') : ∃ gone, m.Wakes r.fd gone m' := by
  rcases hm.dispatch_cases h with rfl | ⟨hreal, hremoved⟩
  · exact ⟨∅, .refl m' r.fd⟩
  · exact ⟨_, hremoved.wakes (hm.tight r.fd) (fun e => by simp) hreal⟩

omit [DecidableEq F] [DecidableEq C] in
lemma Held.not_ctlFails (hm : m.Held) {op : RemovalOp}
    (hasked : (op.asked (m.context fd)).Nonempty) : ¬ op.CtlFails m fd false := by
  obtain ⟨e, he⟩ := hasked
  have hepoll := hm.epoll_eq fd e (asked_subset op _ he)
  unfold RemovalOp.CtlFails
  dsimp only
  rw [epollCtl_of_registered hepoll]
  exact Option.some_ne_none _

/-- `cancelAll` schedules everybody who waits, unless `epoll_ctl` fails. -/
lemma Held.cancelAll_wakes (hm : m.Held) {fail b : Bool}
    (h : m.cancelAll fd fail = some (m', b)) :
    ∃ gone, m.Wakes fd gone m' ∧ (fail = false → gone = (m.context fd).events) := by
  rcases run_cases .cancelAll (hm.tight fd) h with ⟨rfl, hctl⟩ | hremoved
  · refine ⟨∅, .refl m' fd, fun hfail => ?_⟩
    subst hfail
    by_contra hne
    have hasked : (RemovalOp.cancelAll.asked (m'.context fd)).Nonempty :=
      nonempty_iff_ne_empty.mpr fun h => hne h.symm
    exact hm.not_ctlFails hasked (hctl hasked)
  · exact ⟨_, hremoved.wakes (hm.tight fd) (fun e => by simp) (asked_subset _ _), fun _ => rfl⟩

omit [DecidableEq F] [DecidableEq C] in
lemma not_waits_init (tickleFd : ℕ) : ¬ (init tickleFd : IOManager F C).Waits f fd e := by
  have hcontext : (init tickleFd : IOManager F C).context fd = .new fd :=
    context_grow (m := ⟨[], 0, fun fd => if fd = tickleFd then some {.read} else none, [], [], []⟩)
      (Nat.zero_le 32) fd
  rintro ⟨h, -⟩
  rw [hcontext] at h
  exact absurd h (notMem_empty e)

lemma Seated.unique (h : m.Seated f seat n) {e' : Event} (he : m.Waits f fd e)
    (he' : m.Waits f g e') : fd = g ∧ e = e' := by
  have heq := (h.waits fd e he).symm.trans (h.waits g e' he')
  simpa using heq

/-- Operations that end registrations leave a fiber in its seat. -/
lemma Seated.frees (h : m.Seated f seat n) (hfrees : m.Frees fd gone m') :
    m'.Seated f seat n := by
  have hwakeUps := hfrees.wakeUps fun e e' he he' => (h.unique he he').2
  refine ⟨fun g e hw => h.waits g e ((hfrees.waits f g e).mp hw).1, fun g e hw => ?_,
    fun hnone => ?_, ?_⟩
  · obtain ⟨hold, hnot⟩ := (hfrees.waits f g e).mp hw
    rcases hwakeUps with heq | ⟨-, e', hgone, hw'⟩
    · exact heq.trans_le (h.waiting g e hold)
    · obtain ⟨rfl, rfl⟩ := h.unique hold hw'
      exact absurd ⟨rfl, hgone⟩ hnot
  · rcases hwakeUps with heq | ⟨-, e', -, hw'⟩
    · exact heq.trans_le (h.free hnone)
    · simp [h.waits fd e' hw'] at hnone
  · rcases hwakeUps with heq | ⟨heq, e', -, hw'⟩
    · exact heq.trans_le h.le
    · have hle := h.waiting fd e' hw'
      omega

/-- The same if nobody new waits and nothing was scheduled. -/
lemma Seated.congr (h : m.Seated f seat n) (hscheduled : m'.scheduled = m.scheduled)
    (hwaits : ∀ g e, m'.Waits f g e ↔ m.Waits f g e) : m'.Seated f seat n := by
  have hwakeUps : m'.wakeUps f = m.wakeUps f := by rw [wakeUps, wakeUps, hscheduled]
  exact ⟨fun g e hw => h.waits g e ((hwaits g e).mp hw),
    fun g e hw => hwakeUps.trans_le (h.waiting g e ((hwaits g e).mp hw)),
    fun hnone => hwakeUps.trans_le (h.free hnone), hwakeUps.trans_le h.le⟩

/-- A fiber that waits nowhere takes a seat. -/
lemma Seated.sit (h : m.Seated f none n) (hscheduled : m'.scheduled = m.scheduled)
    (hwaits : ∀ g e', m'.Waits f g e' ↔ m.Waits f g e' ∨ (g = fd ∧ e' = e)) :
    m'.Seated f (some (fd, e)) n := by
  have hwakeUps : m'.wakeUps f ≤ n := by
    rw [wakeUps, hscheduled]
    exact h.free rfl
  refine ⟨fun g e' hw => ?_, fun _ _ _ => hwakeUps, fun hnone => (by cases hnone),
    hwakeUps.trans (Nat.le_succ n)⟩
  rcases (hwaits g e').mp hw with hold | ⟨rfl, rfl⟩
  · exact absurd (h.waits g e' hold) (by simp)
  · rfl

/-- A fiber that has been scheduled is resumed. -/
lemma Seated.leave (h : m.Seated f seat n) (hscheduled : n < m.wakeUps f) :
    m.Seated f none (n + 1) where
  waits g e hw := absurd (h.waiting g e hw) (not_le.mpr hscheduled)
  waiting g e hw := absurd (h.waiting g e hw) (not_le.mpr hscheduled)
  free _ := h.le
  le := h.le.trans (Nat.le_succ _)

/-- A fiber that waits nowhere may be said to sit anywhere. -/
lemma Seated.any (h : m.Seated f none n) (seat : Option (ℕ × Event)) : m.Seated f seat n where
  waits g e hw := absurd (h.waits g e hw) (by simp)
  waiting := h.waiting
  free _ := h.free rfl
  le := h.le

lemma Seated.not_waits (h : m.Seated f none n) : ¬ m.Waits f fd e :=
  fun hw => absurd (h.waits fd e hw) (by simp)

end Seats

end IOManager

end CoroutineGateway
