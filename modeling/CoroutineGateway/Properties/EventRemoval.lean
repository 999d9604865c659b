import CoroutineGateway.Properties.EventDispatch

/-!
# What `delEvent`, `cancelEvent` and `cancelAll` report

The three functions return `false` where nothing is registered, and `true` after they have removed
what they were asked to remove.  In between they tell the kernel, and where `epoll_ctl` fails they
`return -1`, which as a `bool` is `true`, with everything still in place.  `truthful_iff` says that
their result is right in all other cases.
-/

namespace CoroutineGateway

open Finset

variable {F C : Type*}

/-- The functions of `IOManager` that end registrations of a descriptor. -/
inductive RemovalOp where
  | delEvent (event : Event)
  | cancelEvent (event : Event)
  | cancelAll

namespace RemovalOp

/-- The call, on any `int`.  A negative one passes the test against the size of the table, and then
is no index into it. -/
def run (op : RemovalOp) (m : IOManager F C) (fd : ℤ) (fail : Bool) :
    Option (IOManager F C × Bool) :=
  match fd, op with
  | .negSucc _, _ => none
  | .ofNat fd, .delEvent event => some (m.delEvent fd event fail)
  | .ofNat fd, .cancelEvent event => m.cancelEvent fd event fail
  | .ofNat fd, .cancelAll => m.cancelAll fd fail

/-- The registrations of the descriptor that are to be removed. -/
def asked (op : RemovalOp) (c : FdContext F C) : Finset Event :=
  match op with
  | .delEvent event | .cancelEvent event => c.events ∩ {event}
  | .cancelAll => c.events

/-- `epoll_ctl` fails on the mask that is left. -/
def CtlFails (op : RemovalOp) (m : IOManager F C) (fd : ℕ) (fail : Bool) : Prop :=
  let left := (m.context fd).events \ op.asked (m.context fd)
  epollCtl m.epoll fail (if left ≠ ∅ then .mod else .del) fd left = none

/-- The waiters of the removed registrations that are to be scheduled. -/
def woken (op : RemovalOp) (c : FdContext F C) : List (ScheduleTask F C) :=
  match op with
  | .delEvent _ => []
  | .cancelEvent _ | .cancelAll =>
    ([.read, .write].filter (· ∈ op.asked c)).map fun e => (c.getEventContext e).task

end RemovalOp

namespace IOManager

/-- The registrations `gone` of `fd` are gone, the waiters `woken` were scheduled, and nothing else
has changed. -/
structure Removed (m : IOManager F C) (fd : ℕ) (gone : Finset Event)
    (woken : List (ScheduleTask F C)) (m' : IOManager F C) : Prop where
  events : ∀ g, (m'.context g).events =
    if g = fd then (m.context g).events \ gone else (m.context g).events
  contexts : ∀ g e, (m'.context g).getEventContext e =
    if g = fd ∧ e ∈ gone then .reset else (m.context g).getEventContext e
  count : m'.pendingEventCount = m.pendingEventCount - gone.card
  scheduled : m'.scheduled = m.scheduled ++ woken

/-- Nothing has changed that the source keeps. -/
structure Unchanged (m m' : IOManager F C) : Prop where
  fdContexts : m'.fdContexts = m.fdContexts
  count : m'.pendingEventCount = m.pendingEventCount
  scheduled : m'.scheduled = m.scheduled

/-- The result is right: `true` exactly if the registrations that were to be removed are removed,
of which there is one, and `false` only if nothing has changed. -/
def Truthful (op : RemovalOp) (m : IOManager F C) (fd : ℤ) (fail : Bool) : Prop :=
  ∃ m' b, op.run m fd fail = some (m', b) ∧
    (b = true ↔ (op.asked (m.context fd.toNat)).Nonempty ∧
      m.Removed fd.toNat (op.asked (m.context fd.toNat)) (op.woken (m.context fd.toNat)) m') ∧
    (b = false → m.Unchanged m')

variable {m m' m'' : IOManager F C} {fd : ℕ} {gone gone' : Finset Event}
  {woken woken' : List (ScheduleTask F C)} {e : Event}

lemma Removed.refl (m : IOManager F C) (fd : ℕ) : m.Removed fd ∅ [] m where
  events g := by simp
  contexts g e := by simp
  count := by simp
  scheduled := by simp

lemma Removed.trans (h : m.Removed fd gone woken m') (h' : m'.Removed fd gone' woken' m'')
    (hdisjoint : Disjoint gone gone') :
    m.Removed fd (gone ∪ gone') (woken ++ woken') m'' where
  events g := by
    rw [h'.events, h.events]
    split_ifs with hg
    · rw [sdiff_sdiff_left]
      rfl
    · rfl
  contexts g e := by
    rw [h'.contexts, h.contexts]
    by_cases hg : g = fd
    · simp only [hg, true_and, mem_union]
      split_ifs <;> first | rfl | tauto
    · simp [hg]
  count := by
    rw [h'.count, h.count, card_union_of_disjoint hdisjoint]
    push_cast
    omega
  scheduled := by rw [h'.scheduled, h.scheduled, List.append_assoc]

/-- Removing one registration. -/
lemma removed_setEvent (he : e ∈ (m.context fd).events)
    (hcontexts : m'.fdContexts =
      m.fdContexts.set fd ((m.context fd).setEvent e .reset ((m.context fd).events.erase e)))
    (hcount : m'.pendingEventCount = m.pendingEventCount - 1)
    (hscheduled : m'.scheduled = m.scheduled ++ woken) : m.Removed fd {e} woken m' := by
  have hcontext : ∀ g, m'.context g = if g = fd then
      (m.context fd).setEvent e .reset ((m.context fd).events.erase e) else m.context g := by
    intro g
    rw [← context_setContext (lt_length_of_mem he), context, hcontexts]
    rfl
  refine ⟨fun g => ?_, fun g e' => ?_, by simpa using hcount, hscheduled⟩
  · rw [hcontext]
    split_ifs with hg
    · rw [hg, FdContext.setEvent_events, sdiff_singleton_eq_erase]
    · rfl
  · rw [hcontext]
    simp only [mem_singleton]
    by_cases hg : g = fd
    · rw [if_pos hg, hg]
      by_cases hne : e' = e
      · simp [hne]
      · simp [hne]
    · simp [hg]

/-- `if (events & e) { triggerEvent(e); --m_pendingEventCount; }` on a registered event. -/
lemma triggerIf_removed (fd : ℕ) (gone : Finset Event) (e : Event) (he : e ∈ gone →
      e ∈ (m.context fd).events ∧ ((m.context fd).getEventContext e).scheduler = true) :
    ∃ m', m.triggerIf fd gone e = some m' ∧ m.Removed fd (gone ∩ {e})
      (if e ∈ gone then [((m.context fd).getEventContext e).task] else []) m' := by
  by_cases hgone : e ∈ gone
  · let m' : IOManager F C :=
      { m.setContext fd ((m.context fd).setEvent e .reset ((m.context fd).events.erase e)) with
        scheduled := m.scheduled ++ [((m.context fd).getEventContext e).task]
        pendingEventCount := m.pendingEventCount - 1 }
    have htrigger : (m.context fd).triggerEvent e =
        some ((m.context fd).setEvent e .reset ((m.context fd).events.erase e),
          ((m.context fd).getEventContext e).task) := if_pos (he hgone)
    refine ⟨m', ?_, ?_⟩
    · simp only [triggerIf, IOManager.triggerEvent, hgone, if_true, htrigger]
      rfl
    · rw [inter_singleton_of_mem hgone, if_pos hgone]
      exact removed_setEvent (he hgone).1 rfl rfl rfl
  · refine ⟨m, by simp [triggerIf, hgone], ?_⟩
    rw [inter_singleton_of_notMem hgone, if_neg hgone]
    exact .refl m fd

lemma map_filter_events {α : Type*} (events : Finset Event) (f : Event → α) :
    ([.read, .write].filter (· ∈ events)).map f =
      (if .read ∈ events then [f .read] else []) ++
        (if .write ∈ events then [f .write] else []) := by
  by_cases hread : Event.read ∈ events <;> by_cases hwrite : Event.write ∈ events <;>
    simp [hread, hwrite]

/-! ## One operation -/

section Operations

variable (htight : (m.context fd).Tight)
include htight

omit htight in
lemma exists_epoll_of_not_ctlFails {op : RemovalOp} {left : Finset Event} {fail : Bool}
    (hctl : ¬ op.CtlFails m fd fail)
    (hleft : (m.context fd).events \ op.asked (m.context fd) = left) :
    ∃ epoll, epollCtl m.epoll fail (if left ≠ ∅ then .mod else .del) fd left = some epoll := by
  subst hleft
  exact Option.ne_none_iff_exists'.mp hctl

omit htight in
lemma sdiff_asked_event (events : Finset Event) (e : Event) :
    events \ (events ∩ {e}) = events.erase e := by
  rw [sdiff_inter_self_left, sdiff_singleton_eq_erase]

omit htight in
lemma delEvent_removed (he : e ∈ (m.context fd).events) {fail : Bool}
    (hctl : ¬ (RemovalOp.delEvent e).CtlFails m fd fail) :
    ∃ m', m.delEvent fd e fail = (m', true) ∧ m.Removed fd {e} [] m' := by
  obtain ⟨epoll, hepoll⟩ := exists_epoll_of_not_ctlFails hctl (sdiff_asked_event _ e)
  let m' : IOManager F C :=
    { m.setContext fd ((m.context fd).setEvent e .reset ((m.context fd).events.erase e)) with
      epoll := epoll, pendingEventCount := m.pendingEventCount - 1
      removed := m.removed ++ [((m.context fd).getEventContext e).task] }
  exact ⟨m', delEvent_of_some he hepoll, removed_setEvent he rfl rfl (by simp [m', setContext])⟩

lemma cancelEvent_removed (he : e ∈ (m.context fd).events) {fail : Bool}
    (hctl : ¬ (RemovalOp.cancelEvent e).CtlFails m fd fail) :
    ∃ m', m.cancelEvent fd e fail = some (m', true) ∧
      m.Removed fd {e} [((m.context fd).getEventContext e).task] m' := by
  obtain ⟨epoll, hepoll⟩ := exists_epoll_of_not_ctlFails hctl (sdiff_asked_event _ e)
  let m' : IOManager F C :=
    { m.setContext fd ((m.context fd).setEvent e .reset ((m.context fd).events.erase e)) with
      epoll := epoll, pendingEventCount := m.pendingEventCount - 1
      scheduled := m.scheduled ++ [((m.context fd).getEventContext e).task] }
  refine ⟨m', ?_, removed_setEvent he rfl rfl rfl⟩
  have htrigger : (IOManager.context { m with
      epoll := epoll, pendingEventCount := m.pendingEventCount - 1 } fd).triggerEvent e = _ :=
    htight.triggerEvent he
  rw [cancelEvent_of_some he hepoll]
  simp only [IOManager.triggerEvent, htrigger]
  rfl

/-- `if (events & READ) { … } if (events & WRITE) { … }` on registered events. -/
lemma triggerBoth_removed (hgone : gone ⊆ (m.context fd).events) :
    ∃ m', m.triggerBoth fd gone = some m' ∧ m.Removed fd gone
      (([.read, .write].filter (· ∈ gone)).map fun e => ((m.context fd).getEventContext e).task)
      m' := by
  have harmed : ∀ e ∈ gone, e ∈ (m.context fd).events ∧
      ((m.context fd).getEventContext e).scheduler = true :=
    fun e he => ⟨hgone he, (htight.armed e (hgone he)).1⟩
  obtain ⟨m₁, hread, h₁⟩ := triggerIf_removed fd gone .read (harmed _)
  -- the second test reads the context again, after the first bit is gone
  have hsame : (m₁.context fd).getEventContext .write = (m.context fd).getEventContext .write := by
    rw [h₁.contexts, if_neg (by simp)]
  have hwrite : .write ∈ gone → .write ∈ (m₁.context fd).events := by
    intro hin
    rw [h₁.events, if_pos rfl]
    simp [hgone hin]
  obtain ⟨m₂, hwrite', h₂⟩ := triggerIf_removed (m := m₁) fd gone .write fun hin =>
    ⟨hwrite hin, hsame ▸ (harmed _ hin).2⟩
  have hboth := h₁.trans h₂
    ((disjoint_singleton.mpr (by decide)).mono inter_subset_right inter_subset_right)
  rw [eq_union_inter, hsame, ← map_filter_events gone fun e =>
    ((m.context fd).getEventContext e).task] at hboth
  exact ⟨m₂, by rw [triggerBoth, hread, Option.bind_some, hwrite'], hboth⟩

lemma cancelAll_removed (he : (m.context fd).events ≠ ∅) {fail : Bool}
    (hctl : ¬ RemovalOp.cancelAll.CtlFails m fd fail) :
    ∃ m', m.cancelAll fd fail = some (m', true) ∧ m.Removed fd (m.context fd).events
      (RemovalOp.cancelAll.woken (m.context fd)) m' := by
  obtain ⟨e, hmem⟩ := nonempty_iff_ne_empty.mpr he
  obtain ⟨epoll, hepoll⟩ : ∃ epoll, epollCtl m.epoll fail .del fd ∅ = some epoll := by
    have hexists := exists_epoll_of_not_ctlFails hctl rfl
    simpa [RemovalOp.asked] using hexists
  obtain ⟨m₂, hboth, h⟩ := triggerBoth_removed (m := { m with epoll := epoll }) htight
    (Subset.refl (m.context fd).events)
  refine ⟨m₂, ?_, ⟨h.events, h.contexts, h.count, h.scheduled⟩⟩
  have hempty : (m₂.context fd).events = ∅ := by
    rw [h.events, if_pos rfl]
    exact sdiff_eq_empty_iff_subset.mpr (Subset.refl _)
  -- `cancelAll` reads the mask again for the second bit
  obtain ⟨m₁, hread, hwrite⟩ := Option.bind_eq_some_iff.mp hboth
  have hmask : .write ∈ (m₁.context fd).events ↔ .write ∈ (m.context fd).events := by
    obtain ⟨m', hread', h₁⟩ := triggerIf_removed (m := { m with epoll := epoll }) fd
      (m.context fd).events .read fun hin => ⟨hin, (htight.armed _ hin).1⟩
    obtain rfl : m₁ = m' := Option.some.inj (hread.symm.trans hread')
    rw [h₁.events, if_pos rfl]
    simp [context]
  unfold IOManager.cancelAll
  rw [if_pos (lt_length_of_mem hmem), if_neg he, hepoll]
  change (IOManager.triggerIf { m with epoll := epoll } fd (m.context fd).events .read).bind _ = _
  rw [hread, Option.bind_some, triggerIf_congr hmask, hwrite, Option.bind_some, if_pos hempty]

omit htight in
/-- The one registration that `delEvent` and `cancelEvent` are asked for. -/
lemma asked_event (h : ((m.context fd).events ∩ {e}).Nonempty) :
    e ∈ (m.context fd).events ∧ (m.context fd).events ∩ {e} = {e} := by
  obtain ⟨e', he'⟩ := h
  obtain ⟨hmem, heq⟩ := mem_inter.mp he'
  obtain rfl := mem_singleton.mp heq
  exact ⟨hmem, inter_singleton_of_mem hmem⟩

lemma run_removed (op : RemovalOp) {fail : Bool}
    (hasked : (op.asked (m.context fd)).Nonempty) (hctl : ¬ op.CtlFails m fd fail) :
    ∃ m', op.run m fd fail = some (m', true) ∧
      m.Removed fd (op.asked (m.context fd)) (op.woken (m.context fd)) m' := by
  cases op with
  | delEvent e =>
    obtain ⟨he, hsingle⟩ := asked_event hasked
    obtain ⟨m', hrun, hremoved⟩ := delEvent_removed he hctl
    refine ⟨m', congrArg some hrun, ?_⟩
    rw [RemovalOp.asked, hsingle]
    exact hremoved
  | cancelEvent e =>
    obtain ⟨he, hsingle⟩ := asked_event hasked
    obtain ⟨m', hrun, hremoved⟩ := cancelEvent_removed htight he hctl
    refine ⟨m', hrun, ?_⟩
    have hwoken : (RemovalOp.cancelEvent e).woken (m.context fd) =
        [((m.context fd).getEventContext e).task] := by
      cases e <;> simp [RemovalOp.woken, RemovalOp.asked, hsingle]
    rw [hwoken, RemovalOp.asked, hsingle]
    exact hremoved
  | cancelAll =>
    obtain ⟨m', hrun, hremoved⟩ := cancelAll_removed htight hasked.ne_empty hctl
    exact ⟨m', hrun, hremoved⟩

end Operations

/-- Nothing is registered that was to be removed. -/
lemma run_of_not_asked (op : RemovalOp) (fail : Bool)
    (hasked : ¬ (op.asked (m.context fd)).Nonempty) : op.run m fd fail = some (m, false) := by
  have hevent : ∀ e, ¬ ((m.context fd).events ∩ {e}).Nonempty → e ∉ (m.context fd).events :=
    fun e hnone he => hnone ⟨e, mem_inter.mpr ⟨he, mem_singleton_self e⟩⟩
  cases op with
  | delEvent e => exact congrArg some (delEvent_of_notMem (hevent e hasked) fail)
  | cancelEvent e => exact cancelEvent_of_notMem (hevent e hasked) fail
  | cancelAll => exact cancelAll_of_none (not_nonempty_iff_eq_empty.mp hasked) fail

/-- `epoll_ctl` fails. -/
lemma run_of_ctlFails (op : RemovalOp) {fail : Bool} (hasked : (op.asked (m.context fd)).Nonempty)
    (hctl : op.CtlFails m fd fail) : op.run m fd fail = some (m, true) := by
  have hnone : ∀ e, (RemovalOp.delEvent e).CtlFails m fd fail → epollCtl m.epoll fail
      (if (m.context fd).events.erase e ≠ ∅ then .mod else .del) fd
      ((m.context fd).events.erase e) = none := fun e hfails => by
    rw [← sdiff_asked_event]
    exact hfails
  cases op with
  | delEvent e =>
    obtain ⟨he, -⟩ := asked_event hasked
    exact congrArg some (delEvent_of_none he (hnone e hctl))
  | cancelEvent e =>
    obtain ⟨he, -⟩ := asked_event hasked
    exact cancelEvent_of_none he (hnone e hctl)
  | cancelAll =>
    obtain ⟨e, he⟩ : (m.context fd).events.Nonempty := hasked
    have hnone : epollCtl m.epoll fail .del fd ∅ = none := by
      simpa [RemovalOp.CtlFails, RemovalOp.asked] using hctl
    change m.cancelAll fd fail = _
    unfold IOManager.cancelAll
    rw [if_pos (lt_length_of_mem he), if_neg (ne_empty_of_mem he), hnone]

lemma asked_subset (op : RemovalOp) (c : FdContext F C) : op.asked c ⊆ c.events := by
  cases op with
  | delEvent e => exact inter_subset_left
  | cancelEvent e => exact inter_subset_left
  | cancelAll => exact Subset.refl _

/-- A registration that is still there was not removed. -/
lemma not_removed_self (hgone : gone ⊆ (m.context fd).events) (hne : gone.Nonempty) :
    ¬ m.Removed fd gone woken m := by
  intro h
  obtain ⟨e, he⟩ := hne
  have hevents := h.events fd
  rw [if_pos rfl] at hevents
  have hmem := hgone he
  rw [hevents] at hmem
  exact (mem_sdiff.mp hmem).2 he

/-- **When event removal reports the truth.**  On a tight context the result of `delEvent`,
`cancelEvent` and `cancelAll` is right if and only if the number is an index and `epoll_ctl` does
not fail on registrations that are to be removed. -/
theorem truthful_iff (op : RemovalOp) (fd : ℤ) (htight : (m.context fd.toNat).Tight)
    (fail : Bool) : Truthful op m fd fail ↔
      0 ≤ fd ∧ ¬ ((op.asked (m.context fd.toNat)).Nonempty ∧ op.CtlFails m fd.toNat fail) := by
  rcases lt_or_ge fd 0 with hneg | hpos
  · refine iff_of_false ?_ fun h => absurd h.1 (not_le.mpr hneg)
    obtain ⟨n, rfl⟩ := Int.eq_negSucc_of_lt_zero hneg
    rintro ⟨m', b, hrun, -⟩
    cases hrun
  · rw [and_iff_right hpos]
    obtain ⟨n, rfl⟩ := Int.eq_ofNat_of_zero_le hpos
    rw [Int.toNat_natCast] at htight ⊢
    by_cases hasked : (op.asked (m.context n)).Nonempty
    · by_cases hctl : op.CtlFails m n fail
      · refine iff_of_false ?_ (not_not.mpr ⟨hasked, hctl⟩)
        rintro ⟨m', b, hrun, htrue, -⟩
        obtain ⟨rfl, rfl⟩ : m = m' ∧ true = b := by
          simpa [run_of_ctlFails op hasked hctl] using hrun
        exact not_removed_self (asked_subset op _) hasked (htrue.mp rfl).2
      · obtain ⟨m', hrun, hremoved⟩ := run_removed htight op hasked hctl
        exact iff_of_true
          ⟨m', true, hrun, ⟨fun _ => ⟨hasked, hremoved⟩, fun _ => rfl⟩, fun h => by cases h⟩
          fun h => hctl h.2
    · exact iff_of_true
        ⟨m, false, run_of_not_asked op fail hasked,
          ⟨fun h => (by cases h), fun h => absurd h.1 hasked⟩, fun _ => ⟨rfl, rfl, rfl⟩⟩
        fun h => hasked h.1

/-! ## A fiber that waits for one event -/

/-- A fiber waits for data on descriptor 5. -/
def readerOfFive : IOManager Unit Unit :=
  (((init 3).addEvent () .running 5 .read none false).map Prod.fst).getD (init 3)

lemma tight_readerOfFive (g : ℕ) : (readerOfFive.context g).Tight := by
  obtain ⟨r, hr, hsound⟩ := (sound_init 3).addEvent () rfl 5 .read (none : Option Unit) false
  rw [readerOfFive, hr]
  exact hsound.tight g

lemma asked_readerOfFive :
    ((RemovalOp.cancelEvent .read).asked (readerOfFive.context 5)).Nonempty :=
  ⟨.read, by decide⟩

/-- Cancelled where `epoll_ctl` works. -/
theorem truthful_readerOfFive : Truthful (.cancelEvent .read) readerOfFive 5 false := by
  refine (truthful_iff _ 5 (tight_readerOfFive 5) false).mpr ⟨by decide, ?_⟩
  rintro ⟨-, hctl⟩
  exact absurd (congrArg Option.isNone hctl) (by decide)

/-- Cancelled where it fails: the result is `true`, and the fiber still waits. -/
theorem failed_cancel_reports_true :
    ¬ ∀ (op : RemovalOp) (m : IOManager Unit Unit) (fd : ℤ) (fail : Bool),
      (∀ g, (m.context g).Tight) → Truthful op m fd fail := by
  intro hall
  obtain ⟨m', b, hrun, htrue, -⟩ := hall (.cancelEvent .read) readerOfFive 5 true tight_readerOfFive
  have hctl : (RemovalOp.cancelEvent .read).CtlFails readerOfFive 5 true := rfl
  obtain ⟨rfl, rfl⟩ := Prod.mk.inj
    (Option.some.inj ((run_of_ctlFails _ asked_readerOfFive hctl).symm.trans hrun))
  exact not_removed_self (asked_subset _ _) asked_readerOfFive (htrue.mp rfl).2

end IOManager

end CoroutineGateway
