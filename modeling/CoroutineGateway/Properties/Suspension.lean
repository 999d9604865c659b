import CoroutineGateway.Properties.OwnTimers
import CoroutineGateway.Properties.Waiters
import Mathlib.Data.Fintype.Basic

/-!
# What calls that wait leave behind

The invariant of the hooked calls that wait (`HookSystem.Sound`).  A fiber waits in one place while
it is parked and nowhere otherwise; of the timers that its call has added at most the last one is in
the set, and that only until the fiber runs on; and the callback of a timer belongs to the call that
has added it, as long as that call has not returned.
-/

namespace CoroutineGateway

open Finset

variable {F C U : Type*}

/-! ## Calls on the registry and on the timers -/

section Calls

variable {m m' : IOManager F C} {fd t : ℕ}

/-- Where `epoll_ctl` fails nothing happens. -/
lemma RemovalOp.run_of_fail (op : RemovalOp) {b : Bool} (h : op.run m fd true = some (m', b)) :
    m' = m := by
  have hctl : op.CtlFails m fd true := rfl
  by_cases hasked : (op.asked (m.context fd)).Nonempty
  · rw [IOManager.run_of_ctlFails op hasked hctl] at h
    exact (Prod.mk.inj (Option.some.inj h)).1.symm
  · rw [IOManager.run_of_not_asked op true hasked] at h
    exact (Prod.mk.inj (Option.some.inj h)).1.symm

namespace EventCall

/-- The descriptor of the call. -/
def descriptor : EventCall F C → ℕ
  | .addEvent _ fd _ _ _ | .delEvent fd _ _ | .cancelEvent fd _ _ | .cancelAll fd _ => fd

/-- The events whose registrations the call can end. -/
def reach (m : IOManager F C) : EventCall F C → Finset Event
  | .addEvent _ _ _ _ _ => ∅
  | .delEvent _ e _ | .cancelEvent _ e _ => {e}
  | .cancelAll fd _ => (m.context fd).events

lemma run_sound (call : EventCall F C) (hm : m.Sound t) (h : call.run m = some m') :
    m'.Sound t := by
  cases call with
  | addEvent this fd e cb fail =>
    obtain ⟨r, hr, hsound⟩ := hm.addEvent this rfl fd e (some cb) fail
    simp only [run, hr, Option.map_some, Option.some.injEq] at h
    exact h ▸ hsound
  | delEvent fd e fail =>
    obtain rfl := Option.some.inj h
    exact hm.delEvent fd e fail
  | cancelEvent fd e fail =>
    obtain ⟨r, hr, hsound⟩ := hm.cancelEvent fd e fail
    simp only [run, hr, Option.map_some, Option.some.injEq] at h
    exact h ▸ hsound
  | cancelAll fd fail =>
    obtain ⟨r, hr, hsound⟩ := hm.cancelAll fd fail
    simp only [run, hr, Option.map_some, Option.some.injEq] at h
    exact h ▸ hsound

lemma run_frees (call : EventCall F C) (hm : m.Sound t) (h : call.run m = some m') :
    ∃ gone ⊆ call.reach m, m.Frees call.descriptor gone m' := by
  cases call with
  | addEvent this fd e cb fail =>
    obtain ⟨r, hr, rfl⟩ := Option.map_eq_some_iff.mp h
    obtain ⟨hscheduled, hwaits⟩ := IOManager.addEvent_waits hm.size hr
    refine ⟨∅, Subset.refl _, fun f g e' => ?_, [], List.nodup_nil,
      fun e he => absurd he List.not_mem_nil, by simpa using hscheduled⟩
    simp [hwaits]
  | delEvent fd e fail =>
    obtain rfl := Option.some.inj h
    have hrun : (RemovalOp.delEvent e).run m fd fail = some (m.delEvent fd e fail) := rfl
    obtain ⟨gone, hgone, hfrees⟩ := IOManager.run_frees _ (hm.tight fd) hrun
    exact ⟨gone, hgone.trans inter_subset_right, hfrees⟩
  | cancelEvent fd e fail =>
    obtain ⟨r, hr, rfl⟩ := Option.map_eq_some_iff.mp h
    obtain ⟨gone, hgone, hfrees⟩ := IOManager.run_frees (.cancelEvent e) (hm.tight fd) hr
    exact ⟨gone, hgone.trans inter_subset_right, hfrees⟩
  | cancelAll fd fail =>
    obtain ⟨r, hr, rfl⟩ := Option.map_eq_some_iff.mp h
    exact IOManager.run_frees .cancelAll (hm.tight fd) hr

end EventCall

/-- The function of a callback, be its condition there or not. -/
def TimerFun.of : Option (Callback (TimerFun U)) → Option (TimerFun U)
  | some (.user f) | some (.onTimer _ (some (.user f))) => some f
  | _ => none

namespace TimerCall

/-- The callback of the timer that the call adds. -/
def callback : TimerCall U → Option (Callback (TimerFun U))
  | .addTimer _ cb _ _ => cb.map fun u => .user (.user u)
  | .addConditionTimer _ cb cond _ _ => some (.onTimer cond (cb.map fun u => .user (.user u)))
  | _ => none

/-- It is not one of the two functions. -/
lemma callback_ne (call : TimerCall U) (info fd : ℕ) (e : Event) :
    TimerFun.of call.callback ≠ some (.timedOut info fd e) := by
  cases call with
  | addTimer ms cb recurring now => cases cb <;> simp [callback, TimerFun.of]
  | addConditionTimer ms cb cond recurring now => cases cb <;> simp [callback, TimerFun.of]
  | _ => simp [callback, TimerFun.of]

lemma run_spares (call : TimerCall U) {m : TimerManager (TimerFun U)} {own : List TimerId}
    (hm : m.Owns own) (htarget : ∀ id ∈ call.target, id < m.created ∧ id ∉ own) :
    TimerManager.Spares own m call.callback (call.run m) := by
  cases call with
  | addTimer ms cb recurring now => exact hm.addTimer ms recurring now
  | addConditionTimer ms cb cond recurring now => exact hm.addTimer ms recurring now
  | cancel id => exact hm.cancel id
  | refresh id now => exact hm.refresh (htarget id rfl).1 (htarget id rfl).2 now
  | reset id ms fromNow now => exact hm.reset (htarget id rfl).1 (htarget id rfl).2 ms fromNow now
  | getNextTimer now => exact hm.getNextTimer now

end TimerCall

end Calls

/-! ## The invariant -/

/-- The timer of the round, from `addConditionTimer` until the fiber runs on. -/
def HookCall.armed (c : HookCall) : Option TimerId :=
  if c.pc = .add ∨ c.pc = .parked then c.timer else none

/-- What the fiber waits for. -/
def HookCall.seat (c : HookCall) : Option (ℕ × Event) :=
  if c.pc = .parked then some (c.fd, c.event) else none

/-- What the fiber waits for. -/
def HookActivity.seat : HookActivity → Option (ℕ × Event)
  | .inCall c => c.seat
  | .idle | .returned _ => none

/-- `fun` is to be called again. -/
def Retried (x : Except Errno ℕ) : Prop := x = .error .eintr ∨ x = .error .eagain

namespace HookSystem

variable [DecidableEq F] [DecidableEq C]

/-- A fiber in a call. -/
structure CallSound (s : HookSystem F C U) (f : F) (c : HookCall) : Prop where
  seated : s.manager.Seated f c.seat (s.resumed f)
  owned : ∀ id ∈ c.timers, id ∈ s.own
  out : ∀ id ∈ c.timers, id ∈ s.timers.timers → c.armed = some id
  info : c.info < s.nextInfo
  ran : s.infos c.info = some true → ∃ id ∈ c.timers, id ∈ s.ran
  results : ∀ x ∈ c.results, Retried x

/-- A fiber whose call has returned. -/
structure ReturnSound (s : HookSystem F C U) (f : F) (r : HookReturn) : Prop where
  seated : s.manager.Seated f none (s.resumed f)
  owned : ∀ id ∈ r.call.timers, id ∈ s.own
  out : ∀ id ∈ r.call.timers, id ∉ s.timers.timers
  value : r.call.which = .doIo → ∀ n, r.result = .ok n →
    ∃ earlier, r.call.results = earlier ++ [.ok n] ∧ ∀ x ∈ earlier, Retried x
  timedOut : r.call.which = .doIo → r.result = .error .etimedout →
    (∃ id ∈ r.call.timers, id ∈ s.ran) ∨ r.call.results.getLast? = some (.error .etimedout)

/-- A fiber. -/
def FiberSound (s : HookSystem F C U) (f : F) : HookActivity → Prop
  | .idle => s.manager.Seated f none (s.resumed f)
  | .inCall c => s.CallSound f c
  | .returned r => s.ReturnSound f r

omit [DecidableEq F] [DecidableEq C] in
/-- If the callback of the timer names a `timer_info`, it is that of the call that has added the
timer. -/
def Closes (s : HookSystem F C U) (id : TimerId) (cb : Option (Callback (TimerFun U))) : Prop :=
  ∀ info fd e, TimerFun.of cb = some (.timedOut info fd e) →
    info < s.nextInfo ∧ ∀ f c, s.activity f = .inCall c → c.info = info → id ∈ c.timers

/-- The invariant. -/
structure Sound (t : ℕ) (s : HookSystem F C U) : Prop where
  manager : s.manager.Sound t
  timers : s.timers.Owns s.own
  fibers : ∀ f, s.FiberSound f (s.activity f)
  infos : ∀ f g c d, s.activity f = .inCall c → s.activity g = .inCall d → c.info = d.info → f = g
  queued : ∀ x ∈ s.queued, s.Closes x.1 x.2
  heap : ∀ id < s.timers.created, s.Closes id (s.timers.heap id).cb

variable {s s' : HookSystem F C U} {t : ℕ} {f g : F} {c c' : HookCall} {a : HookActivity}

lemma Sound.call (hs : s.Sound t) (hact : s.activity f = .inCall c) : s.CallSound f c := by
  have h := hs.fibers f
  rwa [hact] at h

lemma init_sound (t : ℕ) (now : ℤ) : (init t now : HookSystem F C U).Sound t where
  manager := IOManager.sound_init t
  timers := TimerManager.init_owns now
  fibers f :=
    { waits := fun fd e hw => absurd hw (IOManager.not_waits_init t)
      waiting := fun fd e hw => absurd hw (IOManager.not_waits_init t)
      free := fun _ => le_refl 0
      le := Nat.zero_le 1 }
  infos f g c d h := by cases h
  queued x hx := absurd hx List.not_mem_nil
  heap id hid := absurd hid (Nat.not_lt_zero id)

lemma FiberSound.seated (h : s.FiberSound f a) : s.manager.Seated f a.seat (s.resumed f) := by
  cases a with
  | idle => exact h
  | inCall c => exact CallSound.seated h
  | returned r => exact ReturnSound.seated h

/-- What a step of another one leaves of a fiber. -/
lemma FiberSound.mono (h : s.FiberSound f a)
    (hseated : s.manager.Seated f a.seat (s.resumed f) →
      s'.manager.Seated f a.seat (s'.resumed f))
    (hown : s.own ⊆ s'.own) (hset : ∀ id ∈ s.own, id ∈ s'.timers.timers → id ∈ s.timers.timers)
    (hnext : s.nextInfo ≤ s'.nextInfo) (hran : s.ran ⊆ s'.ran)
    (hinfo : ∀ c, a = .inCall c → s'.infos c.info = some true →
      s.infos c.info = some true ∨ ∃ id ∈ c.timers, id ∈ s'.ran) :
    s'.FiberSound f a := by
  have hseat := hseated h.seated
  cases a with
  | idle => exact hseat
  | inCall c =>
    refine ⟨hseat, fun id hid => hown (h.owned id hid), fun id hid hmem =>
      h.out id hid (hset id (h.owned id hid) hmem), h.info.trans_le hnext, fun htrue => ?_,
      h.results⟩
    rcases hinfo c rfl htrue with hold | hnew
    · obtain ⟨id, hid, hmem⟩ := h.ran hold
      exact ⟨id, hid, hran hmem⟩
    · exact hnew
  | returned r =>
    refine ⟨hseat, fun id hid => hown (h.owned id hid), fun id hid hmem =>
      h.out id hid (hset id (h.owned id hid) hmem), h.value, fun hio htimedout => ?_⟩
    rcases h.timedOut hio htimedout with ⟨id, hid, hmem⟩ | hlast
    · exact .inl ⟨id, hid, hran hmem⟩
    · exact .inr hlast

/-- Steps that touch none of this. -/
lemma FiberSound.congr (h : s.FiberSound f a) (hmanager : s'.manager = s.manager)
    (hresumed : s'.resumed = s.resumed) (hown : s'.own = s.own) (htimers : s'.timers = s.timers)
    (hnext : s'.nextInfo = s.nextInfo) (hinfos : s'.infos = s.infos) (hran : s.ran ⊆ s'.ran) :
    s'.FiberSound f a :=
  h.mono (fun hseat => by rwa [hmanager, hresumed]) (hown ▸ List.Subset.refl _)
    (fun _ _ hmem => htimers ▸ hmem) hnext.ge hran fun _ _ htrue => .inl (hinfos ▸ htrue)

omit [DecidableEq F] [DecidableEq C] in
/-- The calls under way were under way before, with the same `timer_info`, or have a new one. -/
def Continues (s s' : HookSystem F C U) : Prop :=
  ∀ f c', s'.activity f = .inCall c' →
    s.nextInfo ≤ c'.info ∨ ∃ c, s.activity f = .inCall c ∧ c.info = c'.info ∧ c.timers ⊆ c'.timers

omit [DecidableEq F] [DecidableEq C] in
lemma Closes.mono {id : TimerId} {cb : Option (Callback (TimerFun U))} (h : s.Closes id cb)
    (hnext : s.nextInfo ≤ s'.nextInfo) (hcontinues : s.Continues s') : s'.Closes id cb := by
  intro info fd e hof
  obtain ⟨hlt, hcalls⟩ := h info fd e hof
  refine ⟨hlt.trans_le hnext, fun f c' hact hinfo => ?_⟩
  rcases hcontinues f c' hact with hnew | ⟨c, hold, heq, hsub⟩
  · exact absurd (hinfo ▸ hnew) (not_le.mpr hlt)
  · exact hsub (hcalls f c hold (heq.trans hinfo))

/-! ## Steps of others -/

/-- Calls on the timers. -/
lemma Sound.spares (hs : s.Sound t) {new : Option (Callback (TimerFun U))}
    {m : TimerManager (TimerFun U)} (h : TimerManager.Spares s.own s.timers new m)
    (hnew : ∀ info fd e, TimerFun.of new ≠ some (.timedOut info fd e)) :
    ({ s with timers := m } : HookSystem F C U).Sound t where
  manager := hs.manager
  timers := h.owns
  fibers f := (hs.fibers f).mono (fun hseat => hseat) (List.Subset.refl _) h.mem (le_refl _)
    (List.Subset.refl _) fun _ _ htrue => .inl htrue
  infos := hs.infos
  queued := hs.queued
  heap id hid info fd e hof := by
    have hsome : (m.heap id).cb.isSome := by
      by_contra hnone
      have hnone' : (m.heap id).cb = none := by simpa using hnone
      simp [hnone', TimerFun.of] at hof
    rcases h.callback id hid hsome with ⟨hlt, hcb⟩ | ⟨-, hcb⟩
    · exact hs.heap id hlt info fd e (hcb ▸ hof)
    · exact absurd (hcb ▸ hof) (hnew info fd e)

omit [DecidableEq F] [DecidableEq C] in
lemma not_timedOut_none (info fd : ℕ) (e : Event) :
    TimerFun.of (none : Option (Callback (TimerFun U))) ≠ some (.timedOut info fd e) := by
  simp [TimerFun.of]

/-- `listExpiredCb` -/
lemma Sound.expire (hs : s.Sound t) {now now' : ℤ} {fuel : ℕ}
    (h : s.expire now now' fuel = some s') : s'.Sound t := by
  obtain ⟨⟨m, cbs⟩, hr, rfl⟩ := Option.map_eq_some_iff.mp h
  obtain ⟨hspares, hcbs⟩ := hs.timers.listExpiredCb hr
  have hs' := hs.spares hspares not_timedOut_none
  refine ⟨hs'.manager, hs'.timers,
    fun f => (hs'.fibers f).congr rfl rfl rfl rfl rfl rfl (List.Subset.refl _), hs'.infos,
    fun x hx => ?_, hs'.heap⟩
  rcases List.mem_append.mp hx with hx | hx
  · exact hs.queued x hx
  · intro info fd e hof
    have hsome : x.2.isSome := by
      by_contra hnone
      have hnone' : x.2 = none := by simpa using hnone
      simp [hnone', TimerFun.of] at hof
    obtain ⟨hlt, hcb⟩ := hcbs x hx hsome
    exact hs.heap x.1 hlt info fd e (hcb ▸ hof)

/-- Calls on the registry that leave every fiber in its seat. -/
lemma Sound.registry (hs : s.Sound t) {m : IOManager F C} (hm : m.Sound t)
    (hseated : ∀ f, m.Seated f (s.activity f).seat (s.resumed f)) :
    ({ s with manager := m } : HookSystem F C U).Sound t where
  manager := hm
  timers := hs.timers
  fibers f := (hs.fibers f).mono (fun _ => hseated f) (List.Subset.refl _) (fun _ _ hmem => hmem)
    (le_refl _) (List.Subset.refl _) fun _ _ htrue => .inl htrue
  infos := hs.infos
  queued := hs.queued
  heap := hs.heap

/-- Calls on the registry of others. -/
lemma Sound.event (hs : s.Sound t) {call : EventCall F C} {m : IOManager F C}
    (h : call.run s.manager = some m) : ({ s with manager := m } : HookSystem F C U).Sound t := by
  obtain ⟨gone, -, hfrees⟩ := call.run_frees hs.manager h
  exact hs.registry (call.run_sound hs.manager h) fun f => (hs.fibers f).seated.frees hfrees

/-- Workers get reports, or are through with one. -/
lemma Sound.reports (hs : s.Sound t) (inbox : List EpollEvent) :
    ({ s with inbox := inbox } : HookSystem F C U).Sound t :=
  ⟨hs.manager, hs.timers,
    fun f => (hs.fibers f).congr rfl rfl rfl rfl rfl rfl (List.Subset.refl _), hs.infos, hs.queued,
    hs.heap⟩

omit [DecidableEq F] [DecidableEq C] in
/-- What the handling of a report does. -/
lemma dispatch_cases {i : ℕ} {fail : Bool} (h : s.dispatch i fail = some s') :
    ∃ r m, s.inbox[i]? = some r ∧ s.manager.dispatch r fail = some m ∧
      s' = { s with inbox := s.inbox.eraseIdx i, manager := m } := by
  obtain ⟨r, hr, h⟩ := Option.bind_eq_some_iff.mp h
  obtain ⟨m, hm, rfl⟩ := Option.map_eq_some_iff.mp h
  exact ⟨r, m, hr, hm, rfl⟩

/-- A worker handles a report. -/
lemma Sound.dispatch (hs : s.Sound t) {i : ℕ} {fail : Bool} (h : s.dispatch i fail = some s') :
    s'.Sound t := by
  obtain ⟨r, m, -, hm, rfl⟩ := dispatch_cases h
  obtain ⟨gone, -, hfrees⟩ := hs.manager.held.dispatch_frees hm
  exact (hs.registry ((hs.manager.held.dispatch_acted hm).sound hs.manager)
    fun f => (hs.fibers f).seated.frees hfrees).reports _

/-- The kernel moves on. -/
lemma Sound.connection (hs : s.Sound t) (connection : ℕ → Connection) :
    ({ s with connection := connection } : HookSystem F C U).Sound t :=
  ⟨hs.manager, hs.timers,
    fun f => (hs.fibers f).congr rfl rfl rfl rfl rfl rfl (List.Subset.refl _), hs.infos, hs.queued,
    hs.heap⟩

/-- A queued callback runs, and calls no function of a call that is under way, or does so for a
timer of that call. -/
lemma Sound.timedOut (hs : s.Sound t) {info fd : ℕ} {e : Event} {fail : Bool}
    (hran : ∀ f c, s.activity f = .inCall c → c.info = info → ∃ id ∈ c.timers, id ∈ s.ran)
    (h : s.timedOut info fd e fail = some s') : s'.Sound t := by
  unfold HookSystem.timedOut at h
  by_cases hinfo : s.infos info = some false
  · rw [if_pos hinfo] at h
    obtain ⟨⟨m, b⟩, hcancel, rfl⟩ := Option.map_eq_some_iff.mp h
    have hrun : (EventCall.cancelEvent fd e fail).run s.manager = some m := by
      simp [EventCall.run, hcancel]
    have hs' := hs.event hrun
    refine ⟨hs'.manager, hs'.timers, fun f => ?_, hs'.infos, hs'.queued, hs'.heap⟩
    refine (hs'.fibers f).mono (fun hseat => hseat) (List.Subset.refl _) (fun _ _ hmem => hmem)
      (le_refl _) (List.Subset.refl _) fun c hact htrue => ?_
    by_cases hc : c.info = info
    · exact .inr (hran f c hact hc)
    · exact .inl ((Function.update_of_ne hc _ _).symm.trans htrue)
  · rw [if_neg hinfo] at h
    obtain rfl := Option.some.inj h
    exact hs

omit [DecidableEq F] [DecidableEq C] in
lemma of_calls {cb : Option (Callback (TimerFun U))} {fn : TimerFun U} (h : s.calls cb = some fn) :
    TimerFun.of cb = some fn := by
  unfold calls at h
  split at h
  · exact h
  · split_ifs at h
    exact h
  · cases h

/-- A worker takes a callback off the queue. -/
def dequeue (s : HookSystem F C U) (i : ℕ) (id : TimerId) : HookSystem F C U :=
  { s with queued := s.queued.eraseIdx i, ran := id :: s.ran }

omit [DecidableEq F] [DecidableEq C] in
/-- What a queued callback can do. -/
lemma runQueued_cases {i : ℕ} {fail : Bool} (h : s.runQueued i fail = some s') :
    ∃ id cb, s.queued[i]? = some (id, cb) ∧
      ((∃ info fd e, s.calls cb = some (.timedOut info fd e) ∧
        (s.dequeue i id).timedOut info fd e fail = some s') ∨ s' = s.dequeue i id) := by
  obtain ⟨⟨id, cb⟩, hget, h⟩ := Option.bind_eq_some_iff.mp h
  dsimp only at h
  split at h
  · rename_i info fd e hcalls
    exact ⟨id, cb, hget, .inl ⟨info, fd, e, hcalls, h⟩⟩
  · exact ⟨id, cb, hget, .inr (Option.some.inj h).symm⟩

lemma Sound.runQueued (hs : s.Sound t) {i : ℕ} {fail : Bool}
    (h : s.runQueued i fail = some s') : s'.Sound t := by
  obtain ⟨id, cb, hget, hcases⟩ := runQueued_cases h
  have hcloses := hs.queued _ (List.mem_of_getElem? hget)
  have hsu : (s.dequeue i id).Sound t :=
    ⟨hs.manager, hs.timers,
      fun f => (hs.fibers f).congr rfl rfl rfl rfl rfl rfl (List.subset_cons_self _ _), hs.infos,
      fun x hx => hs.queued x (List.mem_of_mem_eraseIdx hx), hs.heap⟩
  rcases hcases with ⟨info, fd, e, hcalls, h⟩ | rfl
  · refine hsu.timedOut (fun f c hact hinfo => ?_) h
    exact ⟨id, (hcloses info fd e (of_calls hcalls)).2 f c hact hinfo, List.mem_cons_self⟩
  · exact hsu

/-! ## Steps of a call -/

omit [DecidableEq C] in
lemma activity_goOn {d : HookCall} (h : (s.goOn f c').activity g = .inCall d) :
    (g = f ∧ d = c') ∨ (g ≠ f ∧ s.activity g = .inCall d) := by
  by_cases hg : g = f
  · subst hg
    have hd : HookActivity.inCall c' = .inCall d := (Function.update_self ..).symm.trans h
    exact .inl ⟨rfl, by cases hd; rfl⟩
  · exact .inr ⟨hg, (Function.update_of_ne hg _ _).symm.trans h⟩

omit [DecidableEq C] in
lemma continues_goOn (hact : s.activity f = .inCall c) (hinfo : c'.info = c.info)
    (hsub : c.timers ⊆ c'.timers) : s.Continues (s.goOn f c') := by
  intro g d hd
  rcases activity_goOn hd with ⟨rfl, rfl⟩ | ⟨-, hold⟩
  · exact .inr ⟨c, hact, hinfo.symm, hsub⟩
  · exact .inr ⟨d, hold, rfl, List.Subset.refl _⟩

lemma Sound.infos_goOn (hs : s.Sound t) (hact : s.activity f = .inCall c)
    (hinfo : c'.info = c.info) {h : F} {d e : HookCall}
    (hd : (s.goOn f c').activity g = .inCall d) (he : (s.goOn f c').activity h = .inCall e)
    (heq : d.info = e.info) : g = h := by
  rcases activity_goOn hd with ⟨rfl, rfl⟩ | ⟨-, hd'⟩
  · rcases activity_goOn he with ⟨rfl, rfl⟩ | ⟨-, he'⟩
    · rfl
    · exact hs.infos _ _ c e hact he' (hinfo.symm.trans heq)
  · rcases activity_goOn he with ⟨rfl, rfl⟩ | ⟨-, he'⟩
    · exact hs.infos _ _ d c hd' hact (heq.trans hinfo)
    · exact hs.infos _ _ d e hd' he' heq

/-- A call goes on. -/
lemma Sound.goOn (hs : s.Sound t) (hact : s.activity f = .inCall c) (hc' : s.CallSound f c')
    (hinfo : c'.info = c.info) (hsub : c.timers ⊆ c'.timers) : (s.goOn f c').Sound t where
  manager := hs.manager
  timers := hs.timers
  fibers := by
    refine (Function.forall_update_iff s.activity fun g a => (s.goOn f c').FiberSound g a).mpr
      ⟨?_, fun g _ => (hs.fibers g).congr rfl rfl rfl rfl rfl rfl (List.Subset.refl _)⟩
    exact FiberSound.congr (s := s) (a := .inCall c') hc' rfl rfl rfl rfl rfl rfl
      (List.Subset.refl _)
  infos _ _ _ _ hd he heq := hs.infos_goOn hact hinfo hd he heq
  queued x hx := (hs.queued x hx).mono (le_refl _) (continues_goOn hact hinfo hsub)
  heap id hid := (hs.heap id hid).mono (le_refl _) (continues_goOn hact hinfo hsub)

omit [DecidableEq C] in
lemma activity_finish {result : Except Errno ℕ} {d : HookCall}
    (h : (s.finish f c' result).activity g = .inCall d) : g ≠ f ∧ s.activity g = .inCall d := by
  by_cases hg : g = f
  · subst hg
    have hd : HookActivity.returned _ = .inCall d := (Function.update_self ..).symm.trans h
    cases hd
  · exact ⟨hg, (Function.update_of_ne hg _ _).symm.trans h⟩

/-- A call returns. -/
lemma Sound.finish (hs : s.Sound t) {result : Except Errno ℕ}
    (hr : s.ReturnSound f ⟨c', result, s.connection c'.fd⟩) : (s.finish f c' result).Sound t := by
  have hcontinues : s.Continues (s.finish f c' result) := fun g d hd =>
    .inr ⟨d, (activity_finish hd).2, rfl, List.Subset.refl _⟩
  have hmono : ∀ g a, s.FiberSound g a → (s.finish f c' result).FiberSound g a := by
    refine fun g a h => h.mono (fun hseat => hseat) (List.Subset.refl _) (fun _ _ hmem => hmem)
      (le_refl _) (List.Subset.refl _) fun d _ htrue => .inl ?_
    by_cases hd : d.info = c'.info
    · have hnone := (congrArg (s.finish f c' result).infos hd).symm.trans htrue
      simp [HookSystem.finish] at hnone
    · exact (Function.update_of_ne hd _ _).symm.trans htrue
  refine ⟨hs.manager, hs.timers, ?_, fun g h d e hd he => hs.infos g h d e (activity_finish hd).2
    (activity_finish he).2, fun x hx => (hs.queued x hx).mono (le_refl _) hcontinues,
    fun id hid => (hs.heap id hid).mono (le_refl _) hcontinues⟩
  exact (Function.forall_update_iff s.activity _).mpr
    ⟨hmono f _ hr, fun g _ => hmono g _ (hs.fibers g)⟩

/-- A call begins. -/
lemma Sound.start (hs : s.Sound t) (hseat : s.manager.Seated f none (s.resumed f))
    (which : HookedFun) (fd : ℕ) (e : Event) (timeout : Option ℕ) :
    (s.start f which fd e timeout).Sound t := by
  set c₀ : HookCall := ⟨which, fd, e, timeout, s.nextInfo, none, .issue, [], []⟩ with hc₀
  have hcall : ∀ {g d}, (s.start f which fd e timeout).activity g = .inCall d →
      (g = f ∧ d = c₀) ∨ (g ≠ f ∧ s.activity g = .inCall d) := fun hd => activity_goOn hd
  have hold : ∀ {g d}, s.activity g = .inCall d → d.info < s.nextInfo := fun hd => (hs.call hd).info
  have hcontinues : s.Continues (s.start f which fd e timeout) := by
    intro g d hd
    rcases hcall hd with ⟨-, rfl⟩ | ⟨-, hd'⟩
    · exact .inl (le_refl _)
    · exact .inr ⟨d, hd', rfl, List.Subset.refl _⟩
  refine ⟨hs.manager, hs.timers, ?_, fun g h d d' hd hd' heq => ?_,
    fun x hx => (hs.queued x hx).mono (Nat.le_succ _) hcontinues,
    fun id hid => (hs.heap id hid).mono (Nat.le_succ _) hcontinues⟩
  · refine (Function.forall_update_iff s.activity _).mpr ⟨?_, fun g hg => ?_⟩
    · refine ⟨hseat, fun id hid => absurd hid List.not_mem_nil,
        fun id hid => absurd hid List.not_mem_nil, Nat.lt_succ_self _, fun htrue => ?_,
        fun x hx => absurd hx List.not_mem_nil⟩
      exact absurd ((Function.update_self ..).symm.trans htrue) (by simp)
    · refine (hs.fibers g).mono (fun hseat => hseat) (List.Subset.refl _) (fun _ _ hmem => hmem)
        (Nat.le_succ _) (List.Subset.refl _) fun d hd htrue => .inl ?_
      exact (Function.update_of_ne (hold hd).ne _ _).symm.trans htrue
  · rcases hcall hd with ⟨rfl, rfl⟩ | ⟨-, hd₁⟩
    · rcases hcall hd' with ⟨rfl, rfl⟩ | ⟨-, hd₂⟩
      · rfl
      · exact absurd heq (hold hd₂).ne'
    · rcases hcall hd' with ⟨rfl, rfl⟩ | ⟨-, hd₂⟩
      · exact absurd heq (hold hd₁).ne
      · exact hs.infos _ _ d d' hd₁ hd₂ heq

/-! ### The timer of the round -/

omit [DecidableEq F] [DecidableEq C] in
@[simp] lemma cancelTimer_connection (s : HookSystem F C U) (c : HookCall) :
    (s.cancelTimer c).connection = s.connection := by
  unfold cancelTimer
  cases c.timer <;> rfl

omit [DecidableEq F] [DecidableEq C] in
@[simp] lemma cancelTimer_infos (s : HookSystem F C U) (c : HookCall) :
    (s.cancelTimer c).infos = s.infos := by
  unfold cancelTimer
  cases c.timer <;> rfl

omit [DecidableEq F] [DecidableEq C] in
@[simp] lemma cancelTimer_manager (s : HookSystem F C U) (c : HookCall) :
    (s.cancelTimer c).manager = s.manager := by
  unfold cancelTimer
  cases c.timer <;> rfl

omit [DecidableEq F] [DecidableEq C] in
@[simp] lemma cancelTimer_activity (s : HookSystem F C U) (c : HookCall) :
    (s.cancelTimer c).activity = s.activity := by
  unfold cancelTimer
  cases c.timer <;> rfl

omit [DecidableEq F] [DecidableEq C] in
@[simp] lemma cancelTimer_inbox (s : HookSystem F C U) (c : HookCall) :
    (s.cancelTimer c).inbox = s.inbox := by
  unfold HookSystem.cancelTimer
  split <;> rfl

omit [DecidableEq F] [DecidableEq C] in
@[simp] lemma cancelTimer_resumed (s : HookSystem F C U) (c : HookCall) :
    (s.cancelTimer c).resumed = s.resumed := by
  unfold cancelTimer
  cases c.timer <;> rfl

lemma Sound.cancelTimer (hs : s.Sound t) (c : HookCall) : (s.cancelTimer c).Sound t := by
  unfold HookSystem.cancelTimer
  cases c.timer with
  | none => exact hs
  | some id => exact hs.spares (hs.timers.cancel id) not_timedOut_none

lemma CallSound.timer_of_mem (hc : s.CallSound f c) {id : TimerId} (hid : id ∈ c.timers)
    (hmem : id ∈ s.timers.timers) : c.timer = some id := by
  have harmed := hc.out id hid hmem
  unfold HookCall.armed at harmed
  split_ifs at harmed
  exact harmed

/-- After `timer->cancel()` no timer of the call is in the set. -/
lemma Sound.notMem_cancelTimer (hs : s.Sound t) (hc : s.CallSound f c) :
    ∀ id ∈ c.timers, id ∉ (s.cancelTimer c).timers.timers := by
  intro id hid hmem
  unfold HookSystem.cancelTimer at hmem
  cases htimer : c.timer with
  | none =>
    rw [htimer] at hmem
    simp [hc.timer_of_mem hid hmem] at htimer
  | some it =>
    rw [htimer] at hmem
    have hown : id ∈ s.own := hc.owned id hid
    have hset : id ∈ s.timers.timers := (hs.timers.cancel it).mem id hown hmem
    obtain rfl : it = id := Option.some.inj (htimer.symm.trans (hc.timer_of_mem hid hset))
    exact hs.timers.ordered.notMem_cancel (hs.timers.armed it hown) hmem

/-- The call stands where no timer of it is in the set. -/
lemma CallSound.notMem_of_armed (hc : s.CallSound f c) (harmed : c.armed = none) :
    ∀ id ∈ c.timers, id ∉ s.timers.timers := by
  intro id hid hmem
  have hsome := hc.out id hid hmem
  simp [harmed] at hsome

/-- The call goes on to where it waits for nothing. -/
lemma CallSound.move (hc : s.CallSound f c) (hseat : s.manager.Seated f none (s.resumed f))
    (hout : ∀ id ∈ c.timers, id ∉ s.timers.timers) {pc : HookPc} (hpc : pc ≠ .parked) :
    s.CallSound f { c with pc := pc } where
  seated := by rwa [HookCall.seat, if_neg hpc]
  owned := hc.owned
  out id hid hmem := absurd hmem (hout id hid)
  info := hc.info
  ran := hc.ran
  results := hc.results

/-! ### The steps one by one -/

lemma seat_of_ne {c : HookCall} (hpc : c.pc ≠ .parked) : c.seat = none := if_neg hpc

lemma armed_of_ne {c : HookCall} (hadd : c.pc ≠ .add) (hpc : c.pc ≠ .parked) : c.armed = none :=
  if_neg (by simp [hadd, hpc])

/-- The fiber is in its call, and waits for nothing. -/
lemma CallSound.unseated (hc : s.CallSound f c) (hpc : c.pc ≠ .parked) :
    s.manager.Seated f none (s.resumed f) := by
  have hseat := hc.seated
  rwa [seat_of_ne hpc] at hseat

/-- A call returns with `-1`, or is none of `do_io`. -/
lemma CallSound.returns (hc : s.CallSound f c) (hseat : s.manager.Seated f none (s.resumed f))
    (hout : ∀ id ∈ c.timers, id ∉ s.timers.timers) {result : Except Errno ℕ}
    {connection : Connection} (hresult : c.which = .doIo → ∃ e, result = .error e ∧
      (e = .etimedout → ∃ id ∈ c.timers, id ∈ s.ran)) :
    s.ReturnSound f ⟨c, result, connection⟩ where
  seated := hseat
  owned := hc.owned
  out := hout
  value hio n hn := by
    obtain ⟨e, he, -⟩ := hresult hio
    exact absurd (he.symm.trans hn) (by simp)
  timedOut hio htimedout := by
    obtain ⟨e, he, hran⟩ := hresult hio
    obtain rfl : e = .etimedout := by simpa using he.symm.trans htimedout
    exact .inl (hran rfl)

/-- `fun(fd, …)` has returned. -/
lemma Sound.issue (hs : s.Sound t) (hact : s.activity f = .inCall c) (hpc : c.pc = .issue)
    (result : Except Errno ℕ) : (s.issue f c result).Sound t := by
  have hc := hs.call hact
  have hseat := hc.unseated (by simp [hpc])
  have hout := hc.notMem_of_armed (armed_of_ne (by simp [hpc]) (by simp [hpc]))
  have hrecord : Retried result →
      s.CallSound f { c with results := c.results ++ [result] } := fun hretried =>
    ⟨hc.seated, hc.owned, hc.out, hc.info, hc.ran, fun x hx =>
      (List.mem_append.mp hx).elim (hc.results x) fun hx => List.mem_singleton.mp hx ▸ hretried⟩
  have hreturn : s.ReturnSound f ⟨{ c with results := c.results ++ [result] }, result,
      s.connection c.fd⟩ :=
    ⟨hseat, hc.owned, hout, fun _ n hn => ⟨c.results, by rw [← hn], hc.results⟩,
      fun _ htimedout => .inr (by simp [← htimedout])⟩
  have hsub : c.timers ⊆ c.timers := List.Subset.refl _
  unfold HookSystem.issue
  split
  · exact hs.goOn hact (hrecord (.inl rfl)) rfl hsub
  · exact hs.goOn hact ((hrecord (.inr rfl)).move hseat hout (by simp)) rfl hsub
  · exact hs.finish hreturn

lemma Sound.connectF (hs : s.Sound t) (hact : s.activity f = .inCall c) (hpc : c.pc = .issue)
    (hwhich : c.which = .connectWithTimeout) {answer : ConnectAnswer}
    (h : s.connectF f c answer = some s') : s'.Sound t := by
  have hc := hs.call hact
  have hseat := hc.unseated (by simp [hpc])
  have hout := hc.notMem_of_armed (armed_of_ne (by simp [hpc]) (by simp [hpc]))
  have hio : c.which ≠ .doIo := by simp [hwhich]
  cases answer with
  | connected =>
    obtain rfl := Option.some.inj h
    have hs' := hs.connection (Function.update s.connection c.fd .established)
    exact hs'.finish ((hs'.call hact).returns hseat hout fun h => absurd h hio)
  | inProgress =>
    simp only [HookSystem.connectF] at h
    split_ifs at h
    obtain rfl := Option.some.inj h
    have hs' := hs.connection (Function.update s.connection c.fd .inProgress)
    exact hs'.goOn hact ((hs'.call hact).move hseat hout (by simp)) rfl (List.Subset.refl _)
  | failed e =>
    obtain rfl := Option.some.inj h
    exact hs.finish (hc.returns hseat hout fun h => absurd h hio)

/-- The `addConditionTimer` of a round. -/
lemma Sound.arm (hs : s.Sound t) (hact : s.activity f = .inCall c) (hpc : c.pc = .arm) (now : ℤ) :
    (s.arm f c now).Sound t := by
  have hc := hs.call hact
  have hseat := hc.unseated (by simp [hpc])
  have hout := hc.notMem_of_armed (armed_of_ne (by simp [hpc]) (by simp [hpc]))
  unfold HookSystem.arm
  split
  · have hc' : s.CallSound f { c with pc := .add, timer := none } :=
      ⟨hseat, hc.owned, fun id hid hmem => absurd hmem (hout id hid), hc.info, hc.ran, hc.results⟩
    exact hs.goOn hact hc' rfl (List.Subset.refl _)
  · rename_i ms _
    set id := s.timers.created with hid
    set cb : Option (Callback (TimerFun U)) :=
      some (.onTimer c.info (some (.user (.timedOut c.info c.fd c.event)))) with hcb
    set m := (s.timers.addTimer ms cb false now).1 with hm
    have howns : m.Owns (id :: s.own) := hs.timers.addTimer_of fun x hx => by
      rcases List.mem_cons.mp hx with rfl | hx
      · exact .inr ⟨rfl, rfl, rfl⟩
      · exact .inl hx
    have hspares := hs.timers.addTimer_spares howns (List.subset_cons_self _ _)
    set c' : HookCall := { c with pc := .add, timer := some id, timers := id :: c.timers } with hc'
    set u : HookSystem F C U := { s with timers := m, own := id :: s.own } with hu
    change (u.goOn f c').Sound t
    have hinfo : c'.info = c.info := rfl
    have hcontinues : s.Continues (s.goOn f c') :=
      continues_goOn hact hinfo (List.subset_cons_self _ _)
    have hinfos : ∀ g h d e, (s.goOn f c').activity g = .inCall d →
        (s.goOn f c').activity h = .inCall e → d.info = e.info → g = h :=
      fun _ _ _ _ hd he heq => hs.infos_goOn hact hinfo hd he heq
    have hmono : ∀ g a, s.FiberSound g a → (u.goOn f c').FiberSound g a := fun g a h =>
      h.mono (fun hseat => hseat) (List.subset_cons_self _ _) hspares.mem (le_refl _)
        (List.Subset.refl _) fun _ _ htrue => .inl htrue
    refine ⟨hs.manager, howns, ?_, hinfos,
      fun x hx => (hs.queued x hx).mono (le_refl _) hcontinues, fun x hx => ?_⟩
    · refine (Function.forall_update_iff s.activity _).mpr ⟨?_, fun g _ => hmono g _ (hs.fibers g)⟩
      refine ⟨hseat, fun x hx => ?_, fun x hx hmem => ?_, hc.info, fun htrue => ?_, hc.results⟩
      · exact List.mem_cons.mpr ((List.mem_cons.mp hx).imp_right (hc.owned x))
      · rcases List.mem_cons.mp hx with rfl | hx
        · rfl
        · exact absurd (hspares.mem x (hc.owned x hx) hmem) (hout x hx)
      · obtain ⟨x, hx, hmem⟩ := hc.ran htrue
        exact ⟨x, List.mem_cons_of_mem _ hx, hmem⟩
    · intro info fd e hof
      have hsome : (m.heap x).cb.isSome := by
        by_contra hnone
        have hnone' : (m.heap x).cb = none := by simpa using hnone
        exact not_timedOut_none info fd e (hnone' ▸ hof)
      rcases hspares.callback x hx hsome with ⟨hlt, hold⟩ | ⟨rfl, hnew⟩
      · have hcloses : (s.goOn f c').Closes x (s.timers.heap x).cb :=
          (hs.heap x hlt).mono (le_refl _) hcontinues
        exact hcloses info fd e (hold ▸ hof)
      · -- the new timer
        have hfun : TimerFun.of cb = some (.timedOut info fd e) := hnew ▸ hof
        obtain ⟨rfl, -, -⟩ : c.info = info ∧ c.fd = fd ∧ c.event = e := by
          simpa [hcb, TimerFun.of] using hfun
        refine ⟨hc.info, fun g d hd hinfo => ?_⟩
        rcases activity_goOn hd with ⟨rfl, rfl⟩ | ⟨hne, hold⟩
        · exact List.mem_cons_self
        · exact absurd (hs.infos g f d c hold hact hinfo) hne

omit [DecidableEq F] [DecidableEq C] in
lemma addErrno_ne (s : HookSystem F C U) (c : HookCall) (ctl : Option CtlErrno) :
    s.addErrno c ctl ≠ .etimedout := by
  unfold addErrno
  split_ifs
  · simp
  · rcases ctl with _ | _ | _ <;> simp [CtlErrno.errno]

lemma Sound.add (hs : s.Sound t) (hact : s.activity f = .inCall c) (hpc : c.pc = .add)
    {ctl : Option CtlErrno} (h : s.add f c ctl = some s') : s'.Sound t := by
  have hc := hs.call hact
  have hseat := hc.unseated (by simp [hpc])
  obtain ⟨⟨m, rt⟩, hr, rfl⟩ := Option.map_eq_some_iff.mp h
  have hm : m.Sound t := by
    obtain ⟨r, hr', hsound⟩ := hs.manager.addEvent f rfl c.fd c.event none ctl.isSome
    obtain rfl := Option.some.inj (hr.symm.trans hr')
    exact hsound
  obtain ⟨hscheduled, hwaits⟩ := IOManager.addEvent_waits hs.manager.size hr
  by_cases hrt : rt = 0
  · -- the fiber takes its seat, and then the event is registered
    have hc' : s.CallSound f { c with pc := .parked } :=
      ⟨hseat.any _, hc.owned, fun id hid hmem => hc.timer_of_mem hid hmem, hc.info, hc.ran,
        hc.results⟩
    have hsit : ∀ g, m.Seated g ((s.goOn f { c with pc := .parked }).activity g).seat
        (s.resumed g) := by
      refine (Function.forall_update_iff s.activity fun g a => m.Seated g a.seat (s.resumed g)).mpr
        ⟨hseat.sit hscheduled fun g e' => ?_, fun g hg => ?_⟩
      · simp [hwaits, hrt]
      · exact (hs.fibers g).seated.congr hscheduled fun g' e' => by simp [hwaits, hg]
    dsimp only
    rw [if_pos hrt]
    exact (hs.goOn hact hc' rfl (List.Subset.refl _)).registry hm hsit
  · have hfail : ({ s with manager := m } : HookSystem F C U).Sound t :=
      hs.registry hm fun g => (hs.fibers g).seated.congr hscheduled
        fun g' e' => by simp [hwaits, hrt]
    have hcancel := hfail.cancelTimer c
    have hact' : (HookSystem.cancelTimer { s with manager := m } c).activity f = .inCall c := by
      simpa using hact
    have hc' := hcancel.call hact'
    have hseat' := hc'.unseated (by simp [hpc])
    have hout := hfail.notMem_cancelTimer (hfail.call hact)
    dsimp only
    rw [if_neg hrt]
    split
    · refine hcancel.finish (hc'.returns hseat' hout fun _ => ⟨_, rfl, fun htimedout => ?_⟩)
      exact absurd htimedout (addErrno_ne s c ctl)
    · exact hcancel.goOn hact' (hc'.move hseat' hout (by simp)) rfl (List.Subset.refl _)

lemma Sound.resume (hs : s.Sound t) (hact : s.activity f = .inCall c)
    (hscheduled : s.scheduled f) : (s.resume f c).Sound t := by
  have hc := hs.call hact
  set u : HookSystem F C U :=
    { s with resumed := Function.update s.resumed f (s.resumed f + 1) } with hu
  have hleave : u.manager.Seated f none (u.resumed f) := by
    have hseat := hc.seated.leave hscheduled
    simpa [hu] using hseat
  have hsu : u.Sound t := by
    refine ⟨hs.manager, hs.timers, fun g => (hs.fibers g).mono (fun hseat => ?_)
      (List.Subset.refl _) (fun _ _ hmem => hmem) (le_refl _) (List.Subset.refl _)
      fun _ _ htrue => .inl htrue, hs.infos, hs.queued, hs.heap⟩
    by_cases hg : g = f
    · exact hg ▸ hleave.any _
    · simpa [hu, hg] using hseat
  have hcancel := hsu.cancelTimer c
  have hact' : (u.cancelTimer c).activity f = .inCall c := by simpa using hact
  have hc' := hcancel.call hact'
  have hseat' : (u.cancelTimer c).manager.Seated f none ((u.cancelTimer c).resumed f) := by
    simpa using hleave
  have hout := hsu.notMem_cancelTimer (hsu.call hact)
  unfold HookSystem.resume
  split_ifs with hinfo
  · refine hcancel.finish (hc'.returns hseat' hout fun _ => ⟨_, rfl, fun _ => hc'.ran ?_⟩)
    simpa using hinfo
  · split
    · exact hcancel.goOn hact' (hc'.move hseat' hout (by simp)) rfl (List.Subset.refl _)
    · exact hcancel.goOn hact' (hc'.move hseat' hout (by simp)) rfl (List.Subset.refl _)

lemma Sound.getsockopt (hs : s.Sound t) (hact : s.activity f = .inCall c) (hpc : c.pc = .check)
    (hwhich : c.which = .connectWithTimeout) (fail : Option Errno) :
    (s.getsockopt f c fail).Sound t := by
  have hc := hs.call hact
  have hout := hc.notMem_of_armed (armed_of_ne (by simp [hpc]) (by simp [hpc]))
  have hseat := hc.unseated (by simp [hpc])
  have hio : c.which ≠ .doIo := by simp [hwhich]
  unfold HookSystem.getsockopt
  split
  · exact hs.finish (hc.returns hseat hout fun h => absurd h hio)
  · split
    · have hs' := hs.connection (Function.update s.connection c.fd .unconnected)
      exact hs'.finish ((hs'.call hact).returns hseat hout fun h => absurd h hio)
    · exact hs.finish (hc.returns hseat hout fun h => absurd h hio)

/-! ### All steps -/

/-- What each step does. -/
def StepSpec (s s' : HookSystem F C U) : HookAction F C U → Prop
  | .doIo f fd event timeout => (∀ c, s.activity f ≠ .inCall c) ∧
      s' = s.start f .doIo fd event timeout
  | .connect f fd timeout => (∀ c, s.activity f ≠ .inCall c) ∧
      s' = s.start f .connectWithTimeout fd .write timeout
  | .issue f result => ∃ c, s.activity f = .inCall c ∧ c.pc = .issue ∧ c.which = .doIo ∧
      s' = s.issue f c result
  | .connectF f answer => ∃ c, s.activity f = .inCall c ∧ c.pc = .issue ∧
      c.which = .connectWithTimeout ∧ s.connectF f c answer = some s'
  | .arm f now => ∃ c, s.activity f = .inCall c ∧ c.pc = .arm ∧ s' = s.arm f c now
  | .add f ctl => ∃ c, s.activity f = .inCall c ∧ c.pc = .add ∧ s.add f c ctl = some s'
  | .resume f => ∃ c, s.activity f = .inCall c ∧ c.pc = .parked ∧ s.scheduled f ∧
      s' = s.resume f c
  | .getsockopt f fail => ∃ c, s.activity f = .inCall c ∧ c.pc = .check ∧
      c.which = .connectWithTimeout ∧ s' = s.getsockopt f c fail
  | .run i fail => s.runQueued i fail = some s'
  | .expire now now' fuel => s.expire now now' fuel = some s'
  | .timer call => (∀ id ∈ call.target, id < s.timers.created ∧ id ∉ s.own) ∧
      s' = { s with timers := call.run s.timers }
  | .event call => ∃ m, call.run s.manager = some m ∧ s' = { s with manager := m }
  | .epollWait events => s' = { s with inbox := s.inbox ++ events }
  | .dispatch i fail => s.dispatch i fail = some s'
  | .settle fd failed => s' = { s with
      connection := Function.update s.connection fd (failed.elim .established .failed) }

lemma callStep_spec {b : HookAction F C U} (hfiber : fiberOf b = some f)
    (hact : s.activity f = .inCall c) (h : s.callStep f c b = some s') : StepSpec s s' b := by
  cases b with
  | issue g result =>
    obtain rfl : g = f := Option.some.inj hfiber
    obtain ⟨hpc, h⟩ := Option.ite_none_right_eq_some.mp h
    exact ⟨c, hact, hpc.1, hpc.2, (Option.some.inj h).symm⟩
  | connectF g answer =>
    obtain rfl : g = f := Option.some.inj hfiber
    obtain ⟨hpc, h⟩ := Option.ite_none_right_eq_some.mp h
    exact ⟨c, hact, hpc.1, hpc.2, h⟩
  | arm g now =>
    obtain rfl : g = f := Option.some.inj hfiber
    obtain ⟨hpc, h⟩ := Option.ite_none_right_eq_some.mp h
    exact ⟨c, hact, hpc, (Option.some.inj h).symm⟩
  | add g ctl =>
    obtain rfl : g = f := Option.some.inj hfiber
    obtain ⟨hpc, h⟩ := Option.ite_none_right_eq_some.mp h
    exact ⟨c, hact, hpc, h⟩
  | resume g =>
    obtain rfl : g = f := Option.some.inj hfiber
    obtain ⟨hpc, h⟩ := Option.ite_none_right_eq_some.mp h
    exact ⟨c, hact, hpc.1, hpc.2, (Option.some.inj h).symm⟩
  | getsockopt g fail =>
    obtain rfl : g = f := Option.some.inj hfiber
    obtain ⟨hpc, h⟩ := Option.ite_none_right_eq_some.mp h
    exact ⟨c, hact, hpc.1, hpc.2, (Option.some.inj h).symm⟩
  | _ => cases h

lemma freeStep_spec {b : HookAction F C U} (hfiber : fiberOf b = some f)
    (hact : ∀ c, s.activity f ≠ .inCall c) (h : s.freeStep f b = some s') : StepSpec s s' b := by
  cases b with
  | doIo g fd event timeout =>
    obtain rfl : g = f := Option.some.inj hfiber
    exact ⟨hact, (Option.some.inj h).symm⟩
  | connect g fd timeout =>
    obtain rfl : g = f := Option.some.inj hfiber
    exact ⟨hact, (Option.some.inj h).symm⟩
  | _ => cases h

lemma otherStep_spec {b : HookAction F C U} (h : s.otherStep b = some s') : StepSpec s s' b := by
  cases b with
  | run i fail => exact h
  | expire now now' fuel => exact h
  | timer call =>
    obtain ⟨htarget, h⟩ := Option.ite_none_right_eq_some.mp h
    exact ⟨htarget, (Option.some.inj h).symm⟩
  | event call =>
    obtain ⟨m, hm, rfl⟩ := Option.map_eq_some_iff.mp h
    exact ⟨m, hm, rfl⟩
  | epollWait events => exact (Option.some.inj h).symm
  | dispatch i fail => exact h
  | settle fd failed =>
    obtain ⟨-, h⟩ := Option.ite_none_right_eq_some.mp h
    exact (Option.some.inj h).symm
  | _ => cases h

lemma step_spec {b : HookAction F C U} (h : machine.step s b = some s') : StepSpec s s' b := by
  simp only [machine] at h
  split at h
  · exact otherStep_spec h
  · rename_i f hfiber
    split at h
    · rename_i c hact
      exact callStep_spec hfiber hact h
    · rename_i hact
      exact freeStep_spec hfiber hact h

/-- Every step keeps the invariant. -/
theorem step_sound (b : HookAction F C U) (hs : s.Sound t) (h : machine.step s b = some s') :
    s'.Sound t := by
  have hspec := step_spec h
  have hfree : ∀ f, (∀ c, s.activity f ≠ .inCall c) → s.manager.Seated f none (s.resumed f) := by
    intro f hno
    have hseat := (hs.fibers f).seated
    cases hact : s.activity f with
    | inCall c => exact absurd hact (hno c)
    | _ =>
      rw [hact] at hseat
      exact hseat
  cases b with
  | doIo f fd e timeout =>
    obtain ⟨hno, rfl⟩ := hspec
    exact hs.start (hfree f hno) _ fd e timeout
  | connect f fd timeout =>
    obtain ⟨hno, rfl⟩ := hspec
    exact hs.start (hfree f hno) _ fd _ timeout
  | issue f result =>
    obtain ⟨c, hact, hpc, -, rfl⟩ := hspec
    exact hs.issue hact hpc result
  | connectF f answer =>
    obtain ⟨c, hact, hpc, hwhich, h⟩ := hspec
    exact hs.connectF hact hpc hwhich h
  | arm f now =>
    obtain ⟨c, hact, hpc, rfl⟩ := hspec
    exact hs.arm hact hpc now
  | add f ctl =>
    obtain ⟨c, hact, hpc, h⟩ := hspec
    exact hs.add hact hpc h
  | resume f =>
    obtain ⟨c, hact, -, hscheduled, rfl⟩ := hspec
    exact hs.resume hact hscheduled
  | getsockopt f fail =>
    obtain ⟨c, hact, hpc, hwhich, rfl⟩ := hspec
    exact hs.getsockopt hact hpc hwhich fail
  | run i fail => exact hs.runQueued hspec
  | expire now now' fuel => exact hs.expire hspec
  | timer call =>
    obtain ⟨htarget, rfl⟩ := hspec
    exact hs.spares (call.run_spares hs.timers htarget) call.callback_ne
  | event call =>
    obtain ⟨m, hm, rfl⟩ := hspec
    exact hs.event hm
  | epollWait events =>
    obtain rfl := hspec
    exact hs.reports _
  | dispatch i fail => exact hs.dispatch hspec
  | settle fd failed =>
    obtain rfl := hspec
    exact hs.connection _

/-- The invariant holds in every reachable state. -/
theorem sound_of_run {now : ℤ} {as : List (HookAction F C U)}
    (h : machine.run (init t now : HookSystem F C U) as = some s) : s.Sound t :=
  Machine.run_invariant (fun _ b _ hs hstep => step_sound b hs hstep) (init_sound t now) h

end HookSystem

end CoroutineGateway
