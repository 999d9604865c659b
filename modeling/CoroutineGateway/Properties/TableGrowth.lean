import CoroutineGateway.Construction.ContextTable
import CoroutineGateway.Properties.RegistryInvariant

/-!
# The table of contexts only grows

`addEvent` asks for a size under one lock and sets it under another.  In between the table may have
grown past that size, and then `contextResize` cuts it off again, with the contexts beyond, and with
their waiters.

`kept_throughout_iff` says that nothing else goes wrong: in a run every index is in range, and every
descriptor keeps the context it was given, exactly if no resize goes to a size below the one that
the table has, and no descriptor is negative.
-/

namespace CoroutineGateway

namespace ContextTable

variable {T F C : Type*} {s s' : ContextTable T F C}

/-- Every index used was in range, `m_fdContexts` has every context where it was put, and where an
event was registered a look-up finds it. -/
structure Kept (s : ContextTable T F C) : Prop where
  inRange : s.outOfRange = false
  same : ∀ g ∈ s.given, s.fdContexts[g.1]? = some g.2
  found : ∀ r ∈ s.registered, ∃ ptr, s.fdContexts[r.1]? = some ptr ∧ r.2 ∈ (s.heap ptr).events

/-- The descriptor is not negative, and the new size is no smaller than the old one. -/
def KeepsContexts (s : ContextTable T F C) : ContextTableOp T F C → Prop
  | .addEvent _ fd _ => 0 ≤ fd
  | .resize th => ∀ fd call, s.pc th = .resize fd call → s.fdContexts.length ≤ fd * 3 / 2
  | .register _ _ => True

/-- What such steps keep. -/
structure Sound (s : ContextTable T F C) : Prop where
  inRange : s.outOfRange = false
  /-- The table holds what was given, and nothing else. -/
  given : ∀ i ptr, (i, ptr) ∈ s.given ↔ s.fdContexts[i]? = some ptr
  registered : ∀ r ∈ s.registered, ∃ ptr, s.fdContexts[r.1]? = some ptr ∧
    r.2 ∈ (s.heap ptr).events
  size : 32 ≤ s.fdContexts.length
  /-- A descriptor that was beyond the table is at least as large as the table was at first. -/
  pending : ∀ th fd call, s.pc th = .resize fd call → 32 ≤ fd
  holding : ∀ th fd ptr call, s.pc th = .register fd ptr call → s.fdContexts[fd]? = some ptr
  created : ∀ ptr ∈ s.fdContexts, ptr < s.created

lemma Sound.kept (hs : s.Sound) : s.Kept where
  inRange := hs.inRange
  same g hg := (hs.given g.1 g.2).mp hg
  found := hs.registered

/-! ## `contextResize` -/

@[simp] lemma length_contextResize (s : ContextTable T F C) (size : ℕ) :
    (s.contextResize size).fdContexts.length = size := by
  simp only [contextResize, List.length_append, List.length_take, List.length_range']
  omega

/-- What lies below the new size stays. -/
lemma getElem?_contextResize {size i ptr : ℕ} (hi : i < size) (h : s.fdContexts[i]? = some ptr) :
    (s.contextResize size).fdContexts[i]? = some ptr := by
  have hlt : i < s.fdContexts.length := (List.getElem?_eq_some_iff.mp h).1
  simp only [contextResize]
  rw [List.getElem?_append_left (by simp [hi, hlt]), List.getElem?_take_of_lt hi, h]

lemma heap_contextResize {ptr : ℕ} (h : ptr < s.created) (size : ℕ) :
    (s.contextResize size).heap ptr = s.heap ptr :=
  if_neg fun hnew => absurd hnew.1 (not_le.mpr h)

lemma created_contextResize (hs : ∀ ptr ∈ s.fdContexts, ptr < s.created) (size : ℕ) :
    ∀ ptr ∈ (s.contextResize size).fdContexts, ptr < (s.contextResize size).created := by
  intro ptr hptr
  simp only [contextResize] at hptr ⊢
  rcases List.mem_append.mp hptr with hold | hnew
  · exact (hs ptr (List.mem_of_mem_take hold)).trans_le (Nat.le_add_right _ _)
  · obtain ⟨i, hi, rfl⟩ := List.mem_range'.mp hnew
    omega

/-- A table that does not shrink holds what it held, and the new contexts. -/
lemma given_contextResize {size : ℕ} (hsize : s.fdContexts.length ≤ size)
    (hs : ∀ i ptr, (i, ptr) ∈ s.given ↔ s.fdContexts[i]? = some ptr) (i ptr : ℕ) :
    (i, ptr) ∈ (s.contextResize size).given ↔
      (s.contextResize size).fdContexts[i]? = some ptr := by
  simp only [contextResize, List.take_of_length_le hsize, List.mem_append, hs]
  rcases lt_or_ge i s.fdContexts.length with hi | hi
  · have hnew : (i, ptr) ∉ (List.range (size - s.fdContexts.length)).map
        fun k => (s.fdContexts.length + k, s.created + k) := by
      intro hmem
      obtain ⟨k, -, hk⟩ := List.mem_map.mp hmem
      have := congrArg Prod.fst hk
      dsimp only at this
      omega
    rw [List.getElem?_append_left hi, or_iff_left hnew]
  · rw [List.getElem?_append_right hi, List.getElem?_eq_none hi, List.mem_map,
      List.getElem?_eq_some_iff]
    simp only [reduceCtorEq, false_or, List.mem_range, Prod.mk.injEq, List.length_range',
      List.getElem_range']
    constructor
    · rintro ⟨k, hk, rfl, rfl⟩
      exact ⟨by omega, by omega⟩
    · rintro ⟨hlt, heq⟩
      exact ⟨i - s.fdContexts.length, hlt, by omega, by omega⟩

lemma Sound.contextResize (hs : s.Sound) {size : ℕ} (hsize : s.fdContexts.length ≤ size) :
    (s.contextResize size).Sound := by
  have hstays : ∀ {i ptr}, s.fdContexts[i]? = some ptr →
      (s.contextResize size).fdContexts[i]? = some ptr := fun h =>
    getElem?_contextResize ((List.getElem?_eq_some_iff.mp h).1.trans_le hsize) h
  exact {
    inRange := hs.inRange
    given := given_contextResize hsize hs.given
    registered := fun r hr => by
      obtain ⟨ptr, hptr, hevent⟩ := hs.registered r hr
      have hlt : ptr < s.created := hs.created ptr (List.mem_of_getElem? hptr)
      exact ⟨ptr, hstays hptr, by rwa [heap_contextResize hlt]⟩
    size := by simpa using hs.size.trans hsize
    pending := hs.pending
    holding := fun th fd ptr call h => hstays (hs.holding th fd ptr call h)
    created := created_contextResize hs.created size }

lemma init_sound (tickleFd : ℕ) : (init tickleFd : ContextTable T F C).Sound where
  inRange := rfl
  given := given_contextResize (Nat.zero_le 32) fun i ptr => by simp
  registered r hr := absurd hr List.not_mem_nil
  size := by simp [init]
  pending th fd call h := by cases h
  holding th fd ptr call h := by cases h
  created := created_contextResize (fun ptr hptr => absurd hptr List.not_mem_nil) 32

/-! ## The steps -/

variable [DecidableEq T]

/-- What each step does. -/
def StepSpec (s s' : ContextTable T F C) : ContextTableOp T F C → Prop
  | .addEvent th fd call => s.pc th = .idle ∧
      ((fd < 0 ∧ s'.outOfRange = true) ∨ ∃ n : ℕ, fd = n ∧
        ((n < s.fdContexts.length ∧ s' = s.give th n call) ∨
          (s.fdContexts.length ≤ n ∧ s' = s.goOn th (.resize n call))))
  | .resize th => ∃ fd call, s.pc th = .resize fd call ∧
      s' = (s.contextResize (fd * 3 / 2)).give th fd call
  | .register th fail => ∃ fd ptr call t, s.pc th = .register fd ptr call ∧
      s.register fd ptr call fail = some t ∧ s' = t.goOn th .idle

lemma step_spec (op : ContextTableOp T F C) (h : machine.step s op = some s') :
    StepSpec s s' op := by
  cases op with
  | addEvent th fd call =>
    cases hpc : s.pc th with
    | idle =>
      simp only [machine, hpc] at h
      refine ⟨hpc, ?_⟩
      split_ifs at h with hfd
      · cases fd with
        | ofNat n =>
          obtain rfl := Option.some.inj h
          exact .inr ⟨n, rfl, .inl ⟨Int.ofNat_lt.mp hfd, rfl⟩⟩
        | negSucc n =>
          obtain rfl := Option.some.inj h
          exact .inl ⟨Int.negSucc_lt_zero n, rfl⟩
      · obtain rfl := Option.some.inj h
        exact .inr ⟨fd.toNat, by omega, .inr ⟨by omega, rfl⟩⟩
    | _ => simp [machine, hpc] at h
  | resize th =>
    cases hpc : s.pc th with
    | resize fd call =>
      simp only [machine, hpc, Option.some.injEq] at h
      exact ⟨fd, call, hpc, h.symm⟩
    | _ => simp [machine, hpc] at h
  | register th fail =>
    cases hpc : s.pc th with
    | register fd ptr call =>
      simp only [machine, hpc] at h
      obtain ⟨t, ht, rfl⟩ := Option.map_eq_some_iff.mp h
      exact ⟨fd, ptr, call, t, hpc, ht, rfl⟩
    | _ => simp [machine, hpc] at h

lemma Sound.goOn (hs : s.Sound) (th : T) {pc : AddEventPc F C}
    (hpending : ∀ fd call, pc = .resize fd call → 32 ≤ fd)
    (hholding : ∀ fd ptr call, pc = .register fd ptr call → s.fdContexts[fd]? = some ptr) :
    (s.goOn th pc).Sound where
  inRange := hs.inRange
  given := hs.given
  registered := hs.registered
  size := hs.size
  pending th' fd call h := by
    by_cases hth : th' = th
    · exact hpending fd call (by simpa [ContextTable.goOn, hth] using h)
    · exact hs.pending th' fd call (by simpa [ContextTable.goOn, hth] using h)
  holding th' fd ptr call h := by
    by_cases hth : th' = th
    · exact hholding fd ptr call (by simpa [ContextTable.goOn, hth] using h)
    · exact hs.holding th' fd ptr call (by simpa [ContextTable.goOn, hth] using h)
  created := hs.created

lemma give_of_lt {fd : ℕ} (hfd : fd < s.fdContexts.length) (th : T) (call : AddEventCall F C) :
    s.give th fd call = s.goOn th (.register fd s.fdContexts[fd] call) := by
  simp only [give, List.getElem?_eq_getElem hfd]

/-- A thread gets the context of a descriptor within the table. -/
lemma Sound.give (hs : s.Sound) {fd : ℕ} (hfd : fd < s.fdContexts.length) (th : T)
    (call : AddEventCall F C) : (s.give th fd call).Sound := by
  rw [give_of_lt hfd]
  refine hs.goOn th (fun fd' call' h => by cases h) fun fd' ptr call' h => ?_
  cases h
  exact List.getElem?_eq_getElem hfd

omit [DecidableEq T] in
/-- The section under the mutex does nothing, or registers the event. -/
lemma register_cases {fd ptr : ℕ} {call : AddEventCall F C} {fail : Bool}
    (h : s.register fd ptr call fail = some s') : s' = s ∨ ∃ epoll, s' = { s with
      heap := Function.update s.heap ptr ((s.heap ptr).setEvent call.event
        (IOManager.waiter call.this call.cb) (insert call.event (s.heap ptr).events))
      epoll := epoll
      pendingEventCount := s.pendingEventCount + 1
      registered := (fd, call.event) :: s.registered } := by
  simp only [ContextTable.register] at h
  by_cases hevent : call.event ∈ (s.heap ptr).events
  · rw [if_pos hevent] at h
    exact .inl (Option.some.inj h).symm
  · rw [if_neg hevent] at h
    split at h
    · exact .inl (Option.some.inj h).symm
    · rename_i epoll _
      split at h
      · exact .inr ⟨epoll, (Option.some.inj h).symm⟩
      · cases h

omit [DecidableEq T] in
lemma Sound.register (hs : s.Sound) {fd ptr : ℕ} (hptr : s.fdContexts[fd]? = some ptr)
    {call : AddEventCall F C} {fail : Bool} (h : s.register fd ptr call fail = some s') :
    s'.Sound := by
  rcases register_cases h with rfl | ⟨epoll, rfl⟩
  · exact hs
  · refine ⟨hs.inRange, hs.given, fun r hr => ?_, hs.size, hs.pending, hs.holding, hs.created⟩
    rcases List.mem_cons.mp hr with rfl | hr
    · exact ⟨ptr, hptr, by simp⟩
    · obtain ⟨ptr', hptr', hold⟩ := hs.registered r hr
      refine ⟨ptr', hptr', ?_⟩
      by_cases hne : ptr' = ptr
      · subst hne
        simp [hold]
      · simpa [hne] using hold

lemma step_sound (op : ContextTableOp T F C) (hs : s.Sound) (hop : s.KeepsContexts op)
    (hstep : machine.step s op = some s') : s'.Sound := by
  have hspec := step_spec op hstep
  cases op with
  | addEvent th fd call =>
    obtain ⟨-, ⟨hneg, -⟩ | ⟨n, rfl, ⟨hlt, rfl⟩ | ⟨hle, rfl⟩⟩⟩ := hspec
    · exact absurd hop (not_le.mpr hneg)
    · exact hs.give hlt th call
    · refine hs.goOn th (fun fd call' h => ?_) fun fd ptr call' h => by cases h
      cases h
      exact hs.size.trans hle
  | resize th =>
    obtain ⟨fd, call, hpc, rfl⟩ := hspec
    have hfd : 32 ≤ fd := hs.pending th fd call hpc
    refine (hs.contextResize (hop fd call hpc)).give ?_ th call
    rw [length_contextResize]
    omega
  | register th fail =>
    obtain ⟨fd, ptr, call, t, hpc, ht, rfl⟩ := hspec
    exact (hs.register (hs.holding th fd ptr call hpc) ht).goOn th (fun fd call' h => by cases h)
      fun fd ptr call' h => by cases h

lemma give_tables (s : ContextTable T F C) (th : T) (fd : ℕ) (call : AddEventCall F C) :
    (s.give th fd call).given = s.given ∧ (s.give th fd call).fdContexts = s.fdContexts := by
  unfold ContextTable.give
  split <;> exact ⟨rfl, rfl⟩

/-- Any other step leaves an index out of range, or a descriptor without its context. -/
lemma step_not_kept (op : ContextTableOp T F C) (hs : s.Sound) (hop : ¬ s.KeepsContexts op)
    (hstep : machine.step s op = some s') : ¬ s'.Kept := by
  intro hkept
  have hspec := step_spec op hstep
  cases op with
  | addEvent th fd call =>
    obtain ⟨-, ⟨-, hout⟩ | ⟨n, rfl, -⟩⟩ := hspec
    · exact absurd (hout.symm.trans hkept.inRange) (by simp)
    · exact hop (Int.natCast_nonneg n)
  | resize th =>
    obtain ⟨fd, call, hpc, rfl⟩ := hspec
    refine hop fun fd' call' hpc' => ?_
    obtain ⟨rfl, rfl⟩ : fd = fd' ∧ call = call' := by simpa [hpc] using hpc'
    -- otherwise the last context is cut off
    by_contra hshrinks
    have hlast : s.fdContexts.length - 1 < s.fdContexts.length := by
      have := hs.size
      omega
    obtain ⟨hgiven, htable⟩ := give_tables (s.contextResize (fd * 3 / 2)) th fd call
    have hsame := hkept.same (s.fdContexts.length - 1, s.fdContexts[s.fdContexts.length - 1]) (by
      rw [hgiven]
      exact List.mem_append_left _ ((hs.given _ _).mpr (List.getElem?_eq_getElem hlast)))
    rw [htable] at hsame
    have hlt := (List.getElem?_eq_some_iff.mp hsame).1
    rw [length_contextResize] at hlt
    omega
  | register th fail => exact hop trivial

/-- **When the table only grows.**  In a run of `addEvent` calls every index is in range, every
descriptor keeps the context that `contextResize` has put into the table for it and every
registration is found, if and only if no descriptor is negative and no resize makes the table
smaller. -/
theorem kept_throughout_iff (tickleFd : ℕ) (ops : List (ContextTableOp T F C))
    (s : ContextTable T F C) (hrun : machine.run (init tickleFd) ops = some s) :
    machine.Throughout Kept (init tickleFd : ContextTable T F C) ops ↔
      machine.Guarded KeepsContexts (init tickleFd : ContextTable T F C) ops :=
  Machine.throughout_iff_guarded (I := Sound)
    (fun _ op _ hs hop hstep => step_sound op hs hop hstep) (fun _ hs => hs.kept)
    (fun _ op _ hs hop hstep => step_not_kept op hs hop hstep) (init_sound tickleFd) hrun

/-- A run in which a descriptor beyond the table makes it grow. -/
theorem kept_throughout_growth :
    machine.Throughout Kept (init 3 : ContextTable Bool Unit Unit)
      [.addEvent true 40 ⟨(), .read, none⟩, .resize true, .register true false] ∧
    ∃ s, machine.run (init 3 : ContextTable Bool Unit Unit)
      [.addEvent true 40 ⟨(), .read, none⟩, .resize true, .register true false] = some s ∧
        s.registered = [(40, .read)] := by
  refine ⟨(kept_throughout_iff 3 _ _ rfl).mpr ⟨Int.natCast_nonneg 40, fun s hs => ?_⟩, _, rfl, rfl⟩
  obtain rfl := Option.some.inj hs
  refine ⟨fun fd call h => ?_, fun s hs => ?_⟩
  · cases h
    decide
  · obtain rfl := Option.some.inj hs
    exact ⟨trivial, fun _ _ => trivial⟩

/-- Two threads wait to resize, one for a larger descriptor.  The one for the smaller comes second,
and the context of the larger is gone. -/
theorem growth_loses_context :
    ¬ ∀ (ops : List (ContextTableOp Bool Unit Unit)) (s : ContextTable Bool Unit Unit),
      machine.run (init 3) ops = some s → machine.Throughout Kept (init 3) ops := by
  intro h
  have hlast := (h [.addEvent true 40 ⟨(), .read, none⟩, .addEvent false 100 ⟨(), .read, none⟩,
    .resize false, .register false false, .resize true] _ rfl).last rfl
  exact absurd (hlast.same (100, 100) (by decide)) (by decide +kernel)

/-! ## One call alone -/

omit [DecidableEq T] in
/-- The table with the contexts in place of the pointers is the `IOManager` of one caller. -/
structure Reflects (s : ContextTable T F C) (m : IOManager F C) : Prop where
  fdContexts : m.fdContexts = s.fdContexts.map s.heap
  count : m.pendingEventCount = s.pendingEventCount
  epoll : m.epoll = s.epoll

variable {m : IOManager F C}

omit [DecidableEq T] in
lemma Reflects.length_eq (h : s.Reflects m) : m.fdContexts.length = s.fdContexts.length := by
  simp [h.fdContexts]

omit [DecidableEq T] in
lemma Reflects.contextResize (h : s.Reflects m) (hcreated : ∀ ptr ∈ s.fdContexts, ptr < s.created)
    (size : ℕ) : (s.contextResize size).Reflects (m.grow size) where
  fdContexts := by
    have hlength := h.length_eq
    have hold : (s.fdContexts.take size).map (s.contextResize size).heap =
        m.fdContexts.take size := by
      rw [h.fdContexts, ← List.map_take]
      exact List.map_congr_left fun ptr hptr =>
        heap_contextResize (hcreated ptr (List.mem_of_mem_take hptr)) size
    have hnew : (List.range' s.created (size - s.fdContexts.length)).map
        (s.contextResize size).heap =
          (List.range' m.fdContexts.length (size - m.fdContexts.length)).map .new := by
      refine List.ext_getElem (by simp [hlength]) fun i hi _ => ?_
      have hi' : i < size - s.fdContexts.length := by simpa using hi
      have hfresh : s.created ≤ s.created + i ∧
          s.created + i < s.created + (size - s.fdContexts.length) := by omega
      simp [ContextTable.contextResize, hfresh.2, hlength]
    rw [IOManager.grow, IOManager.contextResize, ← hold, ← hnew, ← List.map_append]
    rfl
  count := h.count
  epoll := h.epoll

omit [DecidableEq T] in
/-- The section under the mutex is what `IOManager.addEvent` does after it has reserved. -/
lemma Reflects.register (h : s.Reflects m) (hnodup : s.fdContexts.Nodup) {fd ptr : ℕ}
    (hptr : s.fdContexts[fd]? = some ptr) (call : AddEventCall F C) (fail : Bool)
    {r : IOManager F C × ℤ}
    (hr : m.addEvent call.this .running fd call.event call.cb fail = some r) :
    ∃ t, s.register fd ptr call fail = some t ∧ t.Reflects r.1 := by
  obtain ⟨hfd, hget⟩ := List.getElem?_eq_some_iff.mp hptr
  have hlt : fd < m.fdContexts.length := hfd.trans_eq h.length_eq.symm
  have hreserve : m.reserve fd = m := if_pos hlt
  have hcontext : m.context fd = s.heap ptr := by
    rw [IOManager.context_of_lt hlt]
    simp [h.fdContexts, hget]
  simp only [IOManager.addEvent, hreserve, hcontext] at hr
  simp only [ContextTable.register]
  by_cases hevent : call.event ∈ (s.heap ptr).events
  · rw [if_pos hevent] at hr ⊢
    obtain rfl := Option.some.inj hr
    exact ⟨s, rfl, h⟩
  · rw [if_neg hevent] at hr ⊢
    rw [h.epoll] at hr
    cases hctl : epollCtl s.epoll fail (if (s.heap ptr).events ≠ ∅ then .mod else .add) fd
        (insert call.event (s.heap ptr).events) with
    | none =>
      simp only [hctl, Option.some.injEq] at hr ⊢
      obtain rfl := hr
      exact ⟨s, rfl, h⟩
    | some epoll =>
      simp only [hctl] at hr ⊢
      split_ifs at hr with hassert
      obtain rfl := Option.some.inj hr
      have hassert' : ((s.heap ptr).getEventContext call.event).scheduler = false ∧
          ((s.heap ptr).getEventContext call.event).fiber.isNone ∧
            ((s.heap ptr).getEventContext call.event).cb.isNone :=
        ⟨hassert.1, hassert.2.1, hassert.2.2.1⟩
      refine ⟨_, if_pos hassert', ?_, congrArg (· + 1) h.count, rfl⟩
      have hindex : s.fdContexts.idxOf ptr = fd := by
        rw [← hget]
        exact hnodup.idxOf_getElem fd hfd
      have hmem : ptr ∈ s.fdContexts := List.mem_of_getElem? hptr
      rw [hnodup.map_update, if_pos hmem, hindex, ← h.fdContexts]
      rfl

omit [DecidableEq T] in
lemma nodup_contextResize (hnodup : s.fdContexts.Nodup)
    (hcreated : ∀ ptr ∈ s.fdContexts, ptr < s.created) (size : ℕ) :
    (s.contextResize size).fdContexts.Nodup := by
  simp only [ContextTable.contextResize]
  refine List.nodup_append.mpr ⟨hnodup.sublist (List.take_sublist _ _), List.nodup_range', ?_⟩
  rintro ptr hptr _ hnew rfl
  have hold := hcreated ptr (List.mem_of_mem_take hptr)
  obtain ⟨i, -, hi⟩ := List.mem_range'.mp hnew
  omega

/-- The last step of a call, from a table that is large enough. -/
lemma Reflects.give_register (h : s.Reflects m) (hnodup : s.fdContexts.Nodup) (th : T) {fd : ℕ}
    (hfd : fd < s.fdContexts.length) (call : AddEventCall F C) (fail : Bool)
    {r : IOManager F C × ℤ}
    (hr : m.addEvent call.this .running fd call.event call.cb fail = some r) :
    ∃ s', machine.step (s.give th fd call) (.register th fail) = some s' ∧
      s'.Reflects r.1 ∧ s'.pc = Function.update s.pc th .idle := by
  rw [give_of_lt hfd]
  set ptr := s.fdContexts[fd] with hptr
  set t : ContextTable T F C := s.goOn th (.register fd ptr call) with ht
  have hget : t.fdContexts[fd]? = some ptr := List.getElem?_eq_getElem hfd
  have hpc : t.pc th = .register fd ptr call := Function.update_self ..
  obtain ⟨u, hu, hreflects⟩ := Reflects.register (s := t) ⟨h.fdContexts, h.count, h.epoll⟩ hnodup
    hget call fail hr
  have hupc : u.pc = t.pc := by
    rcases register_cases hu with rfl | ⟨epoll, rfl⟩ <;> rfl
  refine ⟨u.goOn th .idle, ?_, ⟨hreflects.fdContexts, hreflects.count, hreflects.epoll⟩, ?_⟩
  · simp only [machine, hpc, hu, Option.map_some]
  · simp only [goOn, hupc, ht, Function.update_idem]

/-- A call of `addEvent` that no other call comes in between is `IOManager.addEvent`. -/
theorem run_addEvent (hs : s.Sound) (hnodup : s.fdContexts.Nodup) (h : s.Reflects m) {th : T}
    (hidle : s.pc th = .idle) (fd : ℕ) (call : AddEventCall F C) (fail : Bool)
    {r : IOManager F C × ℤ}
    (hr : m.addEvent call.this .running fd call.event call.cb fail = some r) :
    ∃ ops s', machine.run s ops = some s' ∧ s'.Reflects r.1 ∧ s'.pc = s.pc := by
  have hlength := h.length_eq
  have hback : Function.update s.pc th .idle = s.pc := by rw [← hidle, Function.update_eq_self]
  rcases lt_or_ge fd s.fdContexts.length with hfd | hfd
  · have hfirst : machine.step s (.addEvent th fd call) = some (s.give th fd call) := by
      simp [machine, hidle, hfd]
    obtain ⟨s', hlast, hreflects, hpc⟩ := h.give_register hnodup th hfd call fail hr
    have hrun : machine.run s [.addEvent th fd call, .register th fail] = some s' :=
      machine.run_cons_eq_some.mpr ⟨_, hfirst, machine.run_cons_eq_some.mpr ⟨_, hlast, rfl⟩⟩
    exact ⟨_, s', hrun, hreflects, hpc.trans hback⟩
  · -- the table is too small, and is as `IOManager.reserve` leaves it after the second step
    set t := s.goOn th (.resize fd call) with ht
    have hfirst : machine.step s (.addEvent th fd call) = some t := by
      simp [machine, hidle, not_lt.mpr hfd, ht]
    have hsecond : machine.step t (.resize th) =
        some ((t.contextResize (fd * 3 / 2)).give th fd call) := by
      simp [machine, ht, goOn]
    have hsize : fd < fd * 3 / 2 := by
      have := hs.size.trans hfd
      omega
    have hreflects : (t.contextResize (fd * 3 / 2)).Reflects (m.grow (fd * 3 / 2)) :=
      Reflects.contextResize (s := t) ⟨h.fdContexts, h.count, h.epoll⟩ hs.created _
    have hgrow : m.reserve fd = m.grow (fd * 3 / 2) :=
      if_neg (not_lt.mpr (hlength.trans_le hfd))
    have hreserve : (m.grow (fd * 3 / 2)).reserve fd = m.grow (fd * 3 / 2) := by
      refine if_pos ?_
      rwa [hreflects.length_eq, length_contextResize]
    have hr' : (m.grow (fd * 3 / 2)).addEvent call.this .running fd call.event call.cb fail =
        some r := by
      rw [← hr]
      simp only [IOManager.addEvent, hreserve, hgrow]
    obtain ⟨s', hlast, hreflects', hpc⟩ := hreflects.give_register
      (nodup_contextResize hnodup hs.created _) th (by simpa using hsize) call fail hr'
    have hrun : machine.run s [.addEvent th fd call, .resize th, .register th fail] =
        some s' :=
      machine.run_cons_eq_some.mpr ⟨_, hfirst, machine.run_cons_eq_some.mpr ⟨_, hsecond,
        machine.run_cons_eq_some.mpr ⟨_, hlast, rfl⟩⟩⟩
    refine ⟨_, s', hrun, hreflects', hpc.trans ?_⟩
    rw [← hback]
    exact Function.update_idem ..

end ContextTable

end CoroutineGateway
