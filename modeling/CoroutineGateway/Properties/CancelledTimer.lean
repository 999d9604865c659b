import CoroutineGateway.Construction.TimerThreads
import CoroutineGateway.Properties.TimerIdentity

/-!
# Cancelled timers stay cancelled

`cancel` clears the callback of a timer and takes it out of the set, and no operation gives a timer
its callback back.  So a timer that was cancelled can only return to the set through an operation
that does not look at the callback, and that is the `addTimer` at the end of `reset`.

Between its first section and `addTimer` a call of `reset` holds a timer that is in neither state:
it has its callback and is not in the set.  `staysCancelled_throughout` says that the promise holds
in every run in which nobody cancels such a timer or puts it back in the meantime.
`undisturbed_of_exclusive` gives a condition on who may touch which timer.
-/

namespace CoroutineGateway

/-! ## What the operations do to callbacks -/

namespace TimerManager

variable {α : Type*} {m : TimerManager α} {now now' : ℤ} {id it : TimerId}
  {cancelled : List TimerId}

/-- The set is in order, its timers have callbacks, and the cancelled ones have none. -/
structure Armed (m : TimerManager α) (cancelled : List TimerId) : Prop where
  ordered : m.Ordered
  armed : ∀ t ∈ m.timers, (m.heap t).cb.isSome
  disarmed : ∀ t ∈ cancelled, t < m.created ∧ (m.heap t).cb = none

lemma Armed.notMem (hm : m.Armed cancelled) {t : TimerId} (ht : t ∈ cancelled) :
    t ∉ m.timers := by
  intro hmem
  have hsome := hm.armed t hmem
  simp [(hm.disarmed t ht).2] at hsome

lemma Armed.addTimer (hm : m.Armed cancelled) {ms : ℕ} {cb : Option (Callback α)}
    {recurring : Bool} (hcb : cb.isSome) :
    (m.addTimer ms cb recurring now).1.Armed cancelled := by
  have hheap : ∀ t ≠ m.created, (m.addTimer ms cb recurring now).1.heap t = m.heap t := fun t ht =>
    set_heap_ne _ _ _ ht
  refine ⟨hm.ordered.addTimer, fun t ht => ?_, fun t ht => ?_⟩
  · rcases OrderedSet.mem_of_mem_insert ht with rfl | ht
    · exact (congrArg (fun x : Timer α => x.cb.isSome) (set_heap_self m m.created _)).trans hcb
    · rw [hheap t fun h => hm.ordered.notMem_created (h ▸ ht)]
      exact hm.armed t ht
  · obtain ⟨hlt, hnone⟩ := hm.disarmed t ht
    exact ⟨Nat.lt_succ_of_lt hlt, by rwa [hheap t hlt.ne]⟩

/-- Fewer timers in the set. -/
lemma Armed.erase (hm : m.Armed cancelled) (it : TimerId) : (m.erase it).Armed cancelled :=
  ⟨hm.ordered.erase it, fun t ht => hm.armed t (List.mem_of_mem_erase ht), hm.disarmed⟩

/-- New fields for a timer that is not in the set and keeps its callback. -/
lemma Armed.set (hm : m.Armed cancelled) (hid : id ∉ m.timers) {t : Timer α}
    (hcb : t.cb = (m.heap id).cb) : (m.set id t).Armed cancelled := by
  have hheap : ∀ e, ((m.set id t).heap e).cb = (m.heap e).cb := by
    intro e
    by_cases he : e = id
    · subst he
      rw [set_heap_self, hcb]
    · rw [set_heap_ne _ _ _ he]
  refine ⟨⟨?_, hm.ordered.created⟩, fun e he => ?_, fun e he => ?_⟩
  · refine (OrderedSet.ascending_congr fun e he => ?_).mpr hm.ordered.ascending
    have hne : e ≠ id := fun h => hid (h ▸ he)
    rw [next, set_heap_ne _ _ _ hne, next]
  · rw [hheap]
    exact hm.armed e he
  · rw [hheap]
    exact hm.disarmed e he

lemma Armed.resetFields (hm : m.Armed cancelled) (hid : id ∉ m.timers) (ms : ℕ) (fromNow : Bool)
    (now : ℤ) : (m.resetFields id ms fromNow now).Armed cancelled :=
  hm.set hid rfl

/-- A timer with a callback is put into the set. -/
lemma Armed.insert (hm : m.Armed cancelled) (hlt : id < m.created)
    (hcb : (m.heap id).cb.isSome) : (m.insert id).Armed cancelled := by
  refine ⟨⟨hm.ordered.ascending.insert id, fun e he => ?_⟩, fun e he => ?_, hm.disarmed⟩
  · rcases OrderedSet.mem_of_mem_insert he with rfl | he
    · exact hlt
    · exact hm.ordered.created e he
  · rcases OrderedSet.mem_of_mem_insert he with rfl | he
    · exact hcb
    · exact hm.armed e he

lemma Armed.addTimerPtr (hm : m.Armed cancelled) (hlt : id < m.created)
    (hcb : (m.heap id).cb.isSome) : (m.addTimerPtr id).1.Armed cancelled := by
  obtain ⟨⟨hascending, hcreated⟩, harmed, hdisarmed⟩ := hm.insert hlt hcb
  exact ⟨⟨hascending, hcreated⟩, harmed, hdisarmed⟩

lemma Armed.cancel (hm : m.Armed cancelled) (hlt : id < m.created) :
    (m.cancel id).2.Armed (if (m.cancel id).1 then id :: cancelled else cancelled) := by
  by_cases hcb : (m.heap id).cb.isSome
  · have hout : id ∉ (m.cancel id).2.timers := hm.ordered.notMem_cancel (hm.armed id)
    have hnone : ((m.cancel id).2.heap id).cb = none := by
      rw [cancel_of_isSome hcb]
      cases m.find id <;> simp
    have htrue : (m.cancel id).1 = true := by rw [cancel_of_isSome hcb]
    refine ⟨hm.ordered.cancel id, fun t ht => ?_, fun t ht => ?_⟩
    · obtain ⟨hheap, hsub⟩ := cancel_frame (m := m) (ne_of_mem_of_not_mem ht hout)
      rw [hheap]
      exact hm.armed t (hsub ht)
    · rw [htrue, if_pos rfl] at ht
      rw [cancel_created]
      by_cases hne : t = id
      · subst hne
        exact ⟨hlt, hnone⟩
      · rw [(cancel_frame hne).1]
        exact hm.disarmed t ((List.mem_cons.mp ht).resolve_left hne)
  · have hsame : m.cancel id = (false, m) := by
      rw [TimerManager.cancel, if_pos (by simpa using hcb)]
    rw [hsame]
    exact hm

lemma Armed.refresh (hm : m.Armed cancelled) (hlt : id < m.created) (now : ℤ) :
    (m.refresh id now).2.Armed cancelled := by
  by_cases hcb : (m.heap id).cb.isSome
  · rw [refresh_of_isSome hcb]
    cases hfind : m.find id with
    | none => exact hm
    | some it =>
      refine ((hm.erase it).set (hm.ordered.notMem_erase_of_find hfind) ?_).insert hlt ?_
      · rfl
      · rw [set_heap_self]
        exact hcb
  · rw [TimerManager.refresh, if_pos (by simpa using hcb)]
    exact hm

lemma Armed.expire (hm : m.Armed cancelled) {rollover : Bool} {temp : TimerId}
    (hdue : m.due now rollover = some temp) : (m.expire now temp).Armed cancelled := by
  have hmem := TimerLedger.mem_of_due hdue
  refine ⟨hm.ordered.expire hdue, fun t ht => ?_, fun t ht => ?_⟩
  · by_cases hne : t = temp
    · subst hne
      have hrec : (m.heap t).recurring = true := by
        by_contra hrec
        rw [expire_timers, if_neg hrec] at ht
        exact ne_of_mem_tail hm.ordered.ascending hdue ht rfl
      rw [expire_heap, Function.update_self, if_pos hrec]
      exact hm.armed t hmem
    · rw [expire_heap_ne hne]
      refine hm.armed t (List.mem_of_mem_tail ((mem_of_mem_expire ht).resolve_left hne))
  · have hne : t ≠ temp := fun h => hm.notMem ht (h ▸ hmem)
    rw [expire_heap_ne hne, (TimerLedger.expire_frame hdue t).1]
    exact hm.disarmed t ht

lemma Armed.listExpiredCb (hm : m.Armed cancelled) {fuel : ℕ}
    {r : TimerManager α × List (TimerId × Option (Callback α))}
    (hr : m.listExpiredCb now now' fuel = some r) : r.1.Armed cancelled := by
  have hdetect : (m.detectClockRollover now').2.Armed cancelled :=
    ⟨⟨hm.ordered.ascending, hm.ordered.created⟩, hm.armed, hm.disarmed⟩
  exact expireLoop_invariant (I := fun m => m.Armed cancelled)
    (fun _ _ hm hdue => hm.expire hdue) hdetect hr

/-- `listExpiredCb` and a timer that is not in the set. -/
lemma listExpiredCb_frame {e : TimerId} (he : e ∉ m.timers) {fuel : ℕ}
    {r : TimerManager α × List (TimerId × Option (Callback α))}
    (hr : m.listExpiredCb now now' fuel = some r) : r.1.heap e = m.heap e ∧ e ∉ r.1.timers := by
  refine expireLoop_invariant (I := fun m' => m'.heap e = m.heap e ∧ e ∉ m'.timers) ?_
    (m := (m.detectClockRollover now').2) ⟨rfl, he⟩ hr
  rintro m' temp ⟨hheap, hout⟩ hdue
  have hne : e ≠ temp := fun h => hout (h ▸ TimerLedger.mem_of_due hdue)
  exact ⟨(expire_heap_ne hne).trans hheap, (TimerLedger.expire_frame hdue e).2.2 hout⟩

end TimerManager

/-! ## Steps -/

namespace TimerThreads

variable {T α : Type*} [DecidableEq T] {s s' : TimerThreads T α}

/-- What each step does. -/
def StepSpec (s s' : TimerThreads T α) : TimerThreadOp T α → Prop
  | .addTimer th ms cb recurring now => s.pc th = .idle ∧
      s' = { s with manager := (s.manager.addTimer ms cb recurring now).1 }
  | .cancel th id => s.pc th = .idle ∧ id < s.manager.created ∧
      s' = { s with
        manager := (s.manager.cancel id).2
        cancelled := if (s.manager.cancel id).1 then id :: s.cancelled else s.cancelled }
  | .refresh th id now => s.pc th = .idle ∧ id < s.manager.created ∧
      s' = { s with manager := (s.manager.refresh id now).2 }
  | .listExpiredCb th now now' fuel => s.pc th = .idle ∧
      ∃ r, s.manager.listExpiredCb now now' fuel = some r ∧ s' = { s with manager := r.1 }
  | .reset th id ms fromNow => s.pc th = .idle ∧ id < s.manager.created ∧
      s' = s.goOn th (if ms = (s.manager.heap id).ms ∧ !fromNow then .idle
        else .erase id ms fromNow)
  | .erase th => ∃ id ms fromNow, s.pc th = .erase id ms fromNow ∧
      s' = { s with manager := (eraseSection s.manager id).2 }.goOn th
        (if (eraseSection s.manager id).1 then .update id ms fromNow else .idle)
  | .update th now => ∃ id ms fromNow, s.pc th = .update id ms fromNow ∧
      s' = { s with manager := s.manager.resetFields id ms fromNow now }.goOn th (.add id)
  | .add th => ∃ id, s.pc th = .add id ∧
      s' = { s with manager := (s.manager.addTimerPtr id).1 }.goOn th .idle

lemma idleStep_spec {op : TimerThreadOp T α} (hpc : s.pc (threadOf op) = .idle)
    (h : s.idleStep op = some s') : StepSpec s s' op := by
  cases op with
  | addTimer th ms cb recurring now => exact ⟨hpc, (Option.some.inj h).symm⟩
  | cancel th id =>
    obtain ⟨hid, h⟩ := Option.ite_none_right_eq_some.mp h
    exact ⟨hpc, hid, (Option.some.inj h).symm⟩
  | refresh th id now =>
    obtain ⟨hid, h⟩ := Option.ite_none_right_eq_some.mp h
    exact ⟨hpc, hid, (Option.some.inj h).symm⟩
  | listExpiredCb th now now' fuel =>
    obtain ⟨r, hr, rfl⟩ := Option.map_eq_some_iff.mp h
    exact ⟨hpc, r, hr, rfl⟩
  | reset th id ms fromNow =>
    obtain ⟨hid, h⟩ := Option.ite_none_right_eq_some.mp h
    exact ⟨hpc, hid, (Option.some.inj h).symm⟩
  | _ => cases h

lemma step_spec (op : TimerThreadOp T α) (h : machine.step s op = some s') :
    StepSpec s s' op := by
  simp only [machine] at h
  split at h
  · rename_i hpc
    exact idleStep_spec hpc h
  · rename_i id ms fromNow th hpc
    exact ⟨id, ms, fromNow, hpc, (Option.some.inj h).symm⟩
  · rename_i id ms fromNow th now hpc
    exact ⟨id, ms, fromNow, hpc, (Option.some.inj h).symm⟩
  · rename_i id th hpc
    exact ⟨id, hpc, (Option.some.inj h).symm⟩
  · cases h

/-- The promise: a cancelled timer is out of the set, and what is in the set has a callback. -/
def StaysCancelled (s : TimerThreads T α) : Prop :=
  (∀ t ∈ s.cancelled, t ∉ s.manager.timers) ∧
    ∀ t ∈ s.manager.timers, (s.manager.heap t).cb.isSome

/-- Nobody interferes: a new timer has a callback, the unlocked part of `reset` finds its timer
still out of the set, and its `addTimer` finds the timer still with its callback. -/
def Undisturbed (s : TimerThreads T α) : TimerThreadOp T α → Prop
  | .addTimer _ _ cb _ _ => cb.isSome
  | .update th _ => ∀ id ms fromNow, s.pc th = .update id ms fromNow → id ∉ s.manager.timers
  | .add th => ∀ id, s.pc th = .add id → (s.manager.heap id).cb.isSome
  | _ => True

/-- What undisturbed steps keep. -/
structure Sound (s : TimerThreads T α) : Prop where
  armed : s.manager.Armed s.cancelled
  created : ∀ th, ∀ id ∈ (s.pc th).timer, id < s.manager.created

omit [DecidableEq T] in
lemma Sound.staysCancelled (hs : s.Sound) : s.StaysCancelled :=
  ⟨fun _ ht => hs.armed.notMem ht, hs.armed.armed⟩

omit [DecidableEq T] in
lemma init_sound (now : ℤ) : (init now : TimerThreads T α).Sound := by
  refine ⟨⟨TimerManager.init_ordered now, ?_, ?_⟩, ?_⟩
  · simp [init, TimerManager.init]
  · simp [init]
  · simp [init, ResetPc.timer]

omit [DecidableEq T] in
/-- An operation on the manager. -/
lemma Sound.manager (hs : s.Sound) {m : TimerManager α} {cancelled : List TimerId}
    (harmed : m.Armed cancelled) (hcreated : s.manager.created ≤ m.created) :
    ({ s with manager := m, cancelled := cancelled } : TimerThreads T α).Sound :=
  ⟨harmed, fun th id hid => (hs.created th id hid).trans_le hcreated⟩

/-- A thread goes on to something it may do. -/
lemma Sound.goOn (hs : s.Sound) (th : T) {pc : ResetPc}
    (hpc : ∀ id ∈ pc.timer, id < s.manager.created) : (s.goOn th pc).Sound := by
  refine ⟨hs.armed, fun th' id hid => ?_⟩
  by_cases hth : th' = th
  · subst hth
    exact hpc id (by simpa [TimerThreads.goOn] using hid)
  · exact hs.created th' id (by simpa [TimerThreads.goOn, hth] using hid)

lemma armed_eraseSection {m : TimerManager α} {cancelled : List TimerId}
    (hm : m.Armed cancelled) (id : TimerId) : (eraseSection m id).2.Armed cancelled := by
  unfold eraseSection
  split_ifs with hcb
  · exact hm
  · cases m.find id with
    | none => exact hm
    | some it => exact hm.erase it

lemma eraseSection_created (m : TimerManager α) (id : TimerId) :
    (eraseSection m id).2.created = m.created := by
  unfold eraseSection
  split_ifs with hcb
  · rfl
  · cases m.find id <;> rfl

lemma eraseSection_heap (m : TimerManager α) (id : TimerId) :
    (eraseSection m id).2.heap = m.heap := by
  unfold eraseSection
  split_ifs with hcb
  · rfl
  · cases m.find id <;> rfl

lemma eraseSection_timers (m : TimerManager α) (id : TimerId) :
    (eraseSection m id).2.timers ⊆ m.timers := by
  unfold eraseSection
  split_ifs with hcb
  · exact List.Subset.refl _
  · cases m.find id with
    | none => exact List.Subset.refl _
    | some it => exact List.erase_subset

/-- Where `reset` goes on its timer is out of the set, and has its callback. -/
lemma eraseSection_out {m : TimerManager α} (hm : m.Ordered) {id : TimerId}
    (h : (eraseSection m id).1 = true) :
    id ∉ (eraseSection m id).2.timers ∧ (m.heap id).cb.isSome := by
  unfold eraseSection at h ⊢
  split_ifs at h ⊢ with hcb
  cases hfind : m.find id with
  | none => simp [hfind] at h
  | some it => exact ⟨hm.notMem_erase_of_find hfind, by simpa [Option.isSome_iff_ne_none] using hcb⟩

/-- Every undisturbed step keeps the invariant. -/
lemma step_sound (op : TimerThreadOp T α) (hs : s.Sound) (hop : s.Undisturbed op)
    (hstep : machine.step s op = some s') : s'.Sound := by
  have hspec := step_spec op hstep
  cases op with
  | addTimer th ms cb recurring now =>
    obtain ⟨-, rfl⟩ := hspec
    exact hs.manager (hs.armed.addTimer hop) (Nat.le_succ _)
  | cancel th id =>
    obtain ⟨-, hid, rfl⟩ := hspec
    exact hs.manager (hs.armed.cancel hid) (TimerManager.cancel_created _ _).ge
  | refresh th id now =>
    obtain ⟨-, hid, rfl⟩ := hspec
    exact hs.manager (hs.armed.refresh hid now) (TimerManager.refresh_created _ _ _).ge
  | listExpiredCb th now now' fuel =>
    obtain ⟨-, r, hr, rfl⟩ := hspec
    exact hs.manager (hs.armed.listExpiredCb hr) (TimerLedger.expireLoop_frame hr 0).1.ge
  | reset th id ms fromNow =>
    obtain ⟨-, hid, rfl⟩ := hspec
    refine hs.goOn th fun id' hid' => ?_
    split_ifs at hid' with hsame
    · simp [ResetPc.timer] at hid'
    · obtain rfl : id = id' := Option.some.inj hid'
      exact hid
  | erase th =>
    obtain ⟨id, ms, fromNow, hpc, rfl⟩ := hspec
    have hid : id < s.manager.created := hs.created th id (by simp [hpc, ResetPc.timer])
    refine (hs.manager (armed_eraseSection hs.armed id) (eraseSection_created _ _).ge).goOn th
      fun id' hid' => ?_
    split_ifs at hid' with hfound
    · obtain rfl : id = id' := Option.some.inj hid'
      exact hid.trans_le (eraseSection_created _ _).ge
    · simp [ResetPc.timer] at hid'
  | update th now =>
    obtain ⟨id, ms, fromNow, hpc, rfl⟩ := hspec
    have hid : id < s.manager.created := hs.created th id (by simp [hpc, ResetPc.timer])
    refine (hs.manager (hs.armed.resetFields (hop id ms fromNow hpc) ms fromNow now) le_rfl).goOn th
      fun id' hid' => ?_
    obtain rfl : id = id' := Option.some.inj hid'
    exact hid
  | add th =>
    obtain ⟨id, hpc, rfl⟩ := hspec
    have hid : id < s.manager.created := hs.created th id (by simp [hpc, ResetPc.timer])
    exact (hs.manager (hs.armed.addTimerPtr hid (hop id hpc)) le_rfl).goOn th
      fun id' hid' => by simp [ResetPc.timer] at hid'

/-- **A cancelled timer stays cancelled**, in every run in which no timer is cancelled or put back
into the set while a call of `reset` has it out. -/
theorem staysCancelled_throughout (now : ℤ) (ops : List (TimerThreadOp T α))
    (hops : machine.Guarded Undisturbed (init now : TimerThreads T α) ops) :
    machine.Throughout StaysCancelled (init now : TimerThreads T α) ops :=
  Machine.throughout_of_guarded (I := Sound)
    (fun _ op _ hs hop hstep => step_sound op hs hop hstep) (fun _ hs => hs.staysCancelled)
    (init_sound now) hops

/-- `TimerManager.reset` by its sections. -/
lemma reset_eq_sections {m : TimerManager α} {id : TimerId} {ms : ℕ} {fromNow : Bool}
    (hdiff : ¬ (ms = (m.heap id).ms ∧ (!fromNow) = true)) (now : ℤ) :
    (m.reset id ms fromNow now).2 = if (eraseSection m id).1 then
      (((eraseSection m id).2.resetFields id ms fromNow now).addTimerPtr id).1
        else (eraseSection m id).2 := by
  rw [TimerManager.reset, if_neg hdiff, eraseSection]
  by_cases hcb : (m.heap id).cb.isNone = true
  · simp [hcb]
  · rw [if_neg hcb, if_neg hcb]
    cases m.find id with
    | none => rfl
    | some it => rfl

lemma step_reset {th : T} {id : TimerId} {ms : ℕ} {fromNow : Bool} (hpc : s.pc th = .idle)
    (hid : id < s.manager.created) : machine.step s (.reset th id ms fromNow) = some (s.goOn th
      (if ms = (s.manager.heap id).ms ∧ !fromNow then .idle else .erase id ms fromNow)) := by
  simp only [machine, threadOf, hpc, idleStep, if_pos hid]

lemma step_erase {th : T} {id : TimerId} {ms : ℕ} {fromNow : Bool}
    (hpc : s.pc th = .erase id ms fromNow) : machine.step s (.erase th) =
      some ({ s with manager := (eraseSection s.manager id).2 }.goOn th
        (if (eraseSection s.manager id).1 then .update id ms fromNow else .idle)) := by
  simp only [machine, threadOf, hpc]

lemma step_update {th : T} {id : TimerId} {ms : ℕ} {fromNow : Bool}
    (hpc : s.pc th = .update id ms fromNow) (now : ℤ) : machine.step s (.update th now) =
      some ({ s with manager := s.manager.resetFields id ms fromNow now }.goOn th (.add id)) := by
  simp only [machine, threadOf, hpc]

lemma step_add {th : T} {id : TimerId} (hpc : s.pc th = .add id) : machine.step s (.add th) =
    some ({ s with manager := (s.manager.addTimerPtr id).1 }.goOn th .idle) := by
  simp only [machine, threadOf, hpc]

/-- A call of `reset` that nobody comes in between is `TimerManager.reset`. -/
theorem run_reset {th : T} (hidle : s.pc th = .idle) {id : TimerId}
    (hid : id < s.manager.created) (ms : ℕ) (fromNow : Bool) (now : ℤ) :
    ∃ ops, (∀ op ∈ ops, threadOf op = th) ∧
      machine.run s ops = some { s with manager := (s.manager.reset id ms fromNow now).2 } := by
  have hback : Function.update s.pc th .idle = s.pc := by rw [← hidle, Function.update_eq_self]
  by_cases hsame : ms = (s.manager.heap id).ms ∧ (!fromNow) = true
  · have hfirst : machine.step s (.reset th id ms fromNow) = some (s.goOn th .idle) := by
      rw [step_reset hidle hid, if_pos hsame]
    refine ⟨[.reset th id ms fromNow], by simp [threadOf],
      machine.run_cons_eq_some.mpr ⟨_, hfirst, ?_⟩⟩
    rw [TimerManager.reset, if_pos hsame, Machine.run_nil, goOn, hback]
  · have hfirst : machine.step s (.reset th id ms fromNow) =
        some (s.goOn th (.erase id ms fromNow)) := by
      rw [step_reset hidle hid, if_neg hsame]
    have herase := step_erase (s := s.goOn th (.erase id ms fromNow)) (Function.update_self ..)
    rw [reset_eq_sections hsame]
    cases hfound : (eraseSection s.manager id).1 with
    | false =>
      refine ⟨[.reset th id ms fromNow, .erase th], by simp [threadOf],
        machine.run_cons_eq_some.mpr ⟨_, hfirst, machine.run_cons_eq_some.mpr ⟨_, herase, ?_⟩⟩⟩
      simp [goOn, hfound, hback]
    | true =>
      set u : TimerThreads T α := { s with manager := (eraseSection s.manager id).2 }.goOn th
        (.update id ms fromNow) with hu
      have herase' : machine.step (s.goOn th (.erase id ms fromNow)) (.erase th) = some u := by
        rw [herase]
        simp [goOn, hfound, hu]
      have hupdate := step_update (s := u) (Function.update_self ..) now
      have hadd := step_add (s := { u with
        manager := u.manager.resetFields id ms fromNow now }.goOn th (.add id))
        (Function.update_self ..)
      refine ⟨[.reset th id ms fromNow, .erase th, .update th now, .add th], by simp [threadOf],
        machine.run_cons_eq_some.mpr ⟨_, hfirst, machine.run_cons_eq_some.mpr ⟨_, herase',
          machine.run_cons_eq_some.mpr ⟨_, hupdate, machine.run_cons_eq_some.mpr ⟨_, hadd, ?_⟩⟩⟩⟩⟩
      simp [hu, goOn, hback]

/-! ## Timers in nobody else's hands -/

/-- Nobody cancels, refreshes or resets a timer that a call of `reset` has taken out of the set. -/
def Exclusive (s : TimerThreads T α) : TimerThreadOp T α → Prop
  | .addTimer _ _ cb _ _ => cb.isSome
  | .cancel _ id | .refresh _ id _ => ∀ th, id ∉ (s.pc th).holds
  | .erase th => ∀ id ms fromNow, s.pc th = .erase id ms fromNow → ∀ th', id ∉ (s.pc th').holds
  | _ => True

/-- A timer taken out by `reset` is out, has its callback, and is in the hands of one thread. -/
structure Held (s : TimerThreads T α) : Prop where
  sound : s.Sound
  out : ∀ th, ∀ id ∈ (s.pc th).holds, id ∉ s.manager.timers ∧ (s.manager.heap id).cb.isSome
  only : ∀ th th', ∀ id ∈ (s.pc th).holds, id ∈ (s.pc th').holds → th' = th

omit [DecidableEq T] in
/-- An operation on the manager that leaves the timers held by `reset` alone. -/
lemma Held.manager (hs : s.Held) {m : TimerManager α} {cancelled : List TimerId}
    (hsound : ({ s with manager := m, cancelled := cancelled } : TimerThreads T α).Sound)
    (hframe : ∀ th, ∀ id ∈ (s.pc th).holds, (id ∈ m.timers → id ∈ s.manager.timers) ∧
      ((s.manager.heap id).cb.isSome → (m.heap id).cb.isSome)) :
    ({ s with manager := m, cancelled := cancelled } : TimerThreads T α).Held := by
  refine ⟨hsound, fun th id hid => ?_, hs.only⟩
  obtain ⟨hout, hcb⟩ := hs.out th id hid
  exact ⟨fun h => hout ((hframe th id hid).1 h), (hframe th id hid).2 hcb⟩

/-- A thread goes on, with no timer in its hands or one that nobody else has. -/
lemma Held.goOn (hs : s.Held) (th : T) {pc : ResetPc} (hsound : (s.goOn th pc).Sound)
    (hpc : ∀ id ∈ pc.holds, id ∉ s.manager.timers ∧ (s.manager.heap id).cb.isSome ∧
      ∀ th' ≠ th, id ∉ (s.pc th').holds) : (s.goOn th pc).Held := by
  have hself : (s.goOn th pc).pc th = pc := by simp [TimerThreads.goOn]
  have hother : ∀ th' ≠ th, (s.goOn th pc).pc th' = s.pc th' := fun th' h => by
    simp [TimerThreads.goOn, h]
  refine ⟨hsound, fun th' id hid => ?_, fun th' th'' id hid hid' => ?_⟩
  · by_cases hth : th' = th
    · rw [hth, hself] at hid
      exact ⟨(hpc id hid).1, (hpc id hid).2.1⟩
    · rw [hother th' hth] at hid
      exact hs.out th' id hid
  · by_cases hth : th' = th
    · by_cases hth' : th'' = th
      · rw [hth, hth']
      · rw [hth, hself] at hid
        rw [hother th'' hth'] at hid'
        exact absurd hid' ((hpc id hid).2.2 th'' hth')
    · rw [hother th' hth] at hid
      by_cases hth' : th'' = th
      · rw [hth', hself] at hid'
        exact absurd hid ((hpc id hid').2.2 th' hth)
      · rw [hother th'' hth'] at hid'
        exact hs.only th' th'' id hid hid'

omit [DecidableEq T] in
/-- Where nobody touches a timer in the hands of `reset`, nobody disturbs `reset`. -/
lemma Held.undisturbed (hs : s.Held) {op : TimerThreadOp T α} (hop : s.Exclusive op) :
    s.Undisturbed op := by
  cases op with
  | addTimer th ms cb recurring now => exact hop
  | update th now =>
    intro id ms fromNow hpc
    exact (hs.out th id (by simp [hpc, ResetPc.holds])).1
  | add th =>
    intro id hpc
    exact (hs.out th id (by simp [hpc, ResetPc.holds])).2
  | _ => trivial

omit [DecidableEq T] in
lemma Held.lt_created (hs : s.Held) {th : T} {id : TimerId} (hid : id ∈ (s.pc th).holds) :
    id < s.manager.created := by
  refine hs.sound.created th id ?_
  cases hpc : s.pc th with
  | idle => simp [hpc, ResetPc.holds] at hid
  | erase id' ms fromNow => simp [hpc, ResetPc.holds] at hid
  | update id' ms fromNow => simpa [hpc, ResetPc.holds, ResetPc.timer] using hid
  | add id' => simpa [hpc, ResetPc.holds, ResetPc.timer] using hid

/-- The first section of `reset`, on a timer that no other call has in its hands. -/
lemma Held.erase (hs : s.Held) {th : T} {id : TimerId} {ms : ℕ} {fromNow : Bool}
    (hfree : ∀ th', id ∉ (s.pc th').holds)
    (hsound : ({ s with manager := (eraseSection s.manager id).2 }.goOn th
      (if (eraseSection s.manager id).1 then .update id ms fromNow else .idle)).Sound) :
    ({ s with manager := (eraseSection s.manager id).2 }.goOn th
      (if (eraseSection s.manager id).1 then .update id ms fromNow else .idle)).Held := by
  have herase : ({ s with manager := (eraseSection s.manager id).2 } : TimerThreads T α).Held :=
    hs.manager (hs.sound.manager (armed_eraseSection hs.sound.armed id)
      (eraseSection_created _ _).ge) fun th' id' _ =>
        ⟨fun h => eraseSection_timers _ _ h, fun hcb => (eraseSection_heap _ _).symm ▸ hcb⟩
  refine herase.goOn th hsound fun id' hid' => ?_
  split_ifs at hid' with hfound
  · obtain rfl : id = id' := Option.some.inj hid'
    obtain ⟨hout, hcb⟩ := eraseSection_out hs.sound.armed.ordered hfound
    exact ⟨hout, (eraseSection_heap _ _).symm ▸ hcb, fun th' _ => hfree th'⟩
  · simp [ResetPc.holds] at hid'

/-- The update that `reset` makes without the lock. -/
lemma Held.update (hs : s.Held) {th : T} {id : TimerId} {ms : ℕ} {fromNow : Bool}
    (hpc : s.pc th = .update id ms fromNow) (now : ℤ) :
    ({ s with manager := s.manager.resetFields id ms fromNow now }.goOn th (.add id)).Held := by
  have hmine : id ∈ (s.pc th).holds := by simp [hpc, ResetPc.holds]
  obtain ⟨hout, hcb⟩ := hs.out th id hmine
  have hheap : ∀ e, ((s.manager.resetFields id ms fromNow now).heap e).cb =
      (s.manager.heap e).cb := by
    intro e
    by_cases he : e = id
    · subst he
      simp [TimerManager.resetFields]
    · simp [TimerManager.resetFields, he]
  have hupdate : ({ s with manager := s.manager.resetFields id ms fromNow now } :
      TimerThreads T α).Held :=
    hs.manager (hs.sound.manager (hs.sound.armed.resetFields hout ms fromNow now) le_rfl)
      fun th' id' _ => ⟨fun h => h, fun hcb => (congrArg Option.isSome (hheap id')).trans hcb⟩
  have hsound : ({ s with manager := s.manager.resetFields id ms fromNow now }.goOn th
      (.add id)).Sound := hupdate.sound.goOn th fun id' hid' => by
    obtain rfl : id = id' := Option.some.inj hid'
    exact hs.lt_created hmine
  refine hupdate.goOn th hsound fun id' hid' => ?_
  obtain rfl : id = id' := Option.some.inj hid'
  exact ⟨hout, (congrArg Option.isSome (hheap id)).trans hcb,
    fun th' hth hid' => hth (hs.only th th' id hmine hid')⟩

/-- `addTimer`, which `reset` ends with. -/
lemma Held.add (hs : s.Held) {th : T} {id : TimerId} (hpc : s.pc th = .add id)
    (hsound : ({ s with manager := (s.manager.addTimerPtr id).1 }.goOn th .idle).Sound) :
    ({ s with manager := (s.manager.addTimerPtr id).1 }.goOn th .idle).Held := by
  have hmine : id ∈ (s.pc th).holds := by simp [hpc, ResetPc.holds]
  have hidle : (s.goOn th .idle).Held :=
    hs.goOn th (hs.sound.goOn th fun id' hid' => by simp [ResetPc.timer] at hid')
      fun id' hid' => by simp [ResetPc.holds] at hid'
  refine hidle.manager hsound fun th' id' hid' => ⟨fun hmem => ?_, fun hcb => hcb⟩
  refine (OrderedSet.mem_of_mem_insert hmem).resolve_left fun heq => ?_
  subst heq
  by_cases hth : th' = th
  · subst hth
    simp [TimerThreads.goOn, ResetPc.holds] at hid'
  · exact hth (hs.only th th' id' hmine (by simpa [TimerThreads.goOn, hth] using hid'))

lemma step_held (op : TimerThreadOp T α) (hs : s.Held) (hop : s.Exclusive op)
    (hstep : machine.step s op = some s') : s'.Held := by
  have hsound := step_sound op hs.sound (hs.undisturbed hop) hstep
  have hspec := step_spec op hstep
  cases op with
  | addTimer th ms cb recurring now =>
    obtain ⟨-, rfl⟩ := hspec
    refine hs.manager hsound fun th' id hid => ⟨fun hmem => ?_, fun hcb => ?_⟩
    · exact (OrderedSet.mem_of_mem_insert hmem).resolve_left (hs.lt_created hid).ne
    · exact (congrArg (fun t : Timer α => t.cb.isSome)
        (TimerManager.set_heap_ne _ _ _ (hs.lt_created hid).ne)).trans hcb
  | cancel th id =>
    obtain ⟨-, hid, rfl⟩ := hspec
    refine hs.manager hsound fun th' id' hid' => ?_
    have hframe := TimerManager.cancel_frame (m := s.manager) fun h : id' = id =>
      hop th' (h ▸ hid')
    exact ⟨hframe.2, fun hcb => hframe.1 ▸ hcb⟩
  | refresh th id now =>
    obtain ⟨-, hid, rfl⟩ := hspec
    refine hs.manager hsound fun th' id' hid' => ?_
    have hframe := TimerManager.refresh_frame s.manager now fun h : id' = id =>
      hop th' (h ▸ hid')
    exact ⟨hframe.2, fun hcb => hframe.1 ▸ hcb⟩
  | listExpiredCb th now now' fuel =>
    obtain ⟨-, r, hr, rfl⟩ := hspec
    refine hs.manager hsound fun th' id hid => ?_
    have hframe := TimerManager.listExpiredCb_frame (hs.out th' id hid).1 hr
    exact ⟨fun h => absurd h hframe.2, fun hcb => hframe.1 ▸ hcb⟩
  | reset th id ms fromNow =>
    obtain ⟨-, hid, rfl⟩ := hspec
    refine hs.goOn th hsound fun id' hid' => ?_
    split_ifs at hid' with hsame
    · simp [ResetPc.holds] at hid'
    · simp [ResetPc.holds] at hid'
  | erase th =>
    obtain ⟨id, ms, fromNow, hpc, rfl⟩ := hspec
    exact hs.erase (hop id ms fromNow hpc) hsound
  | update th now =>
    obtain ⟨id, ms, fromNow, hpc, rfl⟩ := hspec
    exact hs.update hpc now
  | add th =>
    obtain ⟨id, hpc, rfl⟩ := hspec
    exact hs.add hpc hsound

/-- It is enough that nobody touches a timer in the hands of `reset`. -/
theorem undisturbed_of_exclusive (now : ℤ) (ops : List (TimerThreadOp T α))
    (hops : machine.Guarded Exclusive (init now : TimerThreads T α) ops) :
    machine.Guarded Undisturbed (init now : TimerThreads T α) ops := by
  have hinit : (init now : TimerThreads T α).Held := by
    refine ⟨init_sound now, ?_, ?_⟩
    · simp [init, ResetPc.holds]
    · simp [init, ResetPc.holds]
  exact Machine.Guarded.imp (fun _ op _ hs hop hstep => step_held op hs hop hstep)
    (fun _ _ hs hop => hs.undisturbed hop) hinit hops

/-! ## Runs on fixed timers -/

/-- A timer is reset, and cancelled afterwards. -/
theorem staysCancelled_throughout_reset :
    machine.Throughout StaysCancelled (init 0 : TimerThreads Bool Unit)
      [.addTimer true 1000 (some (.user ())) true 0, .reset true 0 2000 true, .erase true,
        .update true 5, .add true, .cancel false 0] := by
  refine staysCancelled_throughout 0 _ ?_
  refine .cons rfl rfl (.cons trivial rfl (.cons trivial rfl (.cons ?_ rfl (.cons ?_ rfl
    (.cons trivial rfl trivial)))))
  · rintro id ms fromNow -
    exact List.not_mem_nil
  · intro id hpc
    obtain rfl : 0 = id := by simpa [goOn] using hpc
    rfl

/-- Cancelled between the first section of `reset` and its `addTimer`, a timer is back in the set,
without a callback. -/
theorem reset_revives_cancelled :
    ¬ ∀ (now : ℤ) (ops : List (TimerThreadOp Bool Unit)),
      machine.Throughout StaysCancelled (init now : TimerThreads Bool Unit) ops := by
  intro hall
  have hlast := (hall 0 [.addTimer true 1000 (some (.user ())) true 0, .reset true 0 2000 true,
    .erase true, .cancel false 0, .update true 5, .add true]).last rfl
  exact hlast.1 0 (by decide) (by decide)

end TimerThreads

end CoroutineGateway
