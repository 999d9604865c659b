import CoroutineGateway.Properties.TimerExpiry

/-!
# Operations on one timer and the other timers

`cancel`, `refresh` and `reset` look their timer up in the set before they take it out.  The set
compares deadlines, so that the look-up finds *a* timer with the deadline of this one.  As long as
the timer is in the set itself, that is the timer.  A timer that lost its place to another one with
the same deadline finds the other one, and takes it out.

`leavesOthers_iff` says that this is the only way in which one timer gets hurt by an operation on
another.  Whatever the calls, the set stays in order and holds timers that exist (`Ordered`).
-/

namespace CoroutineGateway

namespace TimerManager

variable {α : Type*} {m : TimerManager α} {now now' : ℤ} {ms : ℕ} {cb : Option (Callback α)}
  {recurring : Bool} {id it : TimerId} {t : Timer α}

/-! ## The order of the set -/

/-- The set is in order, and holds timers that exist. -/
structure Ordered (m : TimerManager α) : Prop where
  ascending : OrderedSet.Ascending m.next m.timers
  created : ∀ id ∈ m.timers, id < m.created

lemma init_ordered (now : ℤ) : (init now : TimerManager α).Ordered :=
  ⟨List.Pairwise.nil, fun _ hid => absurd hid List.not_mem_nil⟩

lemma Ordered.notMem_created (hm : m.Ordered) : m.created ∉ m.timers :=
  fun h => lt_irrefl _ (hm.created _ h)

/-- A timer that is not in the set is given new fields and put into it. -/
lemma Ordered.place (hm : m.Ordered) (hid : id ∉ m.timers) (hlt : id < m.created) :
    ((m.set id t).insert id).Ordered := by
  refine ⟨TimerLedger.ascending_place hm.ascending hid, fun e he => ?_⟩
  rcases OrderedSet.mem_of_mem_insert he with rfl | he
  · exact hlt
  · exact hm.created e he

lemma Ordered.erase (hm : m.Ordered) (it : TimerId) : (m.erase it).Ordered :=
  ⟨hm.ascending.sublist List.erase_sublist,
    fun e he => hm.created e (List.mem_of_mem_erase he)⟩

/-- New fields that leave the deadline alone. -/
lemma Ordered.set (hm : m.Ordered) (hnext : t.next = m.next id) : (m.set id t).Ordered := by
  refine ⟨(OrderedSet.ascending_congr fun e _ => ?_).mpr hm.ascending, hm.created⟩
  by_cases he : e = id
  · subst he
    simp [TimerManager.next, hnext]
  · simp [TimerManager.next, he]

/-- `find` finds the timer of the set that has the deadline of this one. -/
lemma Ordered.find_eq_some_iff (hm : m.Ordered) :
    m.find id = some it ↔ it ∈ m.timers ∧ m.next it = m.next id :=
  OrderedSet.find_eq_some_iff hm.ascending

/-- If `find` finds another timer, this one is not in the set. -/
lemma Ordered.notMem_erase_of_find (hm : m.Ordered) (hfind : m.find id = some it) :
    id ∉ (m.erase it).timers := by
  obtain ⟨hit, hnext⟩ := hm.find_eq_some_iff.mp hfind
  intro hid
  have hid' : id ∈ m.timers := List.mem_of_mem_erase hid
  obtain rfl : it = id := hm.ascending.eq_of_key_eq hit hid' hnext
  exact (hm.ascending.nodup.mem_erase_iff.mp hid).1 rfl

lemma getNextTimer_fst (m : TimerManager α) (now : ℤ) :
    (m.getNextTimer now).1 = { m with tickled := false } := by
  unfold getNextTimer
  cases m.timers <;> rfl

lemma Ordered.getNextTimer (hm : m.Ordered) (now : ℤ) : (m.getNextTimer now).1.Ordered := by
  rw [getNextTimer_fst]
  exact ⟨hm.ascending, hm.created⟩

lemma Ordered.addTimer (hm : m.Ordered) : (m.addTimer ms cb recurring now).1.Ordered := by
  refine ⟨TimerLedger.ascending_place hm.ascending hm.notMem_created, fun id hid => ?_⟩
  rcases OrderedSet.mem_of_mem_insert hid with rfl | hid
  · exact Nat.lt_succ_self _
  · exact Nat.lt_succ_of_lt (hm.created id hid)

lemma Ordered.cancel (hm : m.Ordered) (id : TimerId) : (m.cancel id).2.Ordered := by
  have hset : (m.set id { m.heap id with cb := none }).Ordered := hm.set rfl
  unfold TimerManager.cancel
  split_ifs with hcb
  · exact hm
  · simp only
    split
    · exact hset.erase _
    · exact hset

lemma Ordered.refresh (hm : m.Ordered) (hlt : id < m.created) (now : ℤ) :
    (m.refresh id now).2.Ordered := by
  unfold TimerManager.refresh
  split_ifs with hcb
  · exact hm
  · split
    · exact hm
    · rename_i it hfind
      exact (hm.erase it).place (hm.notMem_erase_of_find hfind) hlt

lemma Ordered.reset (hm : m.Ordered) (hlt : id < m.created) (ms : ℕ) (fromNow : Bool) (now : ℤ) :
    (m.reset id ms fromNow now).2.Ordered := by
  unfold TimerManager.reset
  split_ifs with hsame hcb
  · exact hm
  · exact hm
  · split
    · exact hm
    · rename_i it hfind
      have hplace := (hm.erase it).place (t := { m.heap id with
        ms := ms
        next := addMs (if fromNow then now else subMs (m.heap id).next (m.heap id).ms) ms })
        (hm.notMem_erase_of_find hfind) hlt
      exact ⟨hplace.ascending, hplace.created⟩

/-! ## The loop of `listExpiredCb` -/

/-- What one turn of the loop keeps of the manager and the callbacks, the loop keeps. -/
lemma expireLoop_induction {rollover : Bool}
    {I : TimerManager α → List (TimerId × Option (Callback α)) → Prop}
    (hturn : ∀ m cbs temp, I m cbs → m.due now rollover = some temp →
      I (m.expire now temp) (cbs ++ [(temp, (m.heap temp).cb)])) {fuel : ℕ}
    {cbs : List (TimerId × Option (Callback α))}
    {r : TimerManager α × List (TimerId × Option (Callback α))} (hm : I m cbs)
    (hr : expireLoop now rollover fuel m cbs = some r) : I r.1 r.2 := by
  induction fuel generalizing m cbs with
  | zero =>
    rw [expireLoop] at hr
    split_ifs at hr
    obtain rfl := Option.some.inj hr
    exact hm
  | succ fuel ih =>
    rw [expireLoop] at hr
    split at hr
    · obtain rfl := Option.some.inj hr
      exact hm
    · rename_i temp hdue
      exact ih (hturn m cbs temp hm hdue) hr

lemma expireLoop_invariant {rollover : Bool} {I : TimerManager α → Prop}
    (hturn : ∀ m temp, I m → m.due now rollover = some temp → I (m.expire now temp)) {fuel : ℕ}
    {cbs : List (TimerId × Option (Callback α))}
    {r : TimerManager α × List (TimerId × Option (Callback α))} (hm : I m)
    (hr : expireLoop now rollover fuel m cbs = some r) : I r.1 :=
  expireLoop_induction (I := fun m _ => I m) (fun m _ temp hm hdue => hturn m temp hm hdue) hm hr

/-- One turn of the loop. -/
lemma Ordered.expire (hm : m.Ordered) {rollover : Bool} {temp : TimerId}
    (hdue : m.due now rollover = some temp) : (m.expire now temp).Ordered := by
  refine ⟨ascending_expire hm.ascending hdue, fun id hid => ?_⟩
  have hframe := TimerLedger.expire_frame hdue id
  rw [hframe.1]
  exact hm.created id (by_contra fun hout => hframe.2.2 hout hid)

lemma Ordered.listExpiredCb (hm : m.Ordered) {fuel : ℕ}
    {r : TimerManager α × List (TimerId × Option (Callback α))}
    (hr : m.listExpiredCb now now' fuel = some r) : r.1.Ordered := by
  have hdetect : (m.detectClockRollover now').2.Ordered := ⟨hm.ascending, hm.created⟩
  exact expireLoop_invariant (fun _ _ hm hdue => hm.expire hdue) hdetect hr

/-! ## One operation on one timer -/

/-- A look-up of the timer finds the timer or nothing. -/
def FindsOwn (m : TimerManager α) (id : TimerId) : Prop :=
  id ∈ m.timers ∨ ∀ e ∈ m.timers, m.next e ≠ m.next id

/-- No timer but `id` is taken out of the set or changed. -/
def OthersKept (m m' : TimerManager α) (id : TimerId) : Prop :=
  ∀ a ≠ id, (a ∈ m.timers → a ∈ m'.timers) ∧ m'.heap a = m.heap a

lemma OthersKept.refl (m : TimerManager α) (id : TimerId) : m.OthersKept m id :=
  fun _ _ => ⟨fun h => h, rfl⟩

/-- Taking out what `find` found, and putting the timer back or not: the others are kept if `find`
found the timer itself. -/
lemma Ordered.othersKept_iff (hm : m.Ordered) (hfind : m.find id = some it) {m' : TimerManager α}
    (hheap : ∀ a ≠ id, m'.heap a = m.heap a)
    (htimers : ∀ a ≠ id, a ∈ m'.timers ↔ a ∈ m.timers.erase it) :
    m.OthersKept m' id ↔ m.FindsOwn id := by
  obtain ⟨hit, hnext⟩ := hm.find_eq_some_iff.mp hfind
  constructor
  · intro hkept
    by_contra hnot
    simp only [FindsOwn, not_or] at hnot
    have hne : it ≠ id := fun h => hnot.1 (h ▸ hit)
    have hmem := (htimers it hne).mp ((hkept it hne).1 hit)
    exact (hm.ascending.nodup.mem_erase_iff.mp hmem).1 rfl
  · rintro (hid | hnone)
    · obtain rfl : it = id := hm.ascending.eq_of_key_eq hit hid hnext
      intro a ha
      refine ⟨fun hmem => (htimers a ha).mpr ?_, hheap a ha⟩
      exact (List.mem_erase_of_ne ha).mpr hmem
    · exact absurd hnext (hnone it hit)

/-- Nothing is found, and the others are kept. -/
lemma Ordered.findsOwn_of_find_eq_none (hm : m.Ordered) (hfind : m.find id = none) :
    m.FindsOwn id := by
  refine .inr fun e he hnext => ?_
  have hsome : m.find id = some e := hm.find_eq_some_iff.mpr ⟨he, hnext⟩
  simp [hfind] at hsome

/-- The look-up of `cancel`, made after the callback was cleared, finds the same. -/
lemma find_set (hnext : t.next = m.next id) : (m.set id t).find id = m.find id := by
  have hkeys : (m.set id t).next = m.next := by
    funext e
    by_cases he : e = id
    · subst he
      simp [TimerManager.next, hnext]
    · simp [TimerManager.next, he]
  rw [find, find, hkeys, set_timers]

lemma cancel_of_isSome (hcb : (m.heap id).cb.isSome) :
    m.cancel id = (true, match m.find id with
      | some it => (m.set id { m.heap id with cb := none }).erase it
      | none => m.set id { m.heap id with cb := none }) := by
  have hsome : ¬ (m.heap id).cb.isNone = true := by simpa [Option.ne_none_iff_isSome] using hcb
  have hfind : (m.set id { m.heap id with cb := none }).find id = m.find id := find_set rfl
  rw [TimerManager.cancel, if_neg hsome]
  change (match (m.set id { m.heap id with cb := none }).find id with
    | some it => (true, (m.set id { m.heap id with cb := none }).erase it)
    | none => (true, m.set id { m.heap id with cb := none })) = _
  rw [hfind]
  cases m.find id with
  | none => rfl
  | some it => rfl

lemma refresh_of_isSome (hcb : (m.heap id).cb.isSome) (now : ℤ) :
    m.refresh id now = match m.find id with
      | none => (false, m)
      | some it => (true, ((m.erase it).set id
          { m.heap id with next := addMs now (m.heap id).ms }).insert id) := by
  have hsome : (m.heap id).cb.isNone = false := by simpa using hcb
  simp only [TimerManager.refresh, hsome, Bool.false_eq_true, if_false]
  rfl

lemma reset_of_isSome (hcb : (m.heap id).cb.isSome) {ms : ℕ} {fromNow : Bool}
    (hdiff : ¬ (ms = (m.heap id).ms ∧ fromNow = false)) (now : ℤ) :
    m.reset id ms fromNow now = match m.find id with
      | none => (false, m)
      | some it => (true, (((m.erase it).resetFields id ms fromNow now).addTimerPtr id).1) := by
  have hsome : (m.heap id).cb.isNone = false := by simpa using hcb
  have hdiff' : ¬ (ms = (m.heap id).ms ∧ (!fromNow) = true) := by simpa using hdiff
  rw [TimerManager.reset, if_neg hdiff']
  cases m.find id with
  | none => simp only [hsome, Bool.false_eq_true, if_false]
  | some it => simp only [hsome, Bool.false_eq_true, if_false]

/-! ## What the calls leave alone -/

lemma cancel_created (m : TimerManager α) (id : TimerId) : (m.cancel id).2.created = m.created := by
  unfold TimerManager.cancel
  split_ifs with hcb
  · rfl
  · simp only
    split <;> rfl

lemma refresh_created (m : TimerManager α) (id : TimerId) (now : ℤ) :
    (m.refresh id now).2.created = m.created := by
  unfold TimerManager.refresh
  split_ifs with hcb
  · rfl
  · split <;> rfl

lemma cancel_frame {e : TimerId} (hne : e ≠ id) : (m.cancel id).2.heap e = m.heap e ∧
    (e ∈ (m.cancel id).2.timers → e ∈ m.timers) := by
  unfold TimerManager.cancel
  split_ifs with hcb
  · exact ⟨rfl, fun h => h⟩
  · simp only
    split
    · exact ⟨set_heap_ne _ _ _ hne, List.mem_of_mem_erase⟩
    · exact ⟨set_heap_ne _ _ _ hne, fun h => h⟩

lemma refresh_frame (m : TimerManager α) (now : ℤ) {e : TimerId} (hne : e ≠ id) :
    (m.refresh id now).2.heap e = m.heap e ∧
      (e ∈ (m.refresh id now).2.timers → e ∈ m.timers) := by
  unfold TimerManager.refresh
  split_ifs with hcb
  · exact ⟨rfl, fun h => h⟩
  · split
    · exact ⟨rfl, fun h => h⟩
    · refine ⟨set_heap_ne _ _ _ hne, fun h => ?_⟩
      exact List.mem_of_mem_erase ((OrderedSet.mem_of_mem_insert h).resolve_left hne)

/-- `cancel` takes the timer out of the set, if it was in the set with its callback. -/
lemma Ordered.notMem_cancel (hm : m.Ordered) (harmed : id ∈ m.timers → (m.heap id).cb.isSome) :
    id ∉ (m.cancel id).2.timers := by
  by_cases hcb : (m.heap id).cb.isSome
  · rw [cancel_of_isSome hcb]
    cases hfind : m.find id with
    | none =>
      intro hmem
      have hsome : m.find id = some id := hm.find_eq_some_iff.mpr ⟨hmem, rfl⟩
      simp [hfind] at hsome
    | some it => exact hm.notMem_erase_of_find hfind
  · rw [TimerManager.cancel, if_pos (by simpa using hcb)]
    exact fun hmem => hcb (harmed hmem)

lemma Ordered.cancel_othersKept_iff (hm : m.Ordered) (hcb : (m.heap id).cb.isSome) :
    m.OthersKept (m.cancel id).2 id ↔ m.FindsOwn id := by
  rw [cancel_of_isSome hcb]
  cases hfind : m.find id with
  | none =>
    exact iff_of_true (fun a ha => ⟨fun h => h, set_heap_ne _ _ _ ha⟩)
      (hm.findsOwn_of_find_eq_none hfind)
  | some it => exact hm.othersKept_iff hfind (fun a ha => set_heap_ne _ _ _ ha) fun a _ => Iff.rfl

/-- Putting the timer back, where it has the fields `t`. -/
lemma Ordered.place_othersKept_iff (hm : m.Ordered) (hfind : m.find id = some it) :
    m.OthersKept (((m.erase it).set id t).insert id) id ↔ m.FindsOwn id := by
  refine hm.othersKept_iff hfind (fun a ha => set_heap_ne _ _ _ ha) fun a ha => ?_
  exact ⟨fun h => (OrderedSet.mem_of_mem_insert h).resolve_left ha,
    fun h => OrderedSet.subset_insert id _ h⟩

lemma Ordered.refresh_othersKept_iff (hm : m.Ordered) (hcb : (m.heap id).cb.isSome) (now : ℤ) :
    m.OthersKept (m.refresh id now).2 id ↔ m.FindsOwn id := by
  rw [refresh_of_isSome hcb]
  cases hfind : m.find id with
  | none => exact iff_of_true (OthersKept.refl m id) (hm.findsOwn_of_find_eq_none hfind)
  | some it => exact hm.place_othersKept_iff hfind

lemma Ordered.reset_othersKept_iff (hm : m.Ordered) (hcb : (m.heap id).cb.isSome) {ms : ℕ}
    {fromNow : Bool} (hdiff : ¬ (ms = (m.heap id).ms ∧ fromNow = false)) (now : ℤ) :
    m.OthersKept (m.reset id ms fromNow now).2 id ↔ m.FindsOwn id := by
  rw [reset_of_isSome hcb hdiff]
  cases hfind : m.find id with
  | none => exact iff_of_true (OthersKept.refl m id) (hm.findsOwn_of_find_eq_none hfind)
  | some it => exact hm.place_othersKept_iff hfind

end TimerManager

/-! ## Runs -/

namespace TimerLedger

variable {α : Type*} {h h' : TimerLedger α}

lemma step_ordered (op : TimerOp α) (hs : h.manager.Ordered) (hstep : h.step op = some h') :
    h'.manager.Ordered := by
  cases op with
  | addTimer ms cb recurring now =>
    obtain rfl := Option.some.inj hstep
    exact hs.addTimer
  | addConditionTimer ms cb cond recurring now =>
    obtain rfl := Option.some.inj hstep
    exact hs.addTimer
  | cancel id =>
    rw [step] at hstep
    split_ifs at hstep with hid
    obtain rfl := Option.some.inj hstep
    exact hs.cancel id
  | refresh id now =>
    rw [step] at hstep
    split_ifs at hstep with hid
    obtain rfl := Option.some.inj hstep
    exact hs.refresh hid now
  | reset id ms fromNow now =>
    rw [step] at hstep
    split_ifs at hstep with hid
    obtain rfl := Option.some.inj hstep
    exact hs.reset hid ms fromNow now
  | getNextTimer now =>
    obtain rfl := Option.some.inj hstep
    exact hs.getNextTimer now
  | listExpiredCb now now' fuel =>
    obtain ⟨r, hr, rfl⟩ := Option.map_eq_some_iff.mp hstep
    exact hs.listExpiredCb hr

/-- The operation, if it is one on a timer, leaves the other timers alone. -/
def LeavesOthers (h : TimerLedger α) (op : TimerOp α) : Prop :=
  ∀ h', h.step op = some h' → match op with
    | .cancel id | .refresh id _ | .reset id _ _ _ => h.manager.OthersKept h'.manager id
    | _ => True

/-- The operation looks up no timer, or its own if any. -/
def LooksUpOwn (h : TimerLedger α) : TimerOp α → Prop
  | .cancel id | .refresh id _ =>
    id < h.manager.created → (h.manager.heap id).cb.isSome → h.manager.FindsOwn id
  | .reset id ms fromNow _ =>
    id < h.manager.created → (h.manager.heap id).cb.isSome →
      ¬ (ms = (h.manager.heap id).ms ∧ fromNow = false) → h.manager.FindsOwn id
  | _ => True

/-- A call on a timer that exists has one outcome. -/
lemma forall_outcome_iff {c : Prop} [Decidable c] {x : TimerLedger α} {P : TimerLedger α → Prop} :
    (∀ h', (if c then some x else none) = some h' → P h') ↔ (c → P x) := by
  by_cases hc : c
  · simp [hc]
  · simp [hc]

/-- One operation. -/
lemma leavesOthers_step_iff (hs : h.manager.Ordered) (op : TimerOp α) :
    h.LeavesOthers op ↔ h.LooksUpOwn op := by
  cases op with
  | cancel id =>
    refine forall_outcome_iff.trans (imp_congr_right fun _ => ?_)
    change h.manager.OthersKept (h.manager.cancel id).2 id ↔ _
    by_cases hcb : (h.manager.heap id).cb.isSome
    · rw [hs.cancel_othersKept_iff hcb]
      exact ⟨fun hown _ => hown, fun hown => hown hcb⟩
    · rw [cancel_of_isNone (by simpa using hcb)]
      exact iff_of_true (TimerManager.OthersKept.refl _ _) fun hsome => absurd hsome hcb
  | refresh id now =>
    refine forall_outcome_iff.trans (imp_congr_right fun _ => ?_)
    change h.manager.OthersKept (h.manager.refresh id now).2 id ↔ _
    by_cases hcb : (h.manager.heap id).cb.isSome
    · rw [hs.refresh_othersKept_iff hcb]
      exact ⟨fun hown _ => hown, fun hown => hown hcb⟩
    · rw [refresh_of_isNone (by simpa using hcb)]
      exact iff_of_true (TimerManager.OthersKept.refl _ _) fun hsome => absurd hsome hcb
  | reset id ms fromNow now =>
    refine forall_outcome_iff.trans (imp_congr_right fun _ => ?_)
    change h.manager.OthersKept (h.manager.reset id ms fromNow now).2 id ↔ _
    by_cases hsame : ms = (h.manager.heap id).ms ∧ fromNow = false
    · rw [reset_of_same hsame]
      exact iff_of_true (TimerManager.OthersKept.refl _ _) fun _ hdiff => absurd hsame hdiff
    · by_cases hcb : (h.manager.heap id).cb.isSome
      · rw [hs.reset_othersKept_iff hcb hsame]
        exact ⟨fun hown _ _ => hown, fun hown => hown hcb hsame⟩
      · rw [reset_of_isNone (by simpa using hcb)]
        exact iff_of_true (TimerManager.OthersKept.refl _ _) fun hsome => absurd hsome hcb
  | _ => simp [LeavesOthers, LooksUpOwn]

/-- **When operations on one timer leave the others alone.**  In a run of the timer manager every
`cancel`, `refresh` and `reset` leaves all timers but its own in the set and unchanged, if and only
if none of them is on a timer that lost its place to another one with its deadline. -/
theorem leavesOthers_iff (now : ℤ) (ops : List (TimerOp α)) :
    machine.Guarded LeavesOthers (init now : TimerLedger α) ops ↔
      machine.Guarded LooksUpOwn (init now : TimerLedger α) ops :=
  Machine.guarded_congr (I := fun h => h.manager.Ordered)
    (fun _ op _ hs hstep => step_ordered op hs hstep)
    (fun _ op hs => leavesOthers_step_iff hs op) (TimerManager.init_ordered now)

/-- Cancelling the second of two timers added at one instant takes the first one out. -/
theorem cancel_takes_other_out :
    ¬ ∀ (now : ℤ) (ops : List (TimerOp Unit)),
      machine.Guarded LeavesOthers (init now) ops := by
  intro hall
  have hguard := hall 0 [.addTimer 1000 (some (.user ())) false 0,
    .addTimer 1000 (some (.user ())) false 0, .cancel 1]
  have hkept := ((hguard.2 _ rfl).2 _ rfl).1 _ rfl 0 (by decide)
  exact absurd (hkept.1 (by decide)) (by decide)

end TimerLedger

end CoroutineGateway
