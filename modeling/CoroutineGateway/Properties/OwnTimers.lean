import CoroutineGateway.Properties.CancelledTimer

/-!
# Timers that only their owner has a pointer to

`cancel`, `refresh` and `reset` need a pointer to the timer.  So a timer that is not recurring, and
that nobody else has a pointer to, is never put into the set again: calls on other timers and
`listExpiredCb` can at most take it out (`Spares`), and after the owner's `cancel` it is out.
-/

namespace CoroutineGateway

namespace TimerManager

variable {α : Type*} {m m' : TimerManager α} {own : List TimerId} {id e : TimerId} {now now' : ℤ}
  {new : Option (Callback α)}

/-- The timers of a list are not recurring, and have their callbacks while they are in the set. -/
structure Owns (m : TimerManager α) (own : List TimerId) : Prop where
  ordered : m.Ordered
  created : ∀ id ∈ own, id < m.created
  once : ∀ id ∈ own, (m.heap id).recurring = false
  armed : ∀ id ∈ own, id ∈ m.timers → (m.heap id).cb.isSome

/-- No timer of the list is put into the set, and no callback appears but that of a new timer. -/
structure Spares (own : List TimerId) (m : TimerManager α) (new : Option (Callback α))
    (m' : TimerManager α) : Prop where
  owns : m'.Owns own
  mem : ∀ id ∈ own, id ∈ m'.timers → id ∈ m.timers
  callback : ∀ id < m'.created, (m'.heap id).cb.isSome →
    (id < m.created ∧ (m'.heap id).cb = (m.heap id).cb) ∨
      (id = m.created ∧ (m'.heap id).cb = new)

lemma init_owns (now : ℤ) : (init now : TimerManager α).Owns [] where
  ordered := init_ordered now
  created _ hid := absurd hid List.not_mem_nil
  once _ hid := absurd hid List.not_mem_nil
  armed _ hid := absurd hid List.not_mem_nil

/-- The timers of the list, and what becomes of them. -/
lemma Owns.spares (hm : m.Owns own) (hordered : m'.Ordered) (hcreated : m'.created = m.created)
    (hown : ∀ id ∈ own, (m'.heap id).recurring = (m.heap id).recurring ∧
      (id ∈ m'.timers → id ∈ m.timers ∧ (m'.heap id).cb = (m.heap id).cb))
    (hcb : ∀ id, (m'.heap id).cb = (m.heap id).cb ∨ (m'.heap id).cb = none) :
    Spares own m none m' where
  owns :=
    { ordered := hordered
      created := fun id hid => hcreated ▸ hm.created id hid
      once := fun id hid => (hown id hid).1.trans (hm.once id hid)
      armed := fun id hid hmem => by
        obtain ⟨hold, hsame⟩ := (hown id hid).2 hmem
        exact hsame ▸ hm.armed id hid hold }
  mem id hid hmem := ((hown id hid).2 hmem).1
  callback id hid hsome := by
    refine .inl ⟨hcreated ▸ hid, (hcb id).resolve_right fun hnone => ?_⟩
    simp [hnone] at hsome

/-! ## Calls on timers -/

lemma cancel_heap (m : TimerManager α) (id : TimerId) : (m.cancel id).2.heap = m.heap ∨
    (m.cancel id).2.heap = Function.update m.heap id { m.heap id with cb := none } := by
  unfold TimerManager.cancel
  split_ifs with hcb
  · exact .inl rfl
  · simp only
    split <;> exact .inr rfl

/-- The owner, or anybody else, cancels a timer. -/
lemma Owns.cancel (hm : m.Owns own) (id : TimerId) : Spares own m none (m.cancel id).2 := by
  refine hm.spares (hm.ordered.cancel id) (cancel_created m id) (fun e he => ⟨?_, fun hmem => ?_⟩)
    fun e => ?_
  · rcases cancel_heap m id with h | h
    · rw [h]
    · by_cases hne : e = id
      · simp [h, hne]
      · simp [h, hne]
  · have hne : e ≠ id := by
      rintro rfl
      exact hm.ordered.notMem_cancel (hm.armed e he) hmem
    obtain ⟨hheap, hsub⟩ := cancel_frame (m := m) hne
    exact ⟨hsub hmem, by rw [hheap]⟩
  · rcases cancel_heap m id with h | h
    · exact .inl (by rw [h])
    · by_cases hne : e = id
      · exact .inr (by simp [h, hne])
      · exact .inl (by simp [h, hne])

lemma refresh_callback (m : TimerManager α) (id : TimerId) (now : ℤ) (e : TimerId) :
    ((m.refresh id now).2.heap e).cb = (m.heap e).cb := by
  by_cases hne : e = id
  · subst hne
    unfold TimerManager.refresh
    split_ifs with hcb
    · rfl
    · split
      · rfl
      · simp
  · rw [(refresh_frame m now hne).1]

/-- Somebody refreshes another timer. -/
lemma Owns.refresh (hm : m.Owns own) (hlt : id < m.created) (hid : id ∉ own) (now : ℤ) :
    Spares own m none (m.refresh id now).2 := by
  refine hm.spares (hm.ordered.refresh hlt now) (refresh_created m id now) (fun e he => ?_)
    fun e => .inl (refresh_callback m id now e)
  obtain ⟨hheap, hsub⟩ := refresh_frame m now (ne_of_mem_of_not_mem he hid)
  rw [hheap]
  exact ⟨rfl, fun hmem => ⟨hsub hmem, rfl⟩⟩

/-- `reset` on the other timers, and on the callback of its own. -/
lemma reset_frame (m : TimerManager α) (id : TimerId) (ms : ℕ) (fromNow : Bool) (now : ℤ) :
    (m.reset id ms fromNow now).2.created = m.created ∧
      (∀ e ≠ id, (m.reset id ms fromNow now).2.heap e = m.heap e ∧
        (e ∈ (m.reset id ms fromNow now).2.timers → e ∈ m.timers)) ∧
      ((m.reset id ms fromNow now).2.heap id).cb = (m.heap id).cb := by
  unfold TimerManager.reset
  split_ifs with hsame hcb
  · exact ⟨rfl, fun e _ => ⟨rfl, fun h => h⟩, rfl⟩
  · exact ⟨rfl, fun e _ => ⟨rfl, fun h => h⟩, rfl⟩
  · split
    · exact ⟨rfl, fun e _ => ⟨rfl, fun h => h⟩, rfl⟩
    · refine ⟨rfl, fun e hne => ⟨set_heap_ne _ _ _ hne, fun h => ?_⟩, ?_⟩
      · exact List.mem_of_mem_erase ((OrderedSet.mem_of_mem_insert h).resolve_left hne)
      · simp [resetFields]

/-- Somebody resets another timer. -/
lemma Owns.reset (hm : m.Owns own) (hlt : id < m.created) (hid : id ∉ own) (ms : ℕ)
    (fromNow : Bool) (now : ℤ) : Spares own m none (m.reset id ms fromNow now).2 := by
  obtain ⟨hcreated, hframe, hcb⟩ := reset_frame m id ms fromNow now
  refine hm.spares (hm.ordered.reset hlt ms fromNow now) hcreated (fun e he => ?_) fun e => ?_
  · obtain ⟨hheap, hsub⟩ := hframe e (ne_of_mem_of_not_mem he hid)
    rw [hheap]
    exact ⟨rfl, fun hmem => ⟨hsub hmem, rfl⟩⟩
  · by_cases hne : e = id
    · exact .inl (hne ▸ hcb)
    · exact .inl (by rw [(hframe e hne).1])

lemma Owns.getNextTimer (hm : m.Owns own) (now : ℤ) : Spares own m none (m.getNextTimer now).1 := by
  have hsame := getNextTimer_fst m now
  refine hm.spares (hm.ordered.getNextTimer now) (by rw [hsame]) (fun e he => ?_) fun e => ?_
  · rw [hsame]
    exact ⟨rfl, fun hmem => ⟨hmem, rfl⟩⟩
  · exact .inl (by rw [hsame])

/-! ## New timers -/

lemma addTimer_heap (m : TimerManager α) (ms : ℕ) (cb : Option (Callback α)) (recurring : Bool)
    (now : ℤ) : (m.addTimer ms cb recurring now).1.heap =
      Function.update m.heap m.created ⟨recurring, ms, addMs now ms, cb⟩ := rfl

/-- A new timer, with a callback and not recurring if it is to be one of the list. -/
lemma Owns.addTimer_of (hm : m.Owns own) {own' : List TimerId} {ms : ℕ} {recurring : Bool}
    (hown : ∀ id ∈ own', id ∈ own ∨ (id = m.created ∧ recurring = false ∧ new.isSome)) :
    (m.addTimer ms new recurring now).1.Owns own' := by
  have hmem : ∀ id ∈ (m.addTimer ms new recurring now).1.timers, id = m.created ∨ id ∈ m.timers :=
    fun id hid => OrderedSet.mem_of_mem_insert hid
  have hold : ∀ id ∈ own, (m.addTimer ms new recurring now).1.heap id = m.heap id := by
    intro id hid
    rw [addTimer_heap, Function.update_of_ne (hm.created id hid).ne]
  refine ⟨hm.ordered.addTimer, fun id hid => ?_, fun id hid => ?_, fun id hid hset => ?_⟩
  · rcases hown id hid with hid | ⟨rfl, -⟩
    · exact Nat.lt_succ_of_lt (hm.created id hid)
    · exact Nat.lt_succ_self _
  · rcases hown id hid with hid | ⟨rfl, hrec, -⟩
    · rw [hold id hid]
      exact hm.once id hid
    · simpa [addTimer_heap] using hrec
  · rcases hown id hid with hid | ⟨rfl, -, hcb⟩
    · rw [hold id hid]
      exact hm.armed id hid ((hmem id hset).resolve_left (hm.created id hid).ne)
    · simpa [addTimer_heap] using hcb

/-- What a new timer leaves alone. -/
lemma Owns.addTimer_spares (hm : m.Owns own) {ms : ℕ} {recurring : Bool} {own' : List TimerId}
    (hown : (m.addTimer ms new recurring now).1.Owns own') (hsub : own ⊆ own') :
    Spares own m new (m.addTimer ms new recurring now).1 where
  owns := ⟨hown.ordered, fun id hid => hown.created id (hsub hid),
    fun id hid => hown.once id (hsub hid), fun id hid => hown.armed id (hsub hid)⟩
  mem id hid hmem :=
    (OrderedSet.mem_of_mem_insert hmem).resolve_left (hm.created id hid).ne
  callback id hid _ := by
    rw [addTimer_heap]
    rcases Nat.lt_succ_iff_lt_or_eq.mp hid with hlt | rfl
    · exact .inl ⟨hlt, by rw [Function.update_of_ne hlt.ne]⟩
    · exact .inr ⟨rfl, by rw [Function.update_self]⟩

/-- Somebody adds a timer. -/
lemma Owns.addTimer (hm : m.Owns own) (ms : ℕ) (recurring : Bool) (now : ℤ) :
    Spares own m new (m.addTimer ms new recurring now).1 :=
  hm.addTimer_spares (hm.addTimer_of fun _ hid => .inl hid) (List.Subset.refl own)

/-! ## `listExpiredCb` -/

lemma Owns.refl (hm : m.Owns own) : Spares own m none m :=
  hm.spares hm.ordered rfl (fun _ _ => ⟨rfl, fun hmem => ⟨hmem, rfl⟩⟩) fun _ => .inl rfl

lemma Spares.trans {m'' : TimerManager α} (h : Spares own m none m')
    (h' : Spares own m' none m'') : Spares own m none m'' where
  owns := h'.owns
  mem id hid hmem := h.mem id hid (h'.mem id hid hmem)
  callback id hid hsome := by
    rcases h'.callback id hid hsome with ⟨hlt, hcb⟩ | ⟨-, hcb⟩
    · rcases h.callback id hlt (hcb ▸ hsome) with ⟨hlt', hcb'⟩ | ⟨-, hcb'⟩
      · exact .inl ⟨hlt', hcb.trans hcb'⟩
      · simp [hcb, hcb'] at hsome
    · simp [hcb] at hsome

/-- One turn of the loop. -/
lemma Owns.expire (hm : m.Owns own) {rollover : Bool} {temp : TimerId}
    (hdue : m.due now rollover = some temp) : Spares own m none (m.expire now temp) := by
  refine hm.spares (hm.ordered.expire hdue) (TimerLedger.expire_frame hdue temp).1
    (fun id hid => ⟨(TimerLedger.expire_frame hdue id).2.1, fun hmem => ?_⟩) fun id => ?_
  · have hne : id ≠ temp := by
      rintro rfl
      have honce : ¬ (m.heap id).recurring = true := by simp [hm.once id hid]
      rw [expire_timers, if_neg honce] at hmem
      exact ne_of_mem_tail hm.ordered.ascending hdue hmem rfl
    exact ⟨List.mem_of_mem_tail ((mem_of_mem_expire hmem).resolve_left hne),
      by rw [expire_heap_ne hne]⟩
  · by_cases hne : id = temp
    · subst hne
      rw [expire_heap, Function.update_self]
      split_ifs with hrec
      · exact .inl rfl
      · exact .inr rfl
    · exact .inl (by rw [expire_heap_ne hne])

/-- A callback that is returned is that of a timer. -/
lemma Owns.listExpiredCb (hm : m.Owns own) {fuel : ℕ}
    {r : TimerManager α × List (TimerId × Option (Callback α))}
    (hr : m.listExpiredCb now now' fuel = some r) :
    Spares own m none r.1 ∧
      ∀ x ∈ r.2, x.2.isSome → x.1 < m.created ∧ x.2 = (m.heap x.1).cb := by
  have hdetect : Spares own m none (m.detectClockRollover now').2 :=
    hm.spares ⟨hm.ordered.ascending, hm.ordered.created⟩ rfl
      (fun _ _ => ⟨rfl, fun hmem => ⟨hmem, rfl⟩⟩) fun _ => .inl rfl
  refine expireLoop_induction (I := fun m' cbs => Spares own m none m' ∧
    ∀ x ∈ cbs, x.2.isSome → x.1 < m.created ∧ x.2 = (m.heap x.1).cb) ?_
    ⟨hdetect, fun x hx => absurd hx List.not_mem_nil⟩ hr
  rintro m' cbs temp ⟨hspares, hcbs⟩ hdue
  refine ⟨hspares.trans (hspares.owns.expire hdue), fun x hx hsome => ?_⟩
  rcases List.mem_append.mp hx with hx | hx
  · exact hcbs x hx hsome
  · obtain rfl := List.mem_singleton.mp hx
    have hlt := hspares.owns.ordered.created temp (TimerLedger.mem_of_due hdue)
    rcases hspares.callback temp hlt hsome with hold | ⟨-, hnone⟩
    · exact hold
    · simp [hnone] at hsome

end TimerManager

end CoroutineGateway
