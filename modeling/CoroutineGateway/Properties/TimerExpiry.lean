import CoroutineGateway.Properties.TimerSet
import Mathlib.Algebra.Order.Ring.Int

/-!
# What `listExpiredCb` collects

The loop of `listExpiredCb` takes the first timer out of the set as long as it is due, or, after the
clock was set back, as long as there is one.  A recurring timer goes back into the set with the
deadline `now + ms`.  If that deadline is due as well, the timer is taken out again, and again.

Whether the loop ends is decided before it starts.  A recurring timer that is due and would be due
again stays in the set for good, unless a later timer has the very deadline it is to get
(`Endless`).  Without such a timer the loop takes out the due timers in order, each once
(`expireLoop_of_not_endless`); with one it never ends (`expireLoop_of_endless`).  Both
`listExpiredCb_ends_iff` and `listExpiredCb_firesDue_iff` come from these two.
-/

namespace CoroutineGateway.TimerManager

variable {α : Type*} {m : TimerManager α} {now now' : ℤ} {rollover : Bool} {temp id : TimerId}

/-- The loop would take the timer out. -/
def isDue (m : TimerManager α) (now : ℤ) (rollover : Bool) (id : TimerId) : Bool :=
  rollover || decide (m.next id ≤ now)

/-- The timers that are due, in order. -/
def dueTimers (m : TimerManager α) (now : ℤ) (rollover : Bool) : List TimerId :=
  m.timers.filter (m.isDue now rollover)

/-- A recurring timer that is due, and due again under the deadline it gets. -/
def Repeats (m : TimerManager α) (now : ℤ) (rollover : Bool) (id : TimerId) : Prop :=
  (m.heap id).recurring = true ∧ m.isDue now rollover id = true ∧
    (rollover = true ∨ addMs now (m.heap id).ms ≤ now)

/-- A later timer has the deadline that the timer is to get, so that it does not get back in. -/
def Displaced (m : TimerManager α) (now : ℤ) (id : TimerId) : Prop :=
  ∃ o ∈ m.timers, m.next id < m.next o ∧ m.next o = addMs now (m.heap id).ms

/-- Some timer comes back for ever. -/
def Endless (m : TimerManager α) (now : ℤ) (rollover : Bool) : Prop :=
  ∃ id ∈ m.timers, m.Repeats now rollover id ∧ ¬ m.Displaced now id

/-! ## One turn -/

lemma due_cons {l : List TimerId} (h : m.timers = id :: l) :
    m.due now rollover = if m.isDue now rollover id then some id else none := by
  unfold due
  rw [h]
  rfl

lemma isDue_of_due (h : m.due now rollover = some temp) : m.isDue now rollover temp = true := by
  rw [due_cons (due_eq_some h)] at h
  by_contra hnot
  simp [hnot] at h

lemma expire_heap (m : TimerManager α) (now : ℤ) (temp : TimerId) :
    (m.expire now temp).heap = Function.update m.heap temp
      (if (m.heap temp).recurring then { m.heap temp with next := addMs now (m.heap temp).ms }
        else { m.heap temp with cb := none }) := by
  simp only [expire]
  split_ifs with hrec
  · rfl
  · rfl

lemma expire_timers (m : TimerManager α) (now : ℤ) (temp : TimerId) :
    (m.expire now temp).timers = if (m.heap temp).recurring then
      (OrderedSet.insert (m.expire now temp).next temp m.timers.tail).1 else m.timers.tail := by
  simp only [expire]
  split_ifs with hrec
  · rfl
  · rfl

lemma expire_heap_ne (hne : id ≠ temp) : (m.expire now temp).heap id = m.heap id := by
  rw [expire_heap, Function.update_of_ne hne]

lemma expire_next_ne (hne : id ≠ temp) : (m.expire now temp).next id = m.next id := by
  rw [next, expire_heap_ne hne, next]

lemma expire_next_self (hrec : (m.heap temp).recurring = true) :
    (m.expire now temp).next temp = addMs now (m.heap temp).ms := by
  simp [next, expire_heap, hrec]

lemma mem_tail_of_ne (hdue : m.due now rollover = some temp) (hid : id ∈ m.timers)
    (hne : id ≠ temp) : id ∈ m.timers.tail := by
  rw [due_eq_some hdue] at hid
  exact (List.mem_cons.mp hid).resolve_left hne

lemma mem_expire_of_mem_tail (hid : id ∈ m.timers.tail) : id ∈ (m.expire now temp).timers := by
  rw [expire_timers]
  split_ifs with hrec
  · exact OrderedSet.subset_insert temp _ hid
  · exact hid

lemma mem_of_mem_expire (hid : id ∈ (m.expire now temp).timers) :
    id = temp ∨ id ∈ m.timers.tail := by
  rw [expire_timers] at hid
  split_ifs at hid with hrec
  · exact OrderedSet.mem_of_mem_insert hid
  · exact .inr hid

section Turn

variable (hm : OrderedSet.Ascending m.next m.timers)
include hm

/-- Under `Ascending`, every other timer of the set is later than the first. -/
lemma lt_of_mem_tail (hdue : m.due now rollover = some temp) (hid : id ∈ m.timers.tail) :
    m.next temp < m.next id := by
  rw [due_eq_some hdue] at hm
  exact (List.pairwise_cons.mp hm).1 id hid

lemma ne_of_mem_tail (hdue : m.due now rollover = some temp) (hid : id ∈ m.timers.tail) :
    id ≠ temp := by
  rintro rfl
  exact lt_irrefl _ (lt_of_mem_tail hm hdue hid)

lemma ascending_tail (hdue : m.due now rollover = some temp) :
    OrderedSet.Ascending (m.expire now temp).next m.timers.tail :=
  (OrderedSet.ascending_congr fun _ he => expire_next_ne (ne_of_mem_tail hm hdue he)).mpr
    (hm.sublist (List.tail_sublist _))

lemma ascending_expire (hdue : m.due now rollover = some temp) :
    OrderedSet.Ascending (m.expire now temp).next (m.expire now temp).timers := by
  rw [expire_timers]
  split_ifs with hrec
  · exact (ascending_tail hm hdue).insert temp
  · exact ascending_tail hm hdue

/-- A recurring timer goes back into the set unless another one has the deadline it gets. -/
lemma mem_expire_self_iff (hdue : m.due now rollover = some temp)
    (hrec : (m.heap temp).recurring = true) :
    temp ∈ (m.expire now temp).timers ↔
      ∀ o ∈ m.timers.tail, m.next o ≠ addMs now (m.heap temp).ms := by
  rw [expire_timers, if_pos hrec]
  constructor
  · intro hin o ho htie
    have htie' : (m.expire now temp).next o = (m.expire now temp).next temp := by
      rw [expire_next_ne (ne_of_mem_tail hm hdue ho), expire_next_self hrec, htie]
    rw [OrderedSet.insert_of_tie (ascending_tail hm hdue) ho htie'] at hin
    exact ne_of_mem_tail hm hdue hin rfl
  · intro hfree
    refine OrderedSet.mem_insert_self fun o ho => ?_
    rw [expire_next_ne (ne_of_mem_tail hm hdue ho), expire_next_self hrec]
    exact hfree o ho

/-! ## What decides whether the loop ends -/

omit hm in
lemma Repeats.congr (h : m.Repeats now rollover id) (hne : id ≠ temp) :
    (m.expire now temp).Repeats now rollover id := by
  unfold Repeats isDue at h ⊢
  rwa [expire_heap_ne hne, expire_next_ne hne]

omit hm in
lemma repeats_of_expire (h : (m.expire now temp).Repeats now rollover id) (hne : id ≠ temp) :
    m.Repeats now rollover id := by
  unfold Repeats isDue at h ⊢
  rwa [expire_heap_ne hne, expire_next_ne hne] at h

/-- Where some timer is due the first one is. -/
lemma exists_due (hid : id ∈ m.timers) (hdue : m.isDue now rollover id = true) :
    ∃ temp, m.due now rollover = some temp := by
  cases htimers : m.timers with
  | nil => simp [htimers] at hid
  | cons e l =>
    refine ⟨e, ?_⟩
    rw [due_cons htimers, if_pos]
    rw [htimers] at hm hid
    rcases List.mem_cons.mp hid with rfl | hid
    · exact hdue
    · have hlt := (List.pairwise_cons.mp hm).1 id hid
      simp only [isDue, Bool.or_eq_true, decide_eq_true_eq] at hdue ⊢
      exact hdue.imp_right hlt.le.trans

omit hm in
/-- A timer that went back into the set and is due again comes back for ever. -/
lemma endless_of_back (hrec : (m.heap temp).recurring = true)
    (hagain : rollover = true ∨ addMs now (m.heap temp).ms ≤ now)
    (hback : temp ∈ (m.expire now temp).timers) : (m.expire now temp).Endless now rollover := by
  have hheap : (m.expire now temp).heap temp =
      { m.heap temp with next := addMs now (m.heap temp).ms } := by simp [expire_heap, hrec]
  refine ⟨temp, hback, ⟨?_, ?_, ?_⟩, ?_⟩
  · rw [hheap]
    exact hrec
  · rw [isDue, expire_next_self hrec]
    simpa using hagain
  · rw [hheap]
    exact hagain
  · rintro ⟨o, -, hlt, heq⟩
    rw [hheap] at heq
    rw [heq, expire_next_self hrec] at hlt
    exact lt_irrefl _ hlt

/-- A timer that comes back for ever survives every turn, or another one takes its place. -/
lemma endless_expire (hdue : m.due now rollover = some temp) (h : m.Endless now rollover) :
    (m.expire now temp).Endless now rollover := by
  obtain ⟨x, hx, hrep, hstay⟩ := h
  by_cases hxt : x = temp
  · subst hxt
    refine endless_of_back hrep.1 hrep.2.2 ((mem_expire_self_iff hm hdue hrep.1).mpr ?_)
    intro o ho htie
    have ho' : o ∈ m.timers := List.mem_of_mem_tail ho
    exact hstay ⟨o, ho', lt_of_mem_tail hm hdue ho, htie⟩
  · by_cases hdis : (m.expire now temp).Displaced now x
    · -- Only the timer just put back can be in the way, and then it is due again itself.
      obtain ⟨o, ho, hlt, heq⟩ := hdis
      rw [expire_heap_ne hxt] at heq
      by_cases hot : o ∈ m.timers.tail
      · have hne := ne_of_mem_tail hm hdue hot
        rw [expire_next_ne hne] at heq
        rw [expire_next_ne hne, expire_next_ne hxt] at hlt
        exact absurd ⟨o, List.mem_of_mem_tail hot, hlt, heq⟩ hstay
      · obtain rfl : o = temp := (mem_of_mem_expire ho).resolve_right hot
        have hrec : (m.heap o).recurring = true := by
          by_contra hrec
          rw [expire_timers, if_neg hrec] at ho
          exact hot ho
        have hagain := hrep.2.2
        rw [← heq, expire_next_self hrec] at hagain
        exact endless_of_back hrec hagain ho
    · exact ⟨x, mem_expire_of_mem_tail (mem_tail_of_ne hdue hx hxt), hrep.congr hxt, hdis⟩

/-- No timer begins to come back for ever. -/
lemma endless_of_expire (hdue : m.due now rollover = some temp)
    (h : (m.expire now temp).Endless now rollover) : m.Endless now rollover := by
  obtain ⟨x, hx, hrep, hstay⟩ := h
  by_contra hnot
  have hdis : x ∈ m.timers → m.Repeats now rollover x → m.Displaced now x := fun hx hrep =>
    by_contra fun hdis => hnot ⟨x, hx, hrep, hdis⟩
  by_cases hxt : x ∈ m.timers.tail
  · have hne := ne_of_mem_tail hm hdue hxt
    obtain ⟨o, ho, hlt, heq⟩ := hdis (List.mem_of_mem_tail hxt) (repeats_of_expire hrep hne)
    have hot : o ≠ temp := by
      rintro rfl
      exact lt_asymm hlt (lt_of_mem_tail hm hdue hxt)
    refine hstay ⟨o, mem_expire_of_mem_tail (mem_tail_of_ne hdue ho hot), ?_, ?_⟩
    · rwa [expire_next_ne hot, expire_next_ne hne]
    · rwa [expire_next_ne hot, expire_heap_ne hne]
  · obtain rfl : x = temp := (mem_of_mem_expire hx).resolve_right hxt
    have hrec : (m.heap x).recurring = true := by
      by_contra hrec
      rw [expire_timers, if_neg hrec] at hx
      exact hxt hx
    have hagain : rollover = true ∨ addMs now (m.heap x).ms ≤ now := by
      have hdue' := hrep.2.1
      rw [isDue, expire_next_self hrec] at hdue'
      simpa using hdue'
    obtain ⟨o, ho, hlt, heq⟩ := hdis (TimerLedger.mem_of_due hdue)
      ⟨hrec, isDue_of_due hdue, hagain⟩
    have hox : o ≠ x := by
      rintro rfl
      exact lt_irrefl _ hlt
    exact (mem_expire_self_iff hm hdue hrec).mp hx o (mem_tail_of_ne hdue ho hox) heq

/-- One turn takes the first of the due timers off. -/
lemma dueTimers_eq_cons (hdue : m.due now rollover = some temp) (h : ¬ m.Endless now rollover) :
    m.dueTimers now rollover = temp :: (m.expire now temp).dueTimers now rollover := by
  have htail : (m.expire now temp).timers.filter ((m.expire now temp).isDue now rollover) =
      m.timers.tail.filter ((m.expire now temp).isDue now rollover) := by
    rw [expire_timers]
    split_ifs with hrec
    · by_cases hagain : rollover = true ∨ addMs now (m.heap temp).ms ≤ now
      · obtain ⟨o, ho, hlt, heq⟩ : m.Displaced now temp := by
          by_contra hdis
          exact h ⟨temp, TimerLedger.mem_of_due hdue, ⟨hrec, isDue_of_due hdue, hagain⟩, hdis⟩
        have hne : o ≠ temp := by
          rintro rfl
          exact lt_irrefl _ hlt
        rw [OrderedSet.insert_of_tie (ascending_tail hm hdue) (mem_tail_of_ne hdue ho hne)]
        rw [expire_next_ne hne, expire_next_self hrec, heq]
      · refine OrderedSet.filter_insert_of_not ?_ _
        rw [isDue, expire_next_self hrec]
        simpa using hagain
    · rfl
  have hrest : m.timers.tail.filter (m.isDue now rollover) =
      m.timers.tail.filter ((m.expire now temp).isDue now rollover) :=
    List.filter_congr fun id hid => by
      rw [isDue, isDue, expire_next_ne (ne_of_mem_tail hm hdue hid)]
  calc m.dueTimers now rollover
      = (temp :: m.timers.tail).filter (m.isDue now rollover) :=
        congrArg (List.filter _) (due_eq_some hdue)
    _ = temp :: m.timers.tail.filter (m.isDue now rollover) :=
        List.filter_cons_of_pos (isDue_of_due hdue)
    _ = temp :: (m.expire now temp).dueTimers now rollover := by rw [hrest, ← htail, dueTimers]

end Turn

/-! ## The loop -/

/-- What the loop leaves behind when it ends. -/
structure Swept (m : TimerManager α) (now : ℤ) (rollover : Bool) (m' : TimerManager α) : Prop where
  none_due : m'.dueTimers now rollover = []
  /-- A timer that was not due is the same object as before. -/
  heap : ∀ id ∉ m.dueTimers now rollover, m'.heap id = m.heap id
  kept : ∀ id ∈ m.timers, id ∉ m.dueTimers now rollover → id ∈ m'.timers
  out : ∀ id ∉ m.timers, id ∉ m'.timers
  oneShot : ∀ id ∈ m.dueTimers now rollover, (m.heap id).recurring = false →
    id ∉ m'.timers ∧ (m'.heap id).cb = none

/-- The timers that are due, with their callbacks. -/
def dueCallbacks (m : TimerManager α) (now : ℤ) (rollover : Bool) :
    List (TimerId × Option (Callback α)) :=
  (m.dueTimers now rollover).map fun id => (id, (m.heap id).cb)

lemma map_fst_dueCallbacks :
    (m.dueCallbacks now rollover).map Prod.fst = m.dueTimers now rollover := by
  simp [dueCallbacks, Function.comp_def]

lemma nodup_dueTimers (hm : OrderedSet.Ascending m.next m.timers) (now : ℤ) (rollover : Bool) :
    (m.dueTimers now rollover).Nodup :=
  hm.nodup.filter _

/-- The loop ends where no timer is due. -/
lemma due_eq_none_iff (hm : OrderedSet.Ascending m.next m.timers) :
    m.due now rollover = none ↔ m.dueTimers now rollover = [] := by
  rw [dueTimers, List.filter_eq_nil_iff]
  constructor
  · intro hnone id hid hdue
    obtain ⟨temp, htemp⟩ := exists_due hm hid hdue
    simp [hnone] at htemp
  · intro hall
    by_contra hne
    obtain ⟨temp, hdue⟩ := Option.ne_none_iff_exists'.mp hne
    exact hall temp (TimerLedger.mem_of_due hdue) (isDue_of_due hdue)

/-- With a timer that comes back for ever the loop never ends. -/
lemma expireLoop_of_endless (hm : OrderedSet.Ascending m.next m.timers)
    (h : m.Endless now rollover) (fuel : ℕ) (cbs : List (TimerId × Option (Callback α))) :
    expireLoop now rollover fuel m cbs = none := by
  have hdue : ∀ m : TimerManager α, OrderedSet.Ascending m.next m.timers →
      m.Endless now rollover → ∃ temp, m.due now rollover = some temp := by
    rintro m hm ⟨id, hid, hrep, -⟩
    exact exists_due hm hid hrep.2.1
  induction fuel generalizing m cbs with
  | zero =>
    obtain ⟨temp, htemp⟩ := hdue m hm h
    simp [expireLoop, htemp]
  | succ fuel ih =>
    obtain ⟨temp, htemp⟩ := hdue m hm h
    simp only [expireLoop, htemp]
    exact ih (ascending_expire hm htemp) (endless_expire hm htemp h) _

/-- What one turn and the rest of the loop leave behind. -/
lemma Swept.of_expire {m' : TimerManager α} (hm : OrderedSet.Ascending m.next m.timers)
    (hdue : m.due now rollover = some temp) (h : ¬ m.Endless now rollover)
    (hs : (m.expire now temp).Swept now rollover m') : m.Swept now rollover m' := by
  have hcons := dueTimers_eq_cons hm hdue h
  have hnodup := nodup_dueTimers hm now rollover
  rw [hcons, List.nodup_cons] at hnodup
  refine ⟨hs.none_due, fun id hid => ?_, fun id hid hnot => ?_, fun id hid => ?_, ?_⟩
  · rw [hcons, List.mem_cons, not_or] at hid
    rw [hs.heap id hid.2, expire_heap_ne hid.1]
  · rw [hcons, List.mem_cons, not_or] at hnot
    exact hs.kept id (mem_expire_of_mem_tail (mem_tail_of_ne hdue hid hnot.1)) hnot.2
  · exact hs.out id ((TimerLedger.expire_frame hdue id).2.2 hid)
  · intro id hid hrec
    rw [hcons, List.mem_cons] at hid
    by_cases hne : id = temp
    · subst hne
      have hout : id ∉ (m.expire now id).timers := by
        rw [expire_timers, hrec]
        exact fun hmem => ne_of_mem_tail hm hdue hmem rfl
      refine ⟨hs.out id hout, ?_⟩
      rw [hs.heap id hnodup.1, expire_heap]
      simp [hrec]
    · refine hs.oneShot id (hid.resolve_left hne) ?_
      rwa [expire_heap_ne hne]

/-- **One call of the loop.**  Otherwise it ends after as many turns as there are due timers, and
takes these out in order. -/
theorem expireLoop_of_not_endless (hm : OrderedSet.Ascending m.next m.timers)
    (h : ¬ m.Endless now rollover) (cbs : List (TimerId × Option (Callback α))) :
    ∃ m', m.Swept now rollover m' ∧
      expireLoop now rollover (m.dueTimers now rollover).length m cbs =
        some (m', cbs ++ m.dueCallbacks now rollover) := by
  induction hdues : m.dueTimers now rollover generalizing m cbs with
  | nil =>
    have hnone := (due_eq_none_iff hm).mpr hdues
    refine ⟨m, ⟨hdues, fun _ _ => rfl, fun _ hid _ => hid, fun _ hid => hid, ?_⟩, ?_⟩
    · simp [hdues]
    · simp [expireLoop, hnone, dueCallbacks, hdues]
  | cons temp rest ih =>
    obtain ⟨first, hdue⟩ : ∃ first, m.due now rollover = some first := by
      refine Option.ne_none_iff_exists'.mp fun hnone => ?_
      simp [(due_eq_none_iff hm).mp hnone] at hdues
    have hcons := dueTimers_eq_cons hm hdue h
    obtain ⟨rfl, rfl⟩ := List.cons.inj (hdues.symm.trans hcons)
    have hnodup := nodup_dueTimers hm now rollover
    rw [hcons, List.nodup_cons] at hnodup
    obtain ⟨m', hswept, hloop⟩ := ih (ascending_expire hm hdue)
      (fun hend => h (endless_of_expire hm hdue hend)) (cbs ++ [(temp, (m.heap temp).cb)]) rfl
    refine ⟨m', hswept.of_expire hm hdue h, ?_⟩
    rw [List.length_cons, expireLoop, hdue]
    refine hloop.trans (congrArg (fun l => some (m', l)) ?_)
    rw [List.append_assoc, dueCallbacks, dueCallbacks, hcons, List.map_cons, List.singleton_append]
    refine congrArg (fun l => cbs ++ (_ :: l)) (List.map_congr_left fun id hid => ?_)
    have hne : id ≠ temp := fun heq => hnodup.1 (heq ▸ hid)
    rw [expire_heap_ne hne]

/-! ## `listExpiredCb` -/

/-- **When collecting ends.**  `listExpiredCb` ends, and appends the callback of each timer at most
once, if and only if no timer comes back for ever. -/
theorem listExpiredCb_ends_iff (hm : OrderedSet.Ascending m.next m.timers) (now now' : ℤ) :
    (∃ fuel r, m.listExpiredCb now now' fuel = some r ∧ (r.2.map Prod.fst).Nodup) ↔
      ¬ m.Endless now (m.detectClockRollover now').1 := by
  constructor
  · rintro ⟨fuel, r, hr, -⟩ hend
    have hnone := expireLoop_of_endless (m := (m.detectClockRollover now').2) hm hend fuel []
    exact absurd (hnone.symm.trans hr) (by simp)
  · intro h
    obtain ⟨m', -, hr⟩ :=
      expireLoop_of_not_endless (m := (m.detectClockRollover now').2) hm h []
    refine ⟨_, _, hr, ?_⟩
    rw [List.nil_append, map_fst_dueCallbacks]
    exact nodup_dueTimers hm _ _

/-- The timers that are due at `now` fire, each once and in order, and nothing else happens to the
set: what a caller of `listExpiredCb` is promised. -/
structure FiresDue (m : TimerManager α) (now : ℤ)
    (r : TimerManager α × List (TimerId × Option (Callback α))) : Prop where
  fired : ∀ id, id ∈ r.2.map Prod.fst ↔ id ∈ m.timers ∧ m.next id ≤ now
  once : (r.2.map Prod.fst).Nodup
  callback : ∀ p ∈ r.2, p.2 = (m.heap p.1).cb
  order : (r.2.map Prod.fst).Pairwise fun a b => m.next a ≤ m.next b
  none_due : ∀ id ∈ r.1.timers, now < r.1.next id
  kept : ∀ id ∈ m.timers, now < m.next id → id ∈ r.1.timers ∧ r.1.next id = m.next id
  oneShot : ∀ id ∈ m.timers, m.next id ≤ now → (m.heap id).recurring = false →
    id ∉ r.1.timers ∧ (r.1.heap id).cb = none

lemma mem_dueTimers : id ∈ m.dueTimers now false ↔ id ∈ m.timers ∧ m.next id ≤ now := by
  simp [dueTimers, isDue]

lemma Swept.firesDue {m' : TimerManager α} (hm : OrderedSet.Ascending m.next m.timers)
    (hs : m.Swept now false m') : m.FiresDue now (m', m.dueCallbacks now false) where
  fired id := by rw [map_fst_dueCallbacks, mem_dueTimers]
  once := by
    rw [map_fst_dueCallbacks]
    exact nodup_dueTimers hm _ _
  callback p hp := by
    obtain ⟨id, -, rfl⟩ := List.mem_map.mp hp
    rfl
  order := by
    rw [map_fst_dueCallbacks]
    exact (hm.sublist List.filter_sublist).imp fun h => h.le
  none_due id hid := by
    by_contra hdue
    have hmem : id ∈ m'.dueTimers now false := mem_dueTimers.mpr ⟨hid, not_lt.mp hdue⟩
    simp [hs.none_due] at hmem
  kept id hid hlt := by
    have hnot : id ∉ m.dueTimers now false := fun h => absurd (mem_dueTimers.mp h).2 hlt.not_ge
    exact ⟨hs.kept id hid hnot, by rw [next, hs.heap id hnot, next]⟩
  oneShot id hid hle hrec := hs.oneShot id (mem_dueTimers.mpr ⟨hid, hle⟩) hrec

/-- **When the due timers fire.**  Without a rollover `listExpiredCb` ends and does what it is for
if and only if no timer comes back for ever. -/
theorem listExpiredCb_firesDue_iff (hm : OrderedSet.Ascending m.next m.timers) (now now' : ℤ)
    (hroll : (m.detectClockRollover now').1 = false) :
    (∃ fuel r, m.listExpiredCb now now' fuel = some r ∧ m.FiresDue now r) ↔
      ¬ m.Endless now false := by
  have hloop : ∀ fuel, m.listExpiredCb now now' fuel =
      expireLoop now false fuel (m.detectClockRollover now').2 [] := by
    intro fuel
    rw [listExpiredCb, hroll]
  constructor
  · rintro ⟨fuel, r, hr, -⟩ hend
    have hnone := expireLoop_of_endless (m := (m.detectClockRollover now').2) hm hend fuel []
    rw [hloop, hnone] at hr
    exact absurd hr (by simp)
  · intro h
    obtain ⟨m', hswept, hr⟩ :=
      expireLoop_of_not_endless (m := (m.detectClockRollover now').2) hm h []
    obtain ⟨hfired, honce, hcallback, horder, hnone, hkept, honeShot⟩ :=
      Swept.firesDue (m := (m.detectClockRollover now').2) hm hswept
    exact ⟨_, _, (hloop _).trans hr,
      hfired, honce, hcallback, horder, hnone, hkept, honeShot⟩

/-! ## Periods -/

/-- A period of at least a millisecond leads past `now`, as long as the sum is a time. -/
lemma lt_addMs {ms : ℕ} (hms : 1 ≤ ms) (hlo : -2 ^ 63 ≤ now) (hhi : now + ms * 1000000 < 2 ^ 63) :
    now < addMs now ms := by
  have hsum : addMs now ms = now + ms * 1000000 := by
    rw [addMs]
    exact Int.bmod_eq_of_le (by omega) (by omega)
  rw [hsum]
  omega

/-- With such periods no timer comes back for ever, and the due timers fire. -/
theorem not_endless_of_periods (hlo : -2 ^ 63 ≤ now)
    (hms : ∀ id ∈ m.timers, (m.heap id).recurring = true →
      1 ≤ (m.heap id).ms ∧ now + (m.heap id).ms * 1000000 < 2 ^ 63) : ¬ m.Endless now false := by
  rintro ⟨id, hid, ⟨hrec, -, hagain⟩, -⟩
  obtain ⟨hpos, hhi⟩ := hms id hid hrec
  rcases hagain with hfalse | hle
  · exact absurd hfalse (by simp)
  · exact absurd (lt_addMs hpos hlo hhi) hle.not_gt

/-- A recurring timer of one second, and two others: the one of half a second is due first, and the
one of five seconds is not due after one. -/
def threeTimers : TimerManager ℕ :=
  ((((init 0).addTimer 1000 (some (.user 0)) true 0).1.addTimer 500 (some (.user 1)) false 0).1
    |>.addTimer 5000 (some (.user 2)) false 0).1

lemma threeTimers_ascending : OrderedSet.Ascending threeTimers.next threeTimers.timers := by
  unfold OrderedSet.Ascending
  decide

lemma threeTimers_not_endless : ¬ threeTimers.Endless 1000000000 false := by
  refine not_endless_of_periods (by decide) fun id hid hrec => ?_
  have hall : ∀ id ∈ threeTimers.timers, (threeTimers.heap id).recurring = true →
      1 ≤ (threeTimers.heap id).ms ∧
        (1000000000 : ℤ) + (threeTimers.heap id).ms * 1000000 < 2 ^ 63 := by
    decide
  exact hall id hid hrec

/-- Three timers, two of which are collected after a second. -/
theorem listExpiredCb_ends_threeTimers :
    ∃ fuel r, threeTimers.listExpiredCb 1000000000 1000000000 fuel = some r ∧
      (r.2.map Prod.fst).Nodup :=
  (listExpiredCb_ends_iff threeTimers_ascending 1000000000 1000000000).mpr threeTimers_not_endless

/-- The two fire in the order of their times, and the third one is kept. -/
theorem listExpiredCb_firesDue_threeTimers :
    ∃ fuel r, threeTimers.listExpiredCb 1000000000 1000000000 fuel = some r ∧
      threeTimers.FiresDue 1000000000 r :=
  (listExpiredCb_firesDue_iff threeTimers_ascending 1000000000 1000000000 (by decide)).mpr
    threeTimers_not_endless

example : (threeTimers.listExpiredCb 1000000000 1000000000 3).map
    (fun r => (r.2.map Prod.fst, r.1.timers)) = some ([1, 0], [0, 2]) := by
  decide

/-! ## Two managers whose timers come back -/

/-- A recurring timer, added two hours after the time the clock is set back to. -/
def setBack : TimerManager Unit :=
  ((init 7200000000000).addTimer 1000 (some (.user ())) true 7200000000000).1

lemma setBack_endless : setBack.Endless 0 true :=
  ⟨0, by decide, ⟨rfl, rfl, .inl rfl⟩, by
    rintro ⟨o, ho, hlt, -⟩
    obtain rfl : o = 0 := by simpa using (show o ∈ [0] from ho)
    exact lt_irrefl _ hlt⟩

/-- After the clock was set back by more than an hour a recurring timer keeps `listExpiredCb` in
its loop. -/
theorem rollover_endless :
    ¬ ∀ (m : TimerManager Unit) (now now' : ℤ), OrderedSet.Ascending m.next m.timers →
      ∃ fuel r, m.listExpiredCb now now' fuel = some r ∧ (r.2.map Prod.fst).Nodup := by
  intro hall
  have hm : OrderedSet.Ascending setBack.next setBack.timers := List.pairwise_singleton _ _
  obtain ⟨fuel, r, hr, -⟩ := hall setBack 0 0 hm
  have hnone := expireLoop_of_endless (m := (setBack.detectClockRollover 0).2) hm setBack_endless
    fuel []
  exact absurd (hnone.symm.trans hr) (by simp)

/-- A recurring timer whose period, as a count of milliseconds, is `-1`. -/
def backwards : TimerManager Unit :=
  ((init 0).addTimer (2 ^ 64 - 1) (some (.user ())) true 0).1

lemma backwards_endless : backwards.Endless 0 false :=
  ⟨0, by decide, ⟨rfl, by decide, .inr (by decide)⟩, by
    rintro ⟨o, ho, hlt, -⟩
    obtain rfl : o = 0 := by simpa using (show o ∈ [0] from ho)
    exact lt_irrefl _ hlt⟩

/-- A recurring timer with a period of `2 ^ 64 - 1` milliseconds keeps `listExpiredCb` in its
loop without any rollover. -/
theorem huge_period_endless :
    ¬ ∀ (m : TimerManager Unit) (now now' : ℤ), OrderedSet.Ascending m.next m.timers →
      (∀ id ∈ m.timers, (m.heap id).recurring = true →
        1 ≤ (m.heap id).ms ∧ (m.heap id).ms < 2 ^ 64) →
      (m.detectClockRollover now').1 = false →
      ∃ fuel r, m.listExpiredCb now now' fuel = some r ∧ m.FiresDue now r := by
  intro hall
  have hm : OrderedSet.Ascending backwards.next backwards.timers := List.pairwise_singleton _ _
  have hms : ∀ id ∈ backwards.timers, (backwards.heap id).recurring = true →
      1 ≤ (backwards.heap id).ms ∧ (backwards.heap id).ms < 2 ^ 64 := by
    intro id hid _
    obtain rfl : id = 0 := by simpa using (show id ∈ [0] from hid)
    exact ⟨by decide, by decide⟩
  obtain ⟨fuel, r, hr, -⟩ := hall backwards 0 0 hm hms rfl
  have hnone := expireLoop_of_endless (m := (backwards.detectClockRollover 0).2) hm
    backwards_endless fuel []
  exact absurd (hnone.symm.trans hr) (by simp)

end CoroutineGateway.TimerManager
