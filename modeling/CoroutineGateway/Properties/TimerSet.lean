import CoroutineGateway.Construction.Timer
import CoroutineGateway.Framework.Machine

/-!
# No timer is lost

A run of the timer manager is a list of calls with the clock readings they take.  Beside the
manager, its state records the two facts the promise speaks of: the timers on which `cancel`
returned `true`, and the timers `listExpiredCb` has returned.  A timer is *live* when it was
added, was not cancelled, and is recurring or was not returned yet; the set is *complete* when
it holds exactly the live timers.

The comparator sees `m_next` only, and `std::set::insert` stores nothing where an equivalent
element is stored already.  `complete_throughout_iff` says that this tie is the whole story: the
set is complete in every state of a run exactly when no insertion of the run, those that
`listExpiredCb` makes for recurring timers included, meets another timer with the same deadline.
-/

namespace CoroutineGateway

variable {α : Type*}

/-- The timer manager with the record of what was cancelled and what was returned. -/
structure TimerLedger (α : Type*) where
  manager : TimerManager α
  /-- The timers whose `cancel` returned `true`. -/
  cancelled : List TimerId
  /-- The timers `listExpiredCb` returned, with repetitions. -/
  returned : List TimerId

/-- The public calls on a timer manager, each with its clock readings. -/
inductive TimerOp (α : Type*) where
  | addTimer (ms : ℕ) (cb : Option (Callback α)) (recurring : Bool) (now : ℤ)
  | addConditionTimer (ms : ℕ) (cb : Option (Callback α)) (cond : ℕ) (recurring : Bool) (now : ℤ)
  | cancel (id : TimerId)
  | refresh (id : TimerId) (now : ℤ)
  | reset (id : TimerId) (ms : ℕ) (fromNow : Bool) (now : ℤ)
  | getNextTimer (now : ℤ)
  | listExpiredCb (now now' : ℤ) (fuel : ℕ)

namespace TimerLedger

/-- A new manager: nothing cancelled, nothing returned. -/
def init (now : ℤ) : TimerLedger α := ⟨.init now, [], []⟩

/-- One call.  A method of `Timer` needs a timer that exists, and a call of `listExpiredCb` is a
step only where its loop ends. -/
def step (h : TimerLedger α) : TimerOp α → Option (TimerLedger α)
  | .addTimer ms cb recurring now =>
    some { h with manager := (h.manager.addTimer ms cb recurring now).1 }
  | .addConditionTimer ms cb cond recurring now =>
    some { h with manager := (h.manager.addConditionTimer ms cb cond recurring now).1 }
  | .cancel id =>
    if id < h.manager.created then
      let r := h.manager.cancel id
      some { h with manager := r.2, cancelled := if r.1 then id :: h.cancelled else h.cancelled }
    else none
  | .refresh id now =>
    if id < h.manager.created then some { h with manager := (h.manager.refresh id now).2 }
    else none
  | .reset id ms fromNow now =>
    if id < h.manager.created then
      some { h with manager := (h.manager.reset id ms fromNow now).2 }
    else none
  | .getNextTimer now => some { h with manager := (h.manager.getNextTimer now).1 }
  | .listExpiredCb now now' fuel =>
    (h.manager.listExpiredCb now now' fuel).map fun r =>
      { h with manager := r.1, returned := r.2.map Prod.fst ++ h.returned }

/-- The machine of all sequences of calls. -/
def machine : Machine (TimerLedger α) (TimerOp α) := ⟨step⟩

/-! ## Liveness and completeness -/

/-- Added, not cancelled with result `true`, and recurring or not returned yet. -/
def Live (h : TimerLedger α) (id : TimerId) : Prop :=
  id < h.manager.created ∧ id ∉ h.cancelled ∧
    ((h.manager.heap id).recurring = true ∨ id ∉ h.returned)

/-- `m_timers` holds exactly the live timers, each once. -/
def Complete (h : TimerLedger α) : Prop :=
  h.manager.timers.Nodup ∧ ∀ id, id ∈ h.manager.timers ↔ h.Live id

/-- No other timer of the set has the deadline `t`. -/
def Free (m : TimerManager α) (id : TimerId) (t : ℤ) : Prop :=
  ∀ e ∈ m.timers, e ≠ id → m.next e ≠ t

/-- Every recurring timer the loop of `listExpiredCb` reschedules gets a deadline of its own. -/
def FreeExpiry (now : ℤ) (rollover : Bool) : ℕ → TimerManager α → Prop
  | 0, _ => True
  | fuel + 1, m => ∀ temp, m.due now rollover = some temp →
      ((m.heap temp).recurring = true → Free m temp (addMs now (m.heap temp).ms)) ∧
        FreeExpiry now rollover fuel (m.expire now temp)

/-- **The tie condition**, on the state before a call: where the call puts a timer into the set,
no other timer of the set has the deadline it gets. -/
def NoTie (h : TimerLedger α) : TimerOp α → Prop
  | .addTimer ms _ _ now => Free h.manager h.manager.created (addMs now ms)
  | .addConditionTimer ms _ _ _ now => Free h.manager h.manager.created (addMs now ms)
  | .refresh id now =>
    (h.manager.heap id).cb.isSome → Free h.manager id (addMs now (h.manager.heap id).ms)
  | .reset id ms fromNow now =>
    (h.manager.heap id).cb.isSome → ¬ (ms = (h.manager.heap id).ms ∧ fromNow = false) →
      Free h.manager id ((h.manager.resetFields id ms fromNow now).next id)
  | .listExpiredCb now now' fuel =>
    FreeExpiry now (h.manager.detectClockRollover now').1 fuel
      (h.manager.detectClockRollover now').2
  | .cancel _ | .getNextTimer _ => True

/-- What the tie condition keeps true of every state. -/
structure Sound (h : TimerLedger α) : Prop where
  /-- The set is in order. -/
  ascending : OrderedSet.Ascending h.manager.next h.manager.timers
  /-- It holds the live timers. -/
  listed : ∀ id, id ∈ h.manager.timers ↔ h.Live id
  /-- A timer that still has its callback is live, so `find` on it finds it. -/
  armed : ∀ id, id < h.manager.created → (h.manager.heap id).cb.isSome → h.Live id
  /-- Only timers that exist were cancelled. -/
  cancelled_lt : ∀ id ∈ h.cancelled, id < h.manager.created
  /-- Only timers that exist were returned. -/
  returned_lt : ∀ id ∈ h.returned, id < h.manager.created

lemma Sound.complete {h : TimerLedger α} (hs : h.Sound) : h.Complete :=
  ⟨hs.ascending.nodup, hs.listed⟩

lemma init_sound (now : ℤ) : (init now : TimerLedger α).Sound where
  ascending := List.Pairwise.nil
  listed id := by simp [init, TimerManager.init, Live]
  armed id hid := by simp [init, TimerManager.init] at hid
  cancelled_lt id hid := by simp [init] at hid
  returned_lt id hid := by simp [init] at hid

/-! ## Placing a timer

Every insertion overwrites one timer object that is out of the set, and inserts it. -/

section Place

variable {w : TimerManager α} {id : TimerId} {t : Timer α}

lemma ascending_place (hasc : OrderedSet.Ascending w.next w.timers) (hid : id ∉ w.timers) :
    OrderedSet.Ascending ((w.set id t).insert id).next ((w.set id t).insert id).timers := by
  have hkeys : ∀ e ∈ w.timers, (w.set id t).next e = w.next e := by
    intro e he
    have hne : e ≠ id := fun h => hid (h ▸ he)
    simp [TimerManager.next, hne]
  exact ((OrderedSet.ascending_congr hkeys).mpr hasc).insert id

lemma mem_place (hid : id ∉ w.timers) (hfree : Free w id t.next) {e : TimerId} :
    e ∈ ((w.set id t).insert id).timers ↔ e = id ∨ e ∈ w.timers := by
  refine OrderedSet.mem_insert_iff fun a ha => ?_
  have hne : a ≠ id := fun h => hid (h ▸ ha)
  simpa [TimerManager.next, hne] using hfree a ha hne

/-- With a tie the timer that was to be placed stays out of the set. -/
lemma not_mem_place_of_tie (hasc : OrderedSet.Ascending w.next w.timers) (hid : id ∉ w.timers)
    (htie : ¬ Free w id t.next) : id ∉ ((w.set id t).insert id).timers := by
  unfold Free at htie
  push Not at htie
  obtain ⟨e, he, hne, hk⟩ := htie
  have hkeys : ∀ a ∈ w.timers, (w.set id t).next a = w.next a := by
    intro a ha
    have hna : a ≠ id := fun h => hid (h ▸ ha)
    simp [TimerManager.next, hna]
  have hself : (w.set id t).next id = t.next := by simp [TimerManager.next]
  have hsame : ((w.set id t).insert id).timers = w.timers :=
    OrderedSet.insert_of_tie ((OrderedSet.ascending_congr hkeys).mpr hasc) he
      ((hkeys e he).trans (hk.trans hself.symm))
  rw [hsame]
  exact hid

end Place

/-! ## The four things an operation does to a sound ledger -/

section Effects

variable {h h' : TimerLedger α} {id : TimerId} {t : Timer α}

/-- Soundness reads the objects, their number, the set and the two records. -/
lemma Sound.congr (hs : h.Sound) (hheap : h'.manager.heap = h.manager.heap)
    (hcreated : h'.manager.created = h.manager.created)
    (htimers : h'.manager.timers = h.manager.timers) (hcancelled : h'.cancelled = h.cancelled)
    (hreturned : ∀ e, e ∈ h'.returned ↔ e ∈ h.returned) : h'.Sound := by
  have hnext : h'.manager.next = h.manager.next := by
    funext e
    simp [TimerManager.next, hheap]
  have hlive : ∀ e, h'.Live e ↔ h.Live e := by
    intro e
    simp [Live, hheap, hcreated, hcancelled, hreturned]
  refine ⟨?_, ?_, ?_, ?_, ?_⟩
  · rw [hnext, htimers]
    exact hs.ascending
  · intro e
    rw [htimers, hlive]
    exact hs.listed e
  · intro e he hcb
    rw [hlive]
    exact hs.armed e (hcreated ▸ he) (hheap ▸ hcb)
  · intro e he
    rw [hcreated]
    exact hs.cancelled_lt e (hcancelled ▸ he)
  · intro e he
    rw [hcreated]
    exact hs.returned_lt e ((hreturned e).mp he)

/-- `find` on a timer of the set finds the timer itself. -/
lemma Sound.find_eq (hs : h.Sound) (hid : id ∈ h.manager.timers) :
    h.manager.find id = some id :=
  (OrderedSet.find_eq_some_iff hs.ascending).mpr ⟨hid, rfl⟩

/-- A timer with a callback is in the set. -/
lemma Sound.mem_of_armed (hs : h.Sound) (hid : id < h.manager.created)
    (hcb : (h.manager.heap id).cb.isSome) : id ∈ h.manager.timers :=
  (hs.listed id).mpr (hs.armed id hid hcb)

lemma Sound.not_mem_erase (hs : h.Sound) : id ∉ h.manager.timers.erase id := fun hm =>
  (hs.ascending.nodup.mem_erase_iff.mp hm).1 rfl

lemma Sound.ascending_erase (hs : h.Sound) :
    OrderedSet.Ascending h.manager.next (h.manager.timers.erase id) :=
  hs.ascending.sublist List.erase_sublist

/-- Taking a timer out and putting it back with a deadline of its own. -/
lemma Sound.reschedule (hs : h.Sound) (hid : id ∈ h.manager.timers)
    (hrec : t.recurring = (h.manager.heap id).recurring) (hfree : Free h.manager id t.next) :
    ({ h with manager := ((h.manager.erase id).set id t).insert id } : TimerLedger α).Sound := by
  have hout : id ∉ (h.manager.erase id).timers := hs.not_mem_erase
  have hasc : OrderedSet.Ascending (h.manager.erase id).next (h.manager.erase id).timers :=
    hs.ascending_erase
  have hfree' : Free (h.manager.erase id) id t.next :=
    fun e he hne => hfree e (List.mem_of_mem_erase he) hne
  have hlive : ∀ e, ({ h with manager := ((h.manager.erase id).set id t).insert id } :
      TimerLedger α).Live e ↔ h.Live e := by
    intro e
    by_cases he : e = id
    · subst he
      simp [Live, hrec]
    · simp [Live, he]
  have hmem : ∀ e, e ∈ (((h.manager.erase id).set id t).insert id).timers ↔
      e ∈ h.manager.timers := by
    intro e
    rw [mem_place hout hfree', TimerManager.erase_timers, hs.ascending.nodup.mem_erase_iff]
    constructor
    · rintro (rfl | ⟨-, hm⟩)
      · exact hid
      · exact hm
    · intro hm
      exact or_iff_not_imp_left.mpr fun hne => ⟨hne, hm⟩
  refine ⟨ascending_place hasc hout, ?_, ?_, hs.cancelled_lt, hs.returned_lt⟩
  · intro e
    rw [hlive]
    exact (hmem e).trans (hs.listed e)
  · intro e he hcb
    rw [hlive]
    by_cases hei : e = id
    · exact hei ▸ (hs.listed id).mp hid
    · exact hs.armed e he (by simpa [hei] using hcb)

/-- The same with a tie: the timer is lost, although it is live. -/
lemma Sound.lost_of_tie (hs : h.Sound) (htie : ¬ Free h.manager id t.next) :
    id ∉ (((h.manager.erase id).set id t).insert id).timers := by
  refine not_mem_place_of_tie hs.ascending_erase hs.not_mem_erase fun hfree => htie ?_
  intro e he hne
  exact hfree e ((List.mem_erase_of_ne hne).mpr he) hne

/-- Taking a timer out for good: its callback is cleared and it is live no more. -/
lemma Sound.retire (hs : h.Sound) (id : TimerId)
    (hheap : h'.manager.heap =
      Function.update h.manager.heap id { h.manager.heap id with cb := none })
    (hcreated : h'.manager.created = h.manager.created)
    (htimers : h'.manager.timers = h.manager.timers.erase id)
    (hlive : ∀ e, h'.Live e ↔ h.Live e ∧ e ≠ id)
    (hcancelled : ∀ e ∈ h'.cancelled, e < h'.manager.created)
    (hreturned : ∀ e ∈ h'.returned, e < h'.manager.created) : h'.Sound := by
  have hnext : ∀ e, h'.manager.next e = h.manager.next e := by
    intro e
    by_cases he : e = id
    · simp [TimerManager.next, hheap, he]
    · simp [TimerManager.next, hheap, he]
  refine ⟨?_, ?_, ?_, hcancelled, hreturned⟩
  · rw [htimers]
    exact (OrderedSet.ascending_congr fun e _ => hnext e).mpr hs.ascending_erase
  · intro e
    rw [hlive, htimers, hs.ascending.nodup.mem_erase_iff, hs.listed, and_comm]
  · intro e he hcb
    by_cases hei : e = id
    · simp [hheap, hei] at hcb
    · rw [hlive]
      exact ⟨hs.armed e (hcreated ▸ he) (by simpa [hheap, hei] using hcb), hei⟩

/-- Adding a new timer with a deadline of its own. -/
lemma Sound.add (hs : h.Sound) (hfree : Free h.manager h.manager.created t.next) :
    ({ h with manager :=
      { ((h.manager.set h.manager.created t).insert h.manager.created) with
        created := h.manager.created + 1 } } : TimerLedger α).Sound := by
  set new := h.manager.created with hnew
  have hout : new ∉ h.manager.timers := fun hm =>
    Nat.lt_irrefl _ ((hs.listed new).mp hm).1
  have hc : new ∉ h.cancelled := fun hm => Nat.lt_irrefl _ (hs.cancelled_lt new hm)
  have hr : new ∉ h.returned := fun hm => Nat.lt_irrefl _ (hs.returned_lt new hm)
  have hlive : ∀ e, ({ h with manager :=
      { ((h.manager.set new t).insert new) with created := new + 1 } } :
        TimerLedger α).Live e ↔ e = new ∨ h.Live e := by
    intro e
    by_cases he : e = new
    · subst he
      simp [Live, hc, hr]
    · simp only [Live, he, false_or]
      rw [TimerManager.insert_heap, TimerManager.set_heap_ne _ _ _ he]
      have hlt : e < new + 1 ↔ e < new :=
        ⟨fun hl => Nat.lt_of_le_of_ne (Nat.le_of_lt_succ hl) he, Nat.lt_succ_of_lt⟩
      rw [hlt]
  refine ⟨ascending_place hs.ascending hout, ?_, ?_, ?_, ?_⟩
  · intro e
    rw [hlive]
    exact (mem_place hout hfree).trans (or_congr Iff.rfl (hs.listed e))
  · intro e he hcb
    rw [hlive]
    by_cases hen : e = new
    · exact .inl hen
    · exact .inr (hs.armed e (Nat.lt_of_le_of_ne (Nat.le_of_lt_succ he) hen)
        (by simpa [hen] using hcb))
  · exact fun e he => Nat.lt_succ_of_lt (hs.cancelled_lt e he)
  · exact fun e he => Nat.lt_succ_of_lt (hs.returned_lt e he)

end Effects

/-! ## One turn of the loop of `listExpiredCb` -/

section Expiry

variable {h : TimerLedger α} {m : TimerManager α} {temp : TimerId} {now : ℤ} {rollover : Bool}

/-- The ledger in the middle of the loop: `temp` has been returned. -/
def expire (h : TimerLedger α) (now : ℤ) (temp : TimerId) : TimerLedger α :=
  { h with manager := h.manager.expire now temp, returned := temp :: h.returned }

lemma mem_of_due (hdue : m.due now rollover = some temp) : temp ∈ m.timers := by
  rw [TimerManager.due_eq_some hdue]
  exact List.mem_cons_self ..

/-- The first timer is taken out by `erase(begin())`. -/
lemma tail_eq_erase (hdue : m.due now rollover = some temp) :
    ({ m with timers := m.timers.tail } : TimerManager α) = m.erase temp := by
  have htail : m.timers.tail = m.timers.erase temp := by
    rw [TimerManager.due_eq_some hdue]
    simp
  rw [htail]
  rfl

lemma expire_recurring (hdue : m.due now rollover = some temp)
    (hrec : (m.heap temp).recurring = true) :
    m.expire now temp = ((m.erase temp).set temp
      { m.heap temp with next := addMs now (m.heap temp).ms }).insert temp := by
  simp only [TimerManager.expire, tail_eq_erase hdue]
  rw [if_pos hrec]

lemma expire_oneShot (hdue : m.due now rollover = some temp)
    (hrec : (m.heap temp).recurring = false) :
    m.expire now temp = (m.erase temp).set temp { m.heap temp with cb := none } := by
  simp only [TimerManager.expire, tail_eq_erase hdue]
  rw [if_neg (by simp [hrec])]

lemma Sound.expire (hs : h.Sound) (hdue : h.manager.due now rollover = some temp)
    (hfree : (h.manager.heap temp).recurring = true →
      Free h.manager temp (addMs now (h.manager.heap temp).ms)) :
    (h.expire now temp).Sound := by
  have hmem := mem_of_due hdue
  have hlt := ((hs.listed temp).mp hmem).1
  cases hrec : (h.manager.heap temp).recurring with
  | true =>
    -- A recurring timer stays live, returned or not.
    have hs' := hs.reschedule hmem (t := { h.manager.heap temp with
      next := addMs now (h.manager.heap temp).ms }) rfl (hfree hrec)
    rw [← expire_recurring hdue hrec] at hs'
    have hrec' : ((h.manager.expire now temp).heap temp).recurring = true := by
      rw [expire_recurring hdue hrec]
      simp [hrec]
    have hlive : ∀ e, (h.expire now temp).Live e ↔
        ({ h with manager := h.manager.expire now temp } : TimerLedger α).Live e := by
      intro e
      by_cases he : e = temp
      · subst he
        simp [Live, TimerLedger.expire, hrec']
      · simp [Live, TimerLedger.expire, he]
    refine ⟨hs'.ascending, fun e => (hs'.listed e).trans (hlive e).symm,
      fun e he hcb => (hlive e).mpr (hs'.armed e he hcb), hs'.cancelled_lt, ?_⟩
    intro e he
    rcases List.mem_cons.mp he with rfl | he'
    · exact ((hs'.listed e).mp ((hs'.listed e).mpr
        ⟨by rw [expire_recurring hdue hrec]; exact hlt, ((hs.listed e).mp hmem).2.1,
          .inl hrec'⟩)).1
    · exact hs'.returned_lt e he'
  | false =>
    refine hs.retire temp ?_ ?_ ?_ ?_ ?_ ?_
    · simp only [TimerLedger.expire, expire_oneShot hdue hrec]
      rfl
    · simp only [TimerLedger.expire, expire_oneShot hdue hrec]
      rfl
    · simp only [TimerLedger.expire, expire_oneShot hdue hrec]
      rfl
    · intro e
      by_cases he : e = temp
      · subst he
        simp [Live, TimerLedger.expire, expire_oneShot hdue hrec, hrec]
      · simp [Live, TimerLedger.expire, expire_oneShot hdue hrec, he]
    · simp only [TimerLedger.expire, expire_oneShot hdue hrec]
      exact hs.cancelled_lt
    · intro e he
      simp only [TimerLedger.expire, expire_oneShot hdue hrec] at he ⊢
      rcases List.mem_cons.mp he with rfl | he'
      · exact hlt
      · exact hs.returned_lt e he'

/-- The loop keeps the number of timers and which of them recur, and never brings a timer back
that is out of the set. -/
lemma expire_frame (hdue : m.due now rollover = some temp) (x : TimerId) :
    (m.expire now temp).created = m.created ∧
      ((m.expire now temp).heap x).recurring = (m.heap x).recurring ∧
      (x ∉ m.timers → x ∉ (m.expire now temp).timers) := by
  have hout : x ∉ m.timers → x ≠ temp ∧ x ∉ m.timers.erase temp := fun hx =>
    ⟨fun he => hx (he ▸ mem_of_due hdue), fun hm => hx (List.mem_of_mem_erase hm)⟩
  cases hrec : (m.heap temp).recurring with
  | true =>
    rw [expire_recurring hdue hrec]
    refine ⟨rfl, ?_, fun hx hm => ?_⟩
    · by_cases hx : x = temp
      · simp [hx]
      · simp [hx]
    · rcases OrderedSet.mem_of_mem_insert hm with he | hm'
      · exact (hout hx).1 he
      · exact (hout hx).2 hm'
  | false =>
    rw [expire_oneShot hdue hrec]
    refine ⟨rfl, ?_, fun hx => (hout hx).2⟩
    by_cases hx : x = temp
    · simp [hx]
    · simp [hx]

/-- What one turn keeps, the whole loop keeps. -/
lemma expireLoop_frame {fuel : ℕ} {cbs : List (TimerId × Option (Callback α))}
    {r : TimerManager α × List (TimerId × Option (Callback α))}
    (hr : TimerManager.expireLoop now rollover fuel m cbs = some r) (x : TimerId) :
    r.1.created = m.created ∧ (r.1.heap x).recurring = (m.heap x).recurring ∧
      (x ∉ m.timers → x ∉ r.1.timers) := by
  induction fuel generalizing m cbs with
  | zero =>
    rw [TimerManager.expireLoop] at hr
    split_ifs at hr
    obtain rfl := Option.some.inj hr
    exact ⟨rfl, rfl, id⟩
  | succ fuel ih =>
    rw [TimerManager.expireLoop] at hr
    split at hr
    · obtain rfl := Option.some.inj hr
      exact ⟨rfl, rfl, id⟩
    · rename_i temp hdue
      obtain ⟨hc, hrec, hout⟩ := ih hr
      obtain ⟨hc', hrec', hout'⟩ := expire_frame hdue x
      exact ⟨hc.trans hc', hrec.trans hrec', fun hx => hout (hout' hx)⟩

/-- The loop keeps a sound ledger sound, by induction on its turns. -/
lemma Sound.expireLoop {fuel : ℕ} {cbs : List (TimerId × Option (Callback α))}
    {r : TimerManager α × List (TimerId × Option (Callback α))} (hs : h.Sound)
    (hfree : FreeExpiry now rollover fuel h.manager)
    (hr : TimerManager.expireLoop now rollover fuel h.manager cbs = some r) :
    ∃ new, r.2 = cbs ++ new ∧
      ({ h with manager := r.1, returned := new.map Prod.fst ++ h.returned } :
        TimerLedger α).Sound := by
  induction fuel generalizing h cbs with
  | zero =>
    rw [TimerManager.expireLoop] at hr
    split_ifs at hr
    obtain rfl := Option.some.inj hr
    exact ⟨[], by simp, by simpa using hs⟩
  | succ fuel ih =>
    rw [TimerManager.expireLoop] at hr
    split at hr
    · obtain rfl := Option.some.inj hr
      exact ⟨[], by simp, by simpa using hs⟩
    · rename_i temp hdue
      obtain ⟨hhere, hrest⟩ := hfree temp hdue
      obtain ⟨new, hnew, hs'⟩ := ih (hs.expire hdue hhere) hrest hr
      refine ⟨(temp, (h.manager.heap temp).cb) :: new, by simp [hnew], ?_⟩
      refine hs'.congr rfl rfl rfl rfl fun e => ?_
      simp only [TimerLedger.expire, List.map_cons, List.cons_append, List.mem_cons,
        List.mem_append]
      tauto

/-- A turn that meets a tie loses a recurring timer, and the rest of the loop does not bring it
back. -/
lemma Sound.lost_of_expireLoop {fuel : ℕ} {cbs : List (TimerId × Option (Callback α))}
    {r : TimerManager α × List (TimerId × Option (Callback α))} (hs : h.Sound)
    (htie : ¬ FreeExpiry now rollover fuel h.manager)
    (hr : TimerManager.expireLoop now rollover fuel h.manager cbs = some r) :
    ∃ x, x ∉ r.1.timers ∧ x < r.1.created ∧ x ∉ h.cancelled ∧
      (r.1.heap x).recurring = true := by
  induction fuel generalizing h cbs with
  | zero => exact absurd trivial htie
  | succ fuel ih =>
    rw [TimerManager.expireLoop] at hr
    split at hr
    · rename_i hnone
      exact absurd (fun temp hdue => by simp [hnone] at hdue) htie
    · rename_i temp hdue
      by_cases hhere : (h.manager.heap temp).recurring = true →
          Free h.manager temp (addMs now (h.manager.heap temp).ms)
      · have hrest : ¬ FreeExpiry now rollover fuel (h.manager.expire now temp) := by
          intro hrest
          refine htie fun temp' hdue' => ?_
          obtain rfl : temp = temp' := Option.some.inj (hdue.symm.trans hdue')
          exact ⟨hhere, hrest⟩
        exact ih (h := h.expire now temp) (hs.expire hdue hhere) hrest hr
      · push Not at hhere
        obtain ⟨hrec, hnot⟩ := hhere
        have hlive := (hs.listed temp).mp (mem_of_due hdue)
        have hout : temp ∉ (h.manager.expire now temp).timers := by
          rw [expire_recurring hdue hrec]
          exact hs.lost_of_tie hnot
        obtain ⟨hc, hrec', hout'⟩ := expireLoop_frame hr temp
        obtain ⟨hc0, hrec0, -⟩ := expire_frame hdue temp
        exact ⟨temp, hout' hout, by rw [hc, hc0]; exact hlive.1, hlive.2.1,
          by rw [hrec', hrec0, hrec]⟩

end Expiry

/-! ## One call -/

section Calls

variable {h h' : TimerLedger α}

lemma Sound.addTimer (hs : h.Sound) {ms : ℕ} {cb : Option (Callback α)} {recurring : Bool}
    {now : ℤ} (hfree : Free h.manager h.manager.created (addMs now ms)) :
    ({ h with manager := (h.manager.addTimer ms cb recurring now).1 } : TimerLedger α).Sound :=
  (hs.add (t := { recurring, ms, next := addMs now ms, cb }) hfree).congr rfl rfl rfl rfl
    fun _ => Iff.rfl

lemma Sound.lost_of_addTimer (hs : h.Sound) {ms : ℕ} {cb : Option (Callback α)}
    {recurring : Bool} {now : ℤ} (htie : ¬ Free h.manager h.manager.created (addMs now ms)) :
    ¬ ({ h with manager := (h.manager.addTimer ms cb recurring now).1 } :
      TimerLedger α).Complete := by
  intro hc
  set new := h.manager.created with hnew
  have hout : new ∉ h.manager.timers := fun hm =>
    Nat.lt_irrefl _ ((hs.listed new).mp hm).1
  have hlive : ({ h with manager := (h.manager.addTimer ms cb recurring now).1 } :
      TimerLedger α).Live new :=
    ⟨Nat.lt_succ_self _, fun hm => Nat.lt_irrefl _ (hs.cancelled_lt new hm),
      .inr fun hm => Nat.lt_irrefl _ (hs.returned_lt new hm)⟩
  exact not_mem_place_of_tie (t := { recurring, ms, next := addMs now ms, cb }) hs.ascending
    hout htie ((hc.2 new).mpr hlive)

/-! On a timer without a callback the methods of `Timer` do nothing; on one with a callback, in
a sound ledger, they find the timer itself. -/

section Methods

variable {id : TimerId}

lemma cancel_of_isNone (hcb : (h.manager.heap id).cb = none) :
    h.manager.cancel id = (false, h.manager) := by
  simp [TimerManager.cancel, hcb]

lemma Sound.cancel_eq (hs : h.Sound) (hid : id < h.manager.created)
    (hcb : (h.manager.heap id).cb.isSome) :
    h.manager.cancel id =
      (true, (h.manager.set id { h.manager.heap id with cb := none }).erase id) := by
  have hnext : (h.manager.set id { h.manager.heap id with cb := none }).next =
      h.manager.next := by
    funext e
    by_cases he : e = id
    · simp [TimerManager.next, he]
    · simp [TimerManager.next, he]
  have hfind : (h.manager.set id { h.manager.heap id with cb := none }).find id = some id := by
    rw [TimerManager.find, hnext, TimerManager.set_timers]
    exact hs.find_eq (hs.mem_of_armed hid hcb)
  have hnot : (h.manager.heap id).cb.isNone = false := by
    simpa using hcb
  simp [TimerManager.cancel, hnot, hfind]

lemma refresh_of_isNone {now : ℤ} (hcb : (h.manager.heap id).cb = none) :
    h.manager.refresh id now = (false, h.manager) := by
  simp [TimerManager.refresh, hcb]

lemma Sound.refresh_eq (hs : h.Sound) {now : ℤ} (hid : id < h.manager.created)
    (hcb : (h.manager.heap id).cb.isSome) :
    h.manager.refresh id now = (true, ((h.manager.erase id).set id
      { h.manager.heap id with next := addMs now (h.manager.heap id).ms }).insert id) := by
  have hnot : (h.manager.heap id).cb.isNone = false := by
    simpa using hcb
  simp [TimerManager.refresh, hnot, hs.find_eq (hs.mem_of_armed hid hcb)]

lemma reset_of_same {ms : ℕ} {fromNow : Bool} {now : ℤ}
    (hsame : ms = (h.manager.heap id).ms ∧ fromNow = false) :
    h.manager.reset id ms fromNow now = (true, h.manager) := by
  simp [TimerManager.reset, hsame]

lemma reset_of_isNone {ms : ℕ} {fromNow : Bool} {now : ℤ}
    (hcb : (h.manager.heap id).cb = none) :
    (h.manager.reset id ms fromNow now).2 = h.manager := by
  unfold TimerManager.reset
  split_ifs with hsame hnone
  · rfl
  · rfl
  · exact absurd (by simp [hcb]) hnone

lemma Sound.reset_eq (hs : h.Sound) {ms : ℕ} {fromNow : Bool} {now : ℤ}
    (hid : id < h.manager.created) (hcb : (h.manager.heap id).cb.isSome)
    (hdiff : ¬ (ms = (h.manager.heap id).ms ∧ fromNow = false)) :
    h.manager.reset id ms fromNow now =
      (true, (((h.manager.erase id).resetFields id ms fromNow now).addTimerPtr id).1) := by
  have hnot : (h.manager.heap id).cb.isNone = false := by
    simpa using hcb
  have hdiff' : ¬ (ms = (h.manager.heap id).ms ∧ (!fromNow) = true) := by simpa using hdiff
  simp only [TimerManager.reset, if_neg hdiff', hnot, hs.find_eq (hs.mem_of_armed hid hcb)]
  simp

/-- A successful `cancel` retires the timer, any other leaves the ledger as it is. -/
lemma Sound.cancel (hs : h.Sound) (hid : id < h.manager.created) :
    ({ h with manager := (h.manager.cancel id).2,
              cancelled := if (h.manager.cancel id).1 then id :: h.cancelled else h.cancelled } :
      TimerLedger α).Sound := by
  by_cases hcb : (h.manager.heap id).cb.isSome
  · rw [hs.cancel_eq hid hcb]
    refine hs.retire id rfl rfl rfl ?_ ?_ hs.returned_lt
    · intro e
      by_cases he : e = id
      · simp [Live, he]
      · simp [Live, he]
    · intro e he
      rcases List.mem_cons.mp he with rfl | he'
      · exact hid
      · exact hs.cancelled_lt e he'
  · rw [cancel_of_isNone (by simpa using hcb)]
    exact hs

/-- Rescheduling with a tie leaves a live timer out of the set. -/
lemma Sound.incomplete_of_tie (hs : h.Sound) {t : Timer α} (hid : id < h.manager.created)
    (hcb : (h.manager.heap id).cb.isSome) (hrec : t.recurring = (h.manager.heap id).recurring)
    (htie : ¬ Free h.manager id t.next) :
    ¬ ({ h with manager := ((h.manager.erase id).set id t).insert id } :
      TimerLedger α).Complete := by
  intro hc
  obtain ⟨hlt, hnc, hor⟩ := hs.armed id hid hcb
  exact hs.lost_of_tie htie ((hc.2 id).mpr ⟨hlt, hnc, by simpa [hrec] using hor⟩)

end Methods

lemma Sound.detectClockRollover (hs : h.Sound) (now' : ℤ) :
    ({ h with manager := (h.manager.detectClockRollover now').2 } : TimerLedger α).Sound :=
  hs.congr rfl rfl rfl rfl fun _ => Iff.rfl

/-- Every call that meets the tie condition keeps a sound ledger sound. -/
theorem step_sound (op : TimerOp α) (hs : h.Sound) (hfree : h.NoTie op)
    (hstep : h.step op = some h') : h'.Sound := by
  cases op with
  | addTimer ms cb recurring now =>
    obtain rfl := Option.some.inj hstep
    exact hs.addTimer hfree
  | addConditionTimer ms cb cond recurring now =>
    obtain rfl := Option.some.inj hstep
    exact hs.addTimer hfree
  | cancel id =>
    rw [step] at hstep
    split_ifs at hstep with hid
    obtain rfl := Option.some.inj hstep
    exact hs.cancel hid
  | refresh id now =>
    rw [step] at hstep
    split_ifs at hstep with hid
    obtain rfl := Option.some.inj hstep
    by_cases hcb : (h.manager.heap id).cb.isSome
    · rw [hs.refresh_eq hid hcb]
      exact hs.reschedule (hs.mem_of_armed hid hcb) rfl (hfree hcb)
    · rw [refresh_of_isNone (by simpa using hcb)]
      exact hs
  | reset id ms fromNow now =>
    rw [step] at hstep
    split_ifs at hstep with hid
    obtain rfl := Option.some.inj hstep
    by_cases hsame : ms = (h.manager.heap id).ms ∧ fromNow = false
    · rw [reset_of_same hsame]
      exact hs
    · by_cases hcb : (h.manager.heap id).cb.isSome
      · rw [hs.reset_eq hid hcb hsame]
        have hfree' := hfree hcb hsame
        simp only [TimerManager.resetFields, TimerManager.next, TimerManager.set_heap_self]
          at hfree'
        exact (hs.reschedule (t := { h.manager.heap id with
          ms := ms, next := addMs (if fromNow = true then now
            else subMs (h.manager.heap id).next (h.manager.heap id).ms) ms })
          (hs.mem_of_armed hid hcb) rfl hfree').congr rfl rfl rfl rfl fun _ => Iff.rfl
      · rw [reset_of_isNone (by simpa using hcb)]
        exact hs
  | getNextTimer now =>
    obtain rfl := Option.some.inj hstep
    refine hs.congr ?_ ?_ ?_ rfl fun _ => Iff.rfl <;>
      simp only [TimerManager.getNextTimer] <;> split <;> rfl
  | listExpiredCb now now' fuel =>
    obtain ⟨r, hr, rfl⟩ := Option.map_eq_some_iff.mp hstep
    obtain ⟨new, hnew, hs'⟩ := (hs.detectClockRollover now').expireLoop hfree hr
    rw [List.nil_append] at hnew
    rw [hnew]
    exact hs'

/-- Every call that violates the tie condition leaves a live timer out of the set. -/
theorem step_incomplete (op : TimerOp α) (hs : h.Sound) (htie : ¬ h.NoTie op)
    (hstep : h.step op = some h') : ¬ h'.Complete := by
  cases op with
  | addTimer ms cb recurring now =>
    obtain rfl := Option.some.inj hstep
    exact hs.lost_of_addTimer htie
  | addConditionTimer ms cb cond recurring now =>
    obtain rfl := Option.some.inj hstep
    exact hs.lost_of_addTimer htie
  | cancel id => exact absurd trivial htie
  | refresh id now =>
    rw [step] at hstep
    split_ifs at hstep with hid
    obtain rfl := Option.some.inj hstep
    simp only [NoTie, Classical.not_imp] at htie
    obtain ⟨hcb, hnot⟩ := htie
    rw [hs.refresh_eq hid hcb]
    exact hs.incomplete_of_tie hid hcb rfl hnot
  | reset id ms fromNow now =>
    rw [step] at hstep
    split_ifs at hstep with hid
    obtain rfl := Option.some.inj hstep
    simp only [NoTie, Classical.not_imp] at htie
    obtain ⟨hcb, hdiff, hnot⟩ := htie
    rw [hs.reset_eq hid hcb hdiff]
    simp only [TimerManager.resetFields, TimerManager.next, TimerManager.set_heap_self] at hnot
    exact hs.incomplete_of_tie hid hcb rfl hnot
  | getNextTimer now => exact absurd trivial htie
  | listExpiredCb now now' fuel =>
    obtain ⟨r, hr, rfl⟩ := Option.map_eq_some_iff.mp hstep
    obtain ⟨x, hout, hlt, hnc, hrec⟩ := (hs.detectClockRollover now').lost_of_expireLoop htie hr
    exact fun hc => hout ((hc.2 x).mpr ⟨hlt, hnc, .inl hrec⟩)

end Calls

/-! ## Runs -/

/-- **When no timer is lost.**  Along a run of the timer manager the set holds exactly the live
timers in every state if and only if no insertion of the run meets another timer with the same
deadline. -/
theorem complete_throughout_iff (now : ℤ) (ops : List (TimerOp α)) (h : TimerLedger α)
    (hrun : machine.run (init now) ops = some h) :
    machine.Throughout Complete (init now : TimerLedger α) ops ↔
      machine.Guarded NoTie (init now : TimerLedger α) ops :=
  Machine.throughout_iff_guarded (I := Sound)
    (fun _ op _ hs hfree hstep => step_sound op hs hfree hstep)
    (fun _ hs => hs.complete)
    (fun _ op _ hs htie hstep => step_incomplete op hs htie hstep) (init_sound now) hrun

/-- Two timers of one second added at one instant: a run to which the equivalence applies. -/
theorem complete_throughout_iff_two_added :
    machine.Throughout Complete (init 0 : TimerLedger Unit)
        [.addTimer 1000 (some (.user ())) false 0, .addTimer 1000 (some (.user ())) false 0] ↔
      machine.Guarded NoTie (init 0 : TimerLedger Unit)
        [.addTimer 1000 (some (.user ())) false 0, .addTimer 1000 (some (.user ())) false 0] :=
  complete_throughout_iff 0 _ _ rfl

/-- The second of two timers added at one instant with one period is never in the set. -/
theorem second_timer_lost :
    ¬ ∀ (now : ℤ) (ops : List (TimerOp Unit)) (h : TimerLedger Unit),
      machine.run (init now) ops = some h → h.Complete := by
  intro hall
  have hc := hall 0 [.addTimer 1000 (some (.user ())) false 0,
    .addTimer 1000 (some (.user ())) false 0] _ rfl
  have hlive : 1 ∈ [0] := (hc.2 1).mpr ⟨by decide, by decide, .inr (by decide)⟩
  exact absurd hlive (by decide)

end TimerLedger

end CoroutineGateway
