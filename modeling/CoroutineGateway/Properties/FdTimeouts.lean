import CoroutineGateway.Construction.FdManager
import CoroutineGateway.Framework.Machine

/-!
# Timeouts over the lives of descriptors

The `FdManager` refines a finite map: a descriptor that is open has, for each of the two
directions, the value set last, or none (`Sessions`).  `FdManager.Sound` ties the two together:
every pointer in `m_datas` stands at the place of the descriptor its context was made for, so that
no two places share a context.  Each operation keeps it and does to the map what `Sessions.apply`
says (`Sound.apply`).

A number can be given out again once its descriptor was closed.  `lastSet` reads off the operations
what was set last since the number was given out last, and `timeouts_of_run` says that
this is what is read back.
-/

namespace CoroutineGateway

/-! ## The finite map -/

/-- The open descriptors, with the value set last for each direction. -/
abbrev Sessions := ℕ → Option (TimeoutOption → Option ℤ)

namespace Sessions

/-- A timeout is set, if the descriptor is open. -/
def set (m : Sessions) (fd : ℕ) (type : TimeoutOption) (v : ℤ) : Sessions :=
  Function.update m fd ((m fd).map fun session => Function.update session type (some v))

/-- What an operation means. -/
def apply (m : Sessions) : FdOp → Sessions
  | .create fd _ => Function.update m fd (some fun _ => none)
  | .setSendTimeout fd v => m.set fd .sndTimeo v
  | .setRecvTimeout fd v => m.set fd .rcvTimeo v
  | .getSendTimeout _ => m
  | .getRecvTimeout _ => m
  | .close fd => Function.update m fd none

end Sessions

namespace FdManager

variable {s : FdManager} {fd fd' p : ℕ} {type : TimeoutOption}

/-- The context of a descriptor. -/
def ctx (s : FdManager) (fd : ℕ) : Option Ctx :=
  (SlotTable.entry s.datas fd).bind (s.heap[·]?)

/-- The value a context was given, if it was given one. -/
def Ctx.set? (c : Ctx) (type : TimeoutOption) : Option ℤ :=
  if c.getTimeout type = 2 ^ 64 - 1 then none else some (c.getTimeout type)

/-- The map that the contexts stand for. -/
def sessions (s : FdManager) : Sessions := fun fd => (s.ctx fd).map Ctx.set?

/-- Every context stands at the place of its own descriptor. -/
structure Sound (s : FdManager) : Prop where
  inRange : s.outOfRange = false
  size : 64 ≤ s.datas.length
  own : ∀ fd p, SlotTable.entry s.datas fd = some p → ∃ c, s.heap[p]? = some c ∧ c.fd = fd

/-! ## Milliseconds -/

/-- A number of milliseconds survives the way over seconds and microseconds. -/
lemma millis_ofMillis (v : Millis) : (Timeval.ofMillis v).millis = v.1.toNat := by
  obtain ⟨v, h0, hlt⟩ := v
  have hsec : (v.tdiv 1000).bmod (2 ^ 32) = v.tdiv 1000 := by
    rw [Int.tdiv_eq_ediv_of_nonneg h0]
    exact Int.bmod_eq_of_le (by omega) (by omega)
  have husec : (v.tmod 1000 * 1000).bmod (2 ^ 32) = v.tmod 1000 * 1000 := by
    rw [Int.tmod_eq_emod_of_nonneg h0]
    exact Int.bmod_eq_of_le (by omega) (by omega)
  simp only [Timeval.ofMillis, Timeval.millis, hsec, husec]
  rw [Int.tdiv_eq_ediv_of_nonneg h0, Int.tmod_eq_emod_of_nonneg h0,
    Int.tdiv_eq_ediv_of_nonneg (by omega)]
  omega

lemma toInt64_of_lt {n : ℕ} (h : n < 2 ^ 63) : toInt64 n = n := if_pos h

/-- `(uint64_t)-1` -/
lemma toInt64_max : toInt64 (2 ^ 64 - 1) = -1 := by decide +kernel

lemma toNat_lt (v : Millis) : v.1.toNat < 2 ^ 63 := by
  have h := v.2
  omega

/-! ## Looking a descriptor up -/

lemma Sound.index_eq (hs : s.Sound) (h : fd < s.datas.length) : s.index fd = s := by
  rw [index, hs.inRange]
  have hin : decide (s.datas.length ≤ fd) = false := by simpa using h
  rw [hin, Bool.or_false, ← hs.inRange]

/-- A look-up changes nothing. -/
lemma Sound.lookup_eq (hs : s.Sound) (fd : ℕ) :
    s.lookup fd = (SlotTable.entry s.datas fd, s) := by
  unfold lookup get
  by_cases hfd : s.datas.length ≤ fd
  · rw [if_pos hfd, if_pos rfl, SlotTable.entry_of_length_le hfd]
  · rw [if_neg hfd]
    simp only [or_true, if_true, read, hs.index_eq (not_le.mp hfd)]

/-- A place with a pointer has a context. -/
lemma Sound.ctx_eq_none_iff (hs : s.Sound) :
    s.ctx fd = none ↔ SlotTable.entry s.datas fd = none := by
  constructor
  · intro h
    cases hentry : SlotTable.entry s.datas fd with
    | none => rfl
    | some p =>
      obtain ⟨c, hc, -⟩ := hs.own fd p hentry
      rw [ctx, hentry, Option.bind_some, hc] at h
      cases h
  · intro h
    rw [ctx, h]
    rfl

/-! ## Opening a descriptor -/

lemma Sound.grow (hs : s.Sound) (fd : ℕ) : (s.grow fd).Sound ∧ fd < (s.grow fd).datas.length ∧
    (s.grow fd).heap = s.heap ∧
      SlotTable.entry (s.grow fd).datas = SlotTable.entry s.datas := by
  unfold FdManager.grow
  by_cases hfd : s.datas.length ≤ fd
  · -- the new size is larger than the descriptor, which is at least 64
    have hsize := hs.size
    have hle : s.datas.length ≤ fd * 3 / 2 := by omega
    have hentry := SlotTable.entry_resize hle
    rw [if_pos hfd]
    refine ⟨⟨hs.inRange, ?_, fun fd' p hp => hs.own fd' p (hentry ▸ hp)⟩, ?_, rfl, hentry⟩
    · rw [SlotTable.length_resize]
      omega
    · rw [SlotTable.length_resize]
      omega
  · rw [if_neg hfd]
    exact ⟨hs, not_le.mp hfd, rfl, rfl⟩

/-- `get(fd, true)` on a descriptor without a context makes one, at its own place. -/
lemma Sound.get_create (hs : s.Sound) (hnew : s.ctx fd = none) (fstat : Option Bool) :
    (s.get fd true fstat).2 =
      { s.grow fd with
        datas := (s.grow fd).datas.set fd (some s.heap.length)
        heap := s.heap ++ [Ctx.new fd fstat] } := by
  obtain ⟨hgrow, hfd, hheap, -⟩ := hs.grow fd
  have hget : (s.get fd true fstat).2 = (s.create fd fstat).2 := by
    unfold get
    by_cases hlt : s.datas.length ≤ fd
    · rw [if_pos hlt, if_neg (by decide)]
    · have hnone := hs.ctx_eq_none_iff.mp hnew
      simp only [hlt, if_false, read, hnone, Option.isSome_none, Bool.false_eq_true,
        Bool.true_eq_false, or_self, hs.index_eq (not_le.mp hlt)]
  have hwrite : (s.grow fd).write fd (some s.heap.length) =
      { s.grow fd with datas := (s.grow fd).datas.set fd (some s.heap.length) } := by
    rw [write, hgrow.index_eq hfd]
  rw [hget]
  simp only [FdManager.create, hheap, hwrite, read, index, List.length_set, hgrow.inRange,
    Bool.false_or, not_le.mpr hfd, decide_false]

lemma Sound.create (hs : s.Sound) (hnew : s.ctx fd = none) (fstat : Option Bool) :
    (s.get fd true fstat).2.Sound ∧
      (s.get fd true fstat).2.ctx = Function.update s.ctx fd (some (Ctx.new fd fstat)) := by
  obtain ⟨hgrow, hfd, -, hentry⟩ := hs.grow fd
  have hset := (SlotTable.entry_set hfd (some s.heap.length)).trans (by rw [hentry])
  have hself : (s.heap ++ [Ctx.new fd fstat])[s.heap.length]? = some (Ctx.new fd fstat) := by simp
  have hkeep : ∀ fd' p, SlotTable.entry s.datas fd' = some p →
      (s.heap ++ [Ctx.new fd fstat])[p]? = s.heap[p]? := by
    intro fd' p hp
    obtain ⟨c, hc, -⟩ := hs.own fd' p hp
    rw [List.getElem?_append_left (List.getElem?_eq_some_iff.mp hc).1]
  rw [hs.get_create hnew]
  refine ⟨⟨hgrow.inRange, ?_, fun fd' p hp => ?_⟩, ?_⟩
  · rw [List.length_set]
    exact hgrow.size
  · rw [hset] at hp
    by_cases hne : fd' = fd
    · subst hne
      obtain rfl : s.heap.length = p := by simpa using hp
      exact ⟨_, hself, rfl⟩
    · rw [Function.update_of_ne hne] at hp
      rw [hkeep fd' p hp]
      exact hs.own fd' p hp
  · funext fd'
    rw [ctx, hset]
    by_cases hne : fd' = fd
    · subst hne
      rw [Function.update_self, Function.update_self, Option.bind_some, hself]
    · rw [Function.update_of_ne hne, Function.update_of_ne hne, ctx]
      cases hp : SlotTable.entry s.datas fd' with
      | none => rfl
      | some p => rw [Option.bind_some, Option.bind_some, hkeep fd' p hp]

/-! ## Setting a timeout -/

lemma Ctx.fd_setTimeout (c : Ctx) (type : TimeoutOption) (v : ℕ) :
    (c.setTimeout type v).fd = c.fd := by
  unfold setTimeout
  split_ifs <;> rfl

/-- The hook changes the context of its descriptor, and no other. -/
lemma Sound.setTimeout (hs : s.Sound) (fd : ℕ) (type : TimeoutOption) (v : Millis) :
    (setTimeout type s fd v).Sound ∧ (setTimeout type s fd v).ctx =
      Function.update s.ctx fd ((s.ctx fd).map (·.setTimeout type v.1.toNat)) := by
  rw [FdManager.setTimeout, setsockopt, hs.lookup_eq, millis_ofMillis]
  cases hentry : SlotTable.entry s.datas fd with
  | none =>
    refine ⟨hs, ?_⟩
    rw [hs.ctx_eq_none_iff.mpr hentry, Option.map_none, ← hs.ctx_eq_none_iff.mpr hentry,
      Function.update_eq_self]
  | some p =>
    obtain ⟨c, hc, hfd⟩ := hs.own fd p hentry
    refine ⟨⟨hs.inRange, hs.size, fun fd' p' hp' => ?_⟩, ?_⟩
    · obtain ⟨c', hc', hfd'⟩ := hs.own fd' p' hp'
      simp only [List.getElem?_modify, hc']
      split_ifs
      · exact ⟨_, rfl, (c'.fd_setTimeout type _).trans hfd'⟩
      · exact ⟨c', rfl, hfd'⟩
    · funext fd'
      by_cases hne : fd' = fd
      · subst hne
        simp [ctx, hentry, List.getElem?_modify]
      · rw [Function.update_of_ne hne]
        cases hp' : SlotTable.entry s.datas fd' with
        | none => simp [ctx, hp']
        | some p' =>
          -- two descriptors do not share a context
          have hp : p ≠ p' := by
            rintro rfl
            obtain ⟨c', hc', hfd'⟩ := hs.own fd' p hp'
            obtain rfl : c = c' := Option.some.inj (hc.symm.trans hc')
            exact hne (hfd'.symm.trans hfd)
          simp [ctx, hp', List.getElem?_modify, hp]

/-! ## Closing a descriptor -/

lemma Sound.close (hs : s.Sound) (fd : ℕ) :
    (s.close fd).Sound ∧ (s.close fd).ctx = Function.update s.ctx fd none := by
  rw [FdManager.close, hs.lookup_eq]
  cases hentry : SlotTable.entry s.datas fd with
  | none =>
    refine ⟨hs, ?_⟩
    rw [← hs.ctx_eq_none_iff.mpr hentry, Function.update_eq_self]
    rfl
  | some p =>
    have hfd : fd < s.datas.length := by
      by_contra hle
      rw [SlotTable.entry_of_length_le (not_lt.mp hle)] at hentry
      cases hentry
    have hset := SlotTable.entry_set hfd none
    simp only [Option.isSome_some, if_true, del, not_le.mpr hfd, if_false, write, hs.index_eq hfd]
    refine ⟨⟨hs.inRange, ?_, fun fd' p' hp' => ?_⟩, ?_⟩
    · rw [List.length_set]
      exact hs.size
    · rw [hset] at hp'
      by_cases hne : fd' = fd
      · rw [hne, Function.update_self] at hp'
        cases hp'
      · rw [Function.update_of_ne hne] at hp'
        exact hs.own fd' p' hp'
    · funext fd'
      rw [ctx, hset]
      by_cases hne : fd' = fd
      · rw [hne, Function.update_self, Function.update_self, Option.bind_none]
      · rw [Function.update_of_ne hne, Function.update_of_ne hne, ctx]

/-! ## The refinement -/

/-- Reading a timeout changes nothing, and converts the number to an `int64_t`. -/
lemma Sound.getTimeout_eq (hs : s.Sound) (type : TimeoutOption) (fd : ℕ) :
    getTimeout type s fd =
      ((s.ctx fd).elim (-1) fun c => toInt64 (c.getTimeout type), s) := by
  simp only [getTimeout, hs.lookup_eq]
  rw [← ctx]
  cases s.ctx fd with
  | none => rfl
  | some c => rw [Option.elim_some]

lemma Ctx.getTimeout_new (fd : ℕ) (fstat : Option Bool) (type : TimeoutOption) :
    (Ctx.new fd fstat).getTimeout type = 2 ^ 64 - 1 := by
  unfold getTimeout
  split_ifs <;> rfl

lemma Ctx.set?_new (fd : ℕ) (fstat : Option Bool) : (Ctx.new fd fstat).set? = fun _ => none := by
  funext type
  rw [set?, getTimeout_new, if_pos rfl]

lemma Ctx.getTimeout_setTimeout (c : Ctx) (type type' : TimeoutOption) (v : ℕ) :
    (c.setTimeout type v).getTimeout type' = if type' = type then v else c.getTimeout type' := by
  cases type <;> cases type' <;> rfl

lemma Ctx.set?_setTimeout (c : Ctx) (type : TimeoutOption) (v : Millis) :
    (c.setTimeout type v.1.toNat).set? = Function.update c.set? type (some v.1) := by
  have hne : v.1.toNat ≠ 2 ^ 64 - 1 := by
    have h := toNat_lt v
    omega
  funext type'
  rw [Function.update_apply, set?, getTimeout_setTimeout]
  by_cases htype : type' = type
  · rw [if_pos htype, if_pos htype, if_neg hne, Int.toNat_of_nonneg v.2.1]
  · rw [if_neg htype, if_neg htype, set?]

lemma sessions_update {s' : FdManager} {c : Option Ctx}
    (h : s'.ctx = Function.update s.ctx fd c) :
    s'.sessions = Function.update s.sessions fd (c.map Ctx.set?) := by
  funext fd'
  rw [sessions, h]
  by_cases hne : fd' = fd
  · rw [hne, Function.update_self, Function.update_self]
  · rw [Function.update_of_ne hne, Function.update_of_ne hne, sessions]

lemma Sound.sessions_setTimeout (hs : s.Sound) (fd : ℕ) (type : TimeoutOption) (v : Millis) :
    (FdManager.setTimeout type s fd v).sessions = s.sessions.set fd type v := by
  rw [sessions_update (hs.setTimeout fd type v).2, Sessions.set, sessions]
  cases s.ctx fd with
  | none => rfl
  | some c => simp only [Option.map_some, Ctx.set?_setTimeout]

/-- **Refinement.**  An operation keeps the contexts in order and does to the map what it means; a
descriptor that is opened has to be new. -/
theorem Sound.apply (hs : s.Sound) (op : FdOp)
    (hnew : ∀ fd fstat, op = .create fd fstat → s.ctx fd = none) :
    (s.apply op).Sound ∧ (s.apply op).sessions = s.sessions.apply op := by
  cases op with
  | create fd fstat =>
    obtain ⟨hsound, hctx⟩ := hs.create (hnew fd fstat rfl) fstat
    refine ⟨hsound, (sessions_update hctx).trans ?_⟩
    rw [Option.map_some, Ctx.set?_new]
    rfl
  | setSendTimeout fd v => exact ⟨(hs.setTimeout fd .sndTimeo v).1, hs.sessions_setTimeout fd _ v⟩
  | setRecvTimeout fd v => exact ⟨(hs.setTimeout fd .rcvTimeo v).1, hs.sessions_setTimeout fd _ v⟩
  | getSendTimeout fd =>
    have hget : (s.getSendTimeout fd).2 = s := congrArg Prod.snd (hs.getTimeout_eq .sndTimeo fd)
    rw [FdManager.apply, hget]
    exact ⟨hs, rfl⟩
  | getRecvTimeout fd =>
    have hget : (s.getRecvTimeout fd).2 = s := congrArg Prod.snd (hs.getTimeout_eq .rcvTimeo fd)
    rw [FdManager.apply, hget]
    exact ⟨hs, rfl⟩
  | close fd =>
    obtain ⟨hsound, hctx⟩ := hs.close fd
    exact ⟨hsound, sessions_update hctx⟩

/-- The contexts of the other descriptors are left alone. -/
theorem Sound.ctx_apply_of_ne (hs : s.Sound) (op : FdOp)
    (hnew : ∀ fd fstat, op = .create fd fstat → s.ctx fd = none) (hne : fd ≠ op.fd) :
    (s.apply op).ctx fd = s.ctx fd := by
  cases op with
  | create fd' fstat =>
    have hctx := congrFun (hs.create (hnew fd' fstat rfl) fstat).2 fd
    exact hctx.trans (Function.update_of_ne hne ..)
  | setSendTimeout fd' v =>
    exact (congrFun (hs.setTimeout fd' .sndTimeo v).2 fd).trans (Function.update_of_ne hne ..)
  | setRecvTimeout fd' v =>
    exact (congrFun (hs.setTimeout fd' .rcvTimeo v).2 fd).trans (Function.update_of_ne hne ..)
  | getSendTimeout fd' =>
    exact congrArg (FdManager.ctx · fd) (congrArg Prod.snd (hs.getTimeout_eq .sndTimeo fd'))
  | getRecvTimeout fd' =>
    exact congrArg (FdManager.ctx · fd) (congrArg Prod.snd (hs.getTimeout_eq .rcvTimeo fd'))
  | close fd' => exact (congrFun (hs.close fd').2 fd).trans (Function.update_of_ne hne ..)

end FdManager

/-! ## Histories -/

/-- Is the descriptor open after these operations, the last one first? -/
def isOpen : List FdOp → ℕ → Bool
  | [], _ => false
  | .create fd' _ :: past, fd => fd' = fd ∨ isOpen past fd
  | .close fd' :: past, fd => fd' ≠ fd ∧ isOpen past fd
  | _ :: past, fd => isOpen past fd

/-- The timeout that was set last since the descriptor was given out last. -/
def lastSet (type : TimeoutOption) : List FdOp → ℕ → Option ℤ
  | [], _ => none
  | .create fd' _ :: past, fd => if fd' = fd then none else lastSet type past fd
  | .setSendTimeout fd' v :: past, fd =>
    if fd' = fd ∧ type = .sndTimeo then some v.1 else lastSet type past fd
  | .setRecvTimeout fd' v :: past, fd =>
    if fd' = fd ∧ type = .rcvTimeo then some v.1 else lastSet type past fd
  | _ :: past, fd => lastSet type past fd

/-- What was set is a timeout. -/
lemma lastSet_bounds {type : TimeoutOption} {past : List FdOp} {fd : ℕ} {v : ℤ}
    (h : lastSet type past fd = some v) : 0 ≤ v ∧ v < 2 ^ 31 * 1000 := by
  induction past with
  | nil => cases h
  | cons op past ih =>
    cases op with
    | create fd' fstat =>
      rw [lastSet] at h
      split_ifs at h
      exact ih h
    | setSendTimeout fd' w =>
      rw [lastSet] at h
      split_ifs at h
      · exact Option.some.inj h ▸ w.2
      · exact ih h
    | setRecvTimeout fd' w =>
      rw [lastSet] at h
      split_ifs at h
      · exact Option.some.inj h ▸ w.2
      · exact ih h
    | getSendTimeout fd' => exact ih h
    | getRecvTimeout fd' => exact ih h
    | close fd' => exact ih h

/-- The map after these operations. -/
def Sessions.ofPast (past : List FdOp) : Sessions :=
  past.foldr (fun op m => m.apply op) fun _ => none

lemma Sessions.set_eq {m : Sessions} {o : Bool} {fd : ℕ} {f : TimeoutOption → Option ℤ}
    (h : m fd = if o then some f else none) (fd' : ℕ) (type : TimeoutOption) (v : ℤ) :
    m.set fd' type v fd = if o then
      some fun type' => if fd' = fd ∧ type' = type then some v else f type' else none := by
  rw [Sessions.set]
  by_cases hfd : fd' = fd
  · subst hfd
    rw [Function.update_self, h]
    cases o with
    | false => rfl
    | true =>
      simp only [if_true, Option.map_some, Option.some.injEq, true_and]
      funext type'
      exact Function.update_apply ..
  · rw [Function.update_of_ne (Ne.symm hfd), h]
    simp [hfd]

/-- The map, read off the operations. -/
theorem Sessions.ofPast_eq (past : List FdOp) (fd : ℕ) : Sessions.ofPast past fd =
    if isOpen past fd then some fun type => lastSet type past fd else none := by
  induction past with
  | nil => rfl
  | cons op past ih =>
    show (Sessions.ofPast past).apply op fd = _
    cases op with
    | create fd' fstat =>
      by_cases hfd : fd' = fd
      · simp [Sessions.apply, isOpen, lastSet, hfd]
      · simp [Sessions.apply, isOpen, lastSet, hfd, ih, Function.update_of_ne (Ne.symm hfd)]
    | setSendTimeout fd' v => exact Sessions.set_eq ih fd' .sndTimeo v
    | setRecvTimeout fd' v => exact Sessions.set_eq ih fd' .rcvTimeo v
    | getSendTimeout fd' => exact ih
    | getRecvTimeout fd' => exact ih
    | close fd' =>
      by_cases hfd : fd' = fd
      · simp [Sessions.apply, isOpen, hfd]
      · simp [Sessions.apply, isOpen, lastSet, hfd, ih, Function.update_of_ne (Ne.symm hfd)]

/-- The `FdManager`, with the operations so far, the last one first. -/
structure FdHistory where
  mgr : FdManager
  past : List FdOp

namespace FdHistory

/-- The kernel does not give out a descriptor that is open. -/
def Possible (past : List FdOp) : FdOp → Prop
  | .create fd _ => isOpen past fd = false
  | _ => True

instance (past : List FdOp) : DecidablePred (Possible past)
  | .create fd _ => inferInstanceAs (Decidable (isOpen past fd = false))
  | .setSendTimeout _ _ => inferInstanceAs (Decidable True)
  | .setRecvTimeout _ _ => inferInstanceAs (Decidable True)
  | .getSendTimeout _ => inferInstanceAs (Decidable True)
  | .getRecvTimeout _ => inferInstanceAs (Decidable True)
  | .close _ => inferInstanceAs (Decidable True)

def start : FdHistory := ⟨FdManager.init, []⟩

/-- The operations in any order. -/
def machine : Machine FdHistory FdOp where
  step s op := if Possible s.past op then some ⟨s.mgr.apply op, op :: s.past⟩ else none

/-- The contexts are in order, and stand for the map that the operations have made. -/
structure Refines (s : FdHistory) : Prop where
  sound : s.mgr.Sound
  sessions : s.mgr.sessions = Sessions.ofPast s.past

variable {s s' : FdHistory} {op : FdOp} {fd : ℕ}

lemma refines_start : Refines start := by
  have hempty : ∀ fd, SlotTable.entry start.mgr.datas fd = none :=
    congrFun (SlotTable.entry_resize (Nat.zero_le 64))
  refine ⟨⟨rfl, (SlotTable.length_resize [] 64).ge, fun fd p hp => ?_⟩, ?_⟩
  · rw [hempty fd] at hp
    cases hp
  · funext fd
    rw [FdManager.sessions, FdManager.ctx, hempty fd]
    rfl

/-- A descriptor has a context while it is open. -/
lemma Refines.ctx_eq_none (hs : Refines s) (h : isOpen s.past fd = false) :
    s.mgr.ctx fd = none := by
  have hfd := congrFun hs.sessions fd
  rw [Sessions.ofPast_eq, h] at hfd
  exact Option.map_eq_none_iff.mp hfd

lemma Refines.new (hs : Refines s) (h : Possible s.past op) :
    ∀ fd fstat, op = .create fd fstat → s.mgr.ctx fd = none := by
  rintro fd fstat rfl
  exact hs.ctx_eq_none h

lemma step_eq_some (hstep : machine.step s op = some s') :
    Possible s.past op ∧ s' = ⟨s.mgr.apply op, op :: s.past⟩ := by
  obtain ⟨hpossible, heq⟩ := Option.ite_none_right_eq_some.mp hstep
  exact ⟨hpossible, (Option.some.inj heq).symm⟩

lemma Refines.step (hs : Refines s) (hstep : machine.step s op = some s') : Refines s' := by
  obtain ⟨hpossible, rfl⟩ := step_eq_some hstep
  obtain ⟨hsound, hsessions⟩ := hs.sound.apply op (hs.new hpossible)
  refine ⟨hsound, hsessions.trans ?_⟩
  rw [hs.sessions]
  rfl

/-- What is read of an open descriptor. -/
lemma Refines.getTimeout (hs : Refines s) (hopen : isOpen s.past fd = true)
    (type : TimeoutOption) : ∃ c, s.mgr.ctx fd = some c ∧
      c.getTimeout type = ((lastSet type s.past fd).map Int.toNat).getD (2 ^ 64 - 1) ∧
      (FdManager.getTimeout type s.mgr fd).1 = (lastSet type s.past fd).getD (-1) := by
  have hfd := congrFun hs.sessions fd
  rw [Sessions.ofPast_eq, hopen, if_pos rfl, FdManager.sessions] at hfd
  obtain ⟨c, hc, hset⟩ := Option.map_eq_some_iff.mp hfd
  have hlast : c.set? type = lastSet type s.past fd := congrFun hset type
  refine ⟨c, hc, ?_⟩
  rw [hs.sound.getTimeout_eq, hc, ← hlast, FdManager.Ctx.set?]
  by_cases hnone : c.getTimeout type = 2 ^ 64 - 1
  · rw [if_pos hnone, Option.elim_some, hnone]
    exact ⟨rfl, FdManager.toInt64_max⟩
  · have hvalue : lastSet type s.past fd = some (c.getTimeout type : ℤ) := by
      rw [← hlast, FdManager.Ctx.set?, if_neg hnone]
    have hbounds := lastSet_bounds hvalue
    rw [if_neg hnone, Option.map_some, Option.getD_some, Int.toNat_natCast, Option.elim_some,
      Option.getD_some]
    exact ⟨rfl, FdManager.toInt64_of_lt (by omega)⟩

/-- **Timeouts persist and do not leak.**  After every sequence of operations all indices were in
range; every open descriptor reads back what was set last since it was opened, or `-1`, and the
next operation leaves the contexts of all other descriptors alone. -/
theorem timeouts_of_run {ops : List FdOp} (hrun : machine.run start ops = some s) :
    s.past = ops.reverse ∧ s.mgr.outOfRange = false ∧
      (∀ fd, isOpen s.past fd = true → ∀ type, ∃ c, s.mgr.ctx fd = some c ∧
        c.getTimeout type = ((lastSet type s.past fd).map Int.toNat).getD (2 ^ 64 - 1) ∧
        (FdManager.getTimeout type s.mgr fd).1 = (lastSet type s.past fd).getD (-1)) ∧
      ∀ op s', machine.step s op = some s' →
        ∀ fd, fd ≠ op.fd → s'.mgr.ctx fd = s.mgr.ctx fd := by
  have hs : Refines s := Machine.run_invariant (fun _ _ _ hs hstep => hs.step hstep) refines_start
    hrun
  have hpast : s.past = ops.reverse := by
    have h := Machine.run_history (M := machine) (I := fun past s => s.past = past.reverse)
      (fun past t op t' ht hstep => ?_) (show start.past = [].reverse from rfl) hrun
    · rwa [List.nil_append] at h
    · rw [(step_eq_some hstep).2, ht, List.reverse_append]
      rfl
  refine ⟨hpast, hs.sound.inRange, fun fd hopen type => hs.getTimeout hopen type, ?_⟩
  intro op s' hstep fd hne
  obtain ⟨hpossible, rfl⟩ := step_eq_some hstep
  exact hs.sound.ctx_apply_of_ne op (hs.new hpossible) hne

/-- Descriptor 70 is behind the end of the first vector; it is used twice. -/
def reusedFd : List FdOp :=
  [.create 70 (some true), .setSendTimeout 70 ⟨2000, by decide⟩, .close 70,
    .create 70 (some true), .setRecvTimeout 70 ⟨1500, by decide⟩]

/-- Its second use sees nothing of its first. -/
theorem timeouts_reusedFd : ∃ s, machine.run start reusedFd = some s ∧
    s.mgr.outOfRange = false ∧ (s.mgr.getRecvTimeout 70).1 = 1500 ∧
      (s.mgr.getSendTimeout 70).1 = -1 := by
  have hsome : (machine.run start reusedFd).isSome = true := by decide +kernel
  obtain ⟨s, hrun⟩ := Option.isSome_iff_exists.mp hsome
  obtain ⟨hpast, hrange, hread, -⟩ := timeouts_of_run hrun
  have hopen : isOpen s.past 70 = true := by
    rw [hpast]
    decide
  obtain ⟨-, -, -, hrecv⟩ := hread 70 hopen .rcvTimeo
  obtain ⟨-, -, -, hsend⟩ := hread 70 hopen .sndTimeo
  refine ⟨s, hrun, hrange, hrecv.trans ?_, hsend.trans ?_⟩
  · rw [hpast]
    decide
  · rw [hpast]
    decide

end FdHistory

end CoroutineGateway
