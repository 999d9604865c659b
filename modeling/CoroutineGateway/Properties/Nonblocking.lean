import CoroutineGateway.Construction.StatusFlags
import CoroutineGateway.Framework.Machine

/-!
# Hooked sockets and `O_NONBLOCK`

`do_io` counts on the kernel's `O_NONBLOCK` being set on every socket it knows of, and the user is
to see in it what he asked for last.  `fcntl` keeps the two apart.  `ioctl` remembers what the user
asked for and then hands the request to the kernel as it is, so that `FIONBIO` with a zero clears
the flag the library needs.  `nonblocking_throughout_iff` says that this is the only call that does.
-/

namespace CoroutineGateway

/-! ## The bit -/

lemma oNonblock_eq : oNonblock = BitVec.twoPow 32 11 := by decide

lemma nonblock_eq_getLsbD (flags : BitVec 32) : nonblock flags = flags.getLsbD 11 := by
  rw [nonblock, oNonblock_eq, BitVec.and_twoPow]
  cases flags.getLsbD 11
  · simp
  · decide

@[simp] lemma nonblock_or (flags : BitVec 32) : nonblock (flags ||| oNonblock) = true := by
  simp [nonblock_eq_getLsbD, oNonblock_eq]

@[simp] lemma nonblock_and_not (flags : BitVec 32) :
    nonblock (flags &&& ~~~oNonblock) = false := by
  simp [nonblock_eq_getLsbD, oNonblock_eq]

/-! ## The descriptor and what the user asked for -/

/-- What a call asks for, if it asks. -/
def StatusCall.asks : StatusCall → Option Bool
  | .setfl arg => some (nonblock arg)
  | .getfl => none
  | .fionbio value => some (value != 0)

/-- A descriptor with the last request of the user. -/
structure StatusLedger (K : Type*) where
  fd : HookedFd K
  asked : Option Bool

namespace StatusCalls

variable {K : Type*} (c : StatusCalls K)

/-- The machine of all sequences of calls. -/
def machine : Machine (StatusLedger K) StatusCall where
  step s a := some ⟨c.call s.fd a, a.asks <|> s.asked⟩

/-- A socket after `FdCtx::init`. -/
def initLedger (k : K) : StatusLedger K := ⟨c.init k (some true), none⟩

/-- The kernel's flag is set, and `F_GETFL` reports it exactly if the user asked for it last. -/
def Nonblocking (s : StatusLedger K) : Prop :=
  nonblock (c.getfl s.fd.kernel) = true ∧
    (nonblock (c.fcntlGetfl s.fd) = true ↔ s.asked = some true)

/-- The state in which calls that keep the flag set leave a tracked socket. -/
structure Tracked (s : StatusLedger K) : Prop where
  hooked : ∃ ctx, s.fd.hooked = some ctx ∧ ctx.sysNonblock = true ∧
    (ctx.userNonblock = true ↔ s.asked = some true)
  kernel : nonblock (c.getfl s.fd.kernel) = true

variable {c}

lemma Tracked.nonblocking {s : StatusLedger K} (hs : c.Tracked s) : c.Nonblocking s := by
  obtain ⟨⟨ctx, hctx, -, huser⟩, hkernel⟩ := hs
  refine ⟨hkernel, ?_⟩
  rw [← huser]
  simp only [fcntlGetfl, hctx]
  split_ifs with hasked
  · simp [hasked]
  · simp [hasked]

variable (c) in
lemma initLedger_tracked (k : K) : c.Tracked (c.initLedger k) := by
  refine ⟨⟨_, rfl, rfl, by simp [initLedger]⟩, ?_⟩
  simp only [initLedger, init, Option.getD_some, true_and]
  by_cases hset : nonblock (c.getfl k) = true
  · rw [if_neg (not_not.mpr hset)]
    exact hset
  · rw [if_pos hset, c.nonblock_setfl, nonblock_or]

/-- The context of a hooked descriptor is the one it acts on. -/
lemma hooked_mk {d : HookedFd K} {ctx : StatusCtx} (hctx : d.hooked = some ctx) (k : K)
    (user : Bool) :
    HookedFd.hooked ⟨k, some { ctx with userNonblock := user }⟩ =
      some { ctx with userNonblock := user } := by
  have hopen := (Option.filter_eq_some_iff.mp hctx).2
  simp only [HookedFd.hooked, Option.filter_eq_some_iff, true_and]
  exact hopen

/-- One call on a tracked socket, other than `FIONBIO` with a zero. -/
lemma Tracked.call {s : StatusLedger K} (hs : c.Tracked s) {a : StatusCall}
    (ha : a ≠ .fionbio 0) : c.Tracked ⟨c.call s.fd a, a.asks <|> s.asked⟩ := by
  obtain ⟨⟨ctx, hctx, hsys, huser⟩, hkernel⟩ := hs
  cases a with
  | setfl arg =>
    have hcall : c.call s.fd (.setfl arg) =
        ⟨c.setfl s.fd.kernel (arg ||| oNonblock),
          some { ctx with userNonblock := nonblock arg }⟩ := by
      simp [StatusCalls.call, fcntlSetfl, hctx, hsys]
    rw [hcall]
    exact ⟨⟨_, hooked_mk hctx _ _, hsys, by simp [StatusCall.asks]⟩, by simp [c.nonblock_setfl]⟩
  | getfl => exact ⟨⟨ctx, hctx, hsys, huser⟩, hkernel⟩
  | fionbio value =>
    have hvalue : value ≠ 0 := fun h => ha (h ▸ rfl)
    have hcall : c.call s.fd (.fionbio value) =
        ⟨c.fionbio s.fd.kernel value, some { ctx with userNonblock := value != 0 }⟩ := by
      simp [StatusCalls.call, ioctlFionbio, hctx]
    rw [hcall]
    refine ⟨⟨_, hooked_mk hctx _ _, hsys, by simp [StatusCall.asks]⟩, ?_⟩
    simpa [c.nonblock_fionbio] using hvalue

/-- `FIONBIO` with a zero reaches the kernel. -/
lemma kernel_fionbio_zero (d : HookedFd K) :
    nonblock (c.getfl (c.call d (.fionbio 0)).kernel) = false := by
  have hkernel : (c.call d (.fionbio 0)).kernel = c.fionbio d.kernel 0 := by
    simp only [call, ioctlFionbio]
    cases d.hooked <;> rfl
  rw [hkernel, c.nonblock_fionbio]
  rfl

/-! ## Runs -/

/-- Every list of calls is a run. -/
lemma exists_run (s : StatusLedger K) (calls : List StatusCall) :
    ∃ s', c.machine.run s calls = some s' := by
  induction calls generalizing s with
  | nil => exact ⟨s, rfl⟩
  | cons a calls ih =>
    obtain ⟨s', hs'⟩ := ih ⟨c.call s.fd a, a.asks <|> s.asked⟩
    exact ⟨s', c.machine.run_cons_eq_some.mpr ⟨_, rfl, hs'⟩⟩

/-- A condition on the calls alone guards a run if every call meets it. -/
lemma guarded_iff {G : StatusCall → Prop} (s : StatusLedger K) (calls : List StatusCall) :
    c.machine.Guarded (fun _ a => G a) s calls ↔ ∀ a ∈ calls, G a := by
  induction calls generalizing s with
  | nil => simp [Machine.Guarded]
  | cons a calls ih =>
    rw [List.forall_mem_cons, ← ih ⟨c.call s.fd a, a.asks <|> s.asked⟩]
    exact and_congr_right fun _ => ⟨fun h => h _ rfl, fun h s' hs' => Option.some.inj hs' ▸ h⟩

variable (c) in
/-- **When a hooked socket never blocks.**  Along a sequence of calls on a tracked socket the
kernel's `O_NONBLOCK` stays set and `F_GETFL` reports what the user asked for last, if and only if
no call is `FIONBIO` with a zero. -/
theorem nonblocking_throughout_iff (k : K) (calls : List StatusCall) :
    c.machine.Throughout c.Nonblocking (c.initLedger k) calls ↔ .fionbio 0 ∉ calls := by
  obtain ⟨s, hrun⟩ := exists_run (c := c) (c.initLedger k) calls
  have hexact := Machine.throughout_iff_guarded (M := c.machine) (P := c.Nonblocking)
    (I := c.Tracked) (G := fun _ a => a ≠ .fionbio 0)
    (fun s a s' hs ha hstep => by
      obtain rfl := Option.some.inj hstep
      exact hs.call ha)
    (fun s hs => hs.nonblocking)
    (fun s a s' _ ha hstep hP => by
      obtain rfl := Option.some.inj hstep
      obtain rfl := not_not.mp ha
      exact absurd (hP.1.symm.trans (kernel_fionbio_zero s.fd)) (by decide))
    (c.initLedger_tracked k) hrun
  rw [hexact, guarded_iff]
  exact ⟨fun h hmem => h _ hmem rfl, fun h a ha heq => h (heq ▸ ha)⟩

end StatusCalls

/-- Linux: `F_SETFL` changes `O_APPEND`, `O_ASYNC`, `O_DIRECT`, `O_NOATIME` and `O_NONBLOCK`. -/
def linuxStatusCalls : StatusCalls (BitVec 32) where
  getfl k := k
  setfl k arg := (arg &&& 0o1066000) ||| (k &&& ~~~0o1066000)
  fionbio k value := if value = 0 then k &&& ~~~oNonblock else k ||| oNonblock
  nonblock_setfl k arg := by simp [nonblock_eq_getLsbD]
  nonblock_fionbio k value := by
    by_cases hvalue : value = 0
    · simp [hvalue]
    · rw [if_neg hvalue, nonblock_or, bne_iff_ne.mpr hvalue]

/-- A user that asks a fresh socket to block makes it block. -/
theorem fionbio_zero_blocks :
    ¬ ∀ (k : BitVec 32) (calls : List StatusCall),
      linuxStatusCalls.machine.Throughout linuxStatusCalls.Nonblocking
        (linuxStatusCalls.initLedger k) calls := by
  intro hall
  have hset := ((hall 2 [.fionbio 0]).2 _ rfl).1
  exact absurd hset (by decide)

end CoroutineGateway
