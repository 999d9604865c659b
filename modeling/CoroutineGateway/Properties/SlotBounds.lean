import CoroutineGateway.Properties.SlotPartition
import Mathlib.Tactic.IntervalCases

/-!
# Slots inside their block

A slot that `allocate` takes from a block is to be aligned, to leave the link at the head of the
block alone and to end with the block at the latest.  The slots after the first are only taken
below `lastSlot_`; the first one of a new block is taken as it is, behind the link and a padding
that is a whole alignment unit where none is needed.  The static assertion leaves room for it
unless a slot is as small as a pointer and the block not much larger than two (`inside_iff`).
-/

namespace CoroutineGateway

variable {T : SlotType} {blockSize : ℕ}

/-- Where a slot at `p` of the block at `base` should be. -/
def InBlock (T : SlotType) (blockSize p base : ℕ) : Prop :=
  T.align ∣ p ∧ base + 8 ≤ p ∧ p + T.size ≤ base + blockSize

/-- Where the first slot of a block at `base` is. -/
def firstSlot (T : SlotType) (base : ℕ) : ℕ := base + 8 + (T.align - (base + 8) % T.align)

/-! ## The first slot -/

lemma align_dvd_firstSlot (T : SlotType) (base : ℕ) : T.align ∣ firstSlot T base := by
  have hmod := Nat.mod_lt (base + 8) T.align_pos
  have hdiv := Nat.div_add_mod (base + 8) T.align
  have hsum : firstSlot T base = T.align * ((base + 8) / T.align) + T.align := by
    rw [firstSlot]
    omega
  rw [hsum]
  exact Nat.dvd_add (Nat.dvd_mul_right _ _) (Nat.dvd_refl _)

/-- A power of two that is at most 16. -/
lemma SlotType.align_cases (hpow : ∃ k, T.align = 2 ^ k) :
    T.align = 1 ∨ T.align = 2 ∨ T.align = 4 ∨ T.align = 8 ∨ T.align = 16 := by
  obtain ⟨k, hk⟩ := hpow
  have hle : 2 ^ k ≤ 2 ^ 4 := hk ▸ T.align_le
  have hk4 : k ≤ 4 := (Nat.pow_le_pow_iff_right (by omega)).mp hle
  rw [hk]
  interval_cases k <;> simp

/-- The static assertion leaves room for the first slot, or the slot has the size of a pointer. -/
lemma firstSlot_le_iff (hpow : ∃ k, T.align = 2 ^ k) (hB : 2 * T.size ≤ blockSize) {base : ℕ}
    (hbase : 16 ∣ base) :
    firstSlot T base + T.size ≤ base + blockSize ↔ 8 < T.size ∨ 16 + T.align ≤ blockSize := by
  have hsize := T.size_ge
  have hdvd := T.align_dvd
  rw [firstSlot]
  rcases T.align_cases hpow with h | h | h | h | h <;> rw [h] at hdvd ⊢ <;> omega

/-! ## All slots -/

/-- What is taken from a block is inside it. -/
structure PoolState.Inside (T : SlotType) (blockSize : ℕ) (s : PoolState) : Prop where
  current : s.pool.currentSlot < s.pool.lastSlot →
    T.align ∣ s.pool.currentSlot ∧ s.pool.currentBlock + 8 ≤ s.pool.currentSlot ∧
      s.pool.lastSlot + T.size = s.pool.currentBlock + blockSize + 1
  taken : ∀ t ∈ s.taken, InBlock T blockSize t.1 t.2

namespace PoolState

variable {s s' : PoolState}

lemma inside_init (memory : Memory) : (init memory).Inside T blockSize where
  current h := absurd h (Nat.lt_irrefl 0)
  taken _ ht := nomatch ht

/-- A slot below `lastSlot_` is inside the block, and so are those after it. -/
lemma Inside.bump (h : s.Inside T blockSize) (hroom : s.pool.currentSlot < s.pool.lastSlot) :
    (s.bump T).Inside T blockSize := by
  obtain ⟨hdvd, hlo, hlast⟩ := h.current hroom
  refine ⟨fun _ => ⟨Nat.dvd_add hdvd T.align_dvd, ?_, hlast⟩, fun t ht => ?_⟩
  · exact hlo.trans (Nat.le_add_right _ _)
  · rcases List.mem_cons.mp ht with rfl | ht
    · refine ⟨hdvd, hlo, ?_⟩
      show s.pool.currentSlot + T.size ≤ s.pool.currentBlock + blockSize
      omega
    · exact h.taken t ht

lemma Inside.opened (h : s.Inside T blockSize) {newBlock : ℕ}
    (hfirst : firstSlot T newBlock + T.size ≤ newBlock + blockSize) :
    (s.opened T blockSize newBlock).Inside T blockSize ∧
      (s.opened T blockSize newBlock).pool.currentSlot <
        (s.opened T blockSize newBlock).pool.lastSlot := by
  have hlast : newBlock + blockSize - T.size + 1 + T.size = newBlock + blockSize + 1 := by omega
  refine ⟨⟨fun _ => ⟨align_dvd_firstSlot T newBlock, Nat.le_add_right _ _, hlast⟩, h.taken⟩, ?_⟩
  show firstSlot T newBlock < newBlock + blockSize - T.size + 1
  omega

/-- One action. -/
lemma Inside.step (hfirst : ∀ base, 16 ∣ base → firstSlot T base + T.size ≤ base + blockSize)
    {a : PoolAction} (h : s.Inside T blockSize) (hstep : s.step T blockSize a = some s') :
    s'.Inside T blockSize := by
  cases a with
  | allocate newBlock =>
    cases allocates_of_step hstep with
    | reuse hfree => exact ⟨h.current, h.taken⟩
    | bump hfree hroom => exact h.bump hroom
    | opened hfree hroom hfresh =>
      obtain ⟨hopened, hroom'⟩ := h.opened (hfirst newBlock (fresh_iff.mp hfresh).2.2.1)
      exact hopened.bump hroom'
  | deallocate p =>
    obtain ⟨-, rfl⟩ := released_of_step hstep
    rw [released, MemoryPool.deallocate]
    split_ifs
    · exact ⟨h.current, h.taken⟩
    · exact ⟨h.current, h.taken⟩
  | write a byte =>
    obtain ⟨-, rfl⟩ := written_of_step hstep
    exact ⟨h.current, h.taken⟩

/-- The first slot of a block is taken wherever it lies. -/
lemma taken_first (memory : Memory) {base : ℕ} (hbase : 16 ∣ base) (hpos : 0 < base)
    (hrange : base + blockSize < 2 ^ 64) :
    ∃ s, (poolMachine T blockSize).run (init memory) [.allocate base] = some s ∧
      (firstSlot T base, base) ∈ s.taken := by
  have hfresh : (init memory).fresh blockSize base = true :=
    fresh_iff.mpr ⟨hpos, hrange, hbase, fun b hb => nomatch hb⟩
  have hstep : ∃ s, (init memory).step T blockSize (.allocate base) = some s ∧
      (firstSlot T base, base) ∈ s.taken := by
    rw [step, hfresh, Bool.not_true, Bool.and_false]
    exact ⟨_, rfl, List.mem_cons_self ..⟩
  obtain ⟨s, hs, htaken⟩ := hstep
  exact ⟨s, Machine.run_cons_eq_some _ |>.mpr ⟨s, hs, rfl⟩, htaken⟩

/-- **Slots inside their block.**  Everything that is taken from a block at `base`, in any run, is
inside the block exactly if a slot is larger than a pointer or the block has 16 bytes and an
alignment unit. -/
theorem inside_iff (hpow : ∃ k, T.align = 2 ^ k) (hB : 2 * T.size ≤ blockSize) {base : ℕ}
    (hbase : 16 ∣ base) (hpos : 0 < base) (hrange : base + blockSize < 2 ^ 64) :
    (∀ memory as s p, (poolMachine T blockSize).run (init memory) as = some s →
        (p, base) ∈ s.taken → T.align ∣ p ∧ base + 8 ≤ p ∧ p + T.size ≤ base + blockSize) ↔
      8 < T.size ∨ 16 + T.align ≤ blockSize := by
  refine ⟨fun hall => ?_, fun hroom memory as s p hrun hp => ?_⟩
  · obtain ⟨s, hrun, htaken⟩ := taken_first (T := T) (fun _ => 0) hbase hpos hrange
    exact (firstSlot_le_iff hpow hB hbase).mp (hall _ _ _ _ hrun htaken).2.2
  · have hfirst : ∀ b, 16 ∣ b → firstSlot T b + T.size ≤ b + blockSize :=
      fun b hb => (firstSlot_le_iff hpow hB hb).mpr hroom
    have hinside : s.Inside T blockSize :=
      Machine.run_invariant (I := fun s : PoolState => s.Inside T blockSize)
        (fun _ _ _ h hstep => h.step hfirst hstep) (inside_init memory) hrun
    exact hinside.taken (p, base) hp

/-- The default size of a block is enough. -/
theorem inside_wordSlot :
    (∀ memory as s p, (poolMachine wordSlot 4096).run (init memory) as = some s →
        (p, 4096) ∈ s.taken → 8 ∣ p ∧ 4096 + 8 ≤ p ∧ p + 8 ≤ 4096 + 4096) ∧
      16 + wordSlot.align ≤ 4096 := by
  have hroom : 16 + wordSlot.align ≤ 4096 := by decide
  have hpow : ∃ k, wordSlot.align = 2 ^ k := ⟨3, rfl⟩
  exact ⟨(inside_iff hpow (by decide) (by decide) (by decide) (by decide)).mpr (.inr hroom), hroom⟩

/-- Two pointers' worth of block is what the static assertion asks for, and not enough. -/
theorem outside_wordSlot :
    ∃ s p, (poolMachine wordSlot 16).run (init fun _ => 0) [.allocate 16] = some s ∧
      (p, 16) ∈ s.taken ∧ ¬ p + 8 ≤ 16 + 16 := by
  obtain ⟨s, hrun, htaken⟩ := taken_first (T := wordSlot) (fun _ => 0) (Nat.dvd_refl 16)
    (by decide) (show 16 + 16 < 2 ^ 64 by decide)
  exact ⟨s, _, hrun, htaken, by decide⟩

end PoolState

end CoroutineGateway
