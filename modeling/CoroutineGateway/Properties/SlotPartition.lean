import CoroutineGateway.Construction.MemoryPool
import CoroutineGateway.Framework.LinkedList
import Mathlib.Algebra.Order.Group.Nat
import Mathlib.Data.List.Pairwise
import Mathlib.Data.List.Perm.Basic

/-!
# No slot twice

The slots of a pool are of three kinds: those handed out, those in the free list, and those between
`currentSlot_` and `lastSlot_`.  No two of them overlap.  What changes is only the kind of a slot:
`allocate` takes the first of the free list or of the unused ones, `deallocate` links a slot into
the free list; and a block is opened when there is neither, so nothing is lost of the block before.

The links are in the slots, where the owners of the slots write as they like.  So the invariant,
`PoolState.Sound`, needs the slots apart to know that the links stay, and the links to know which
slots will be handed out.
-/

namespace CoroutineGateway

variable {T : SlotType} {blockSize : ℕ}

/-- The pointer at an address. -/
def Memory.pointer (m : Memory) (p : ℕ) : ℕ := m.load p 8

/-! ## Slots -/

/-- What begins at `p` and at `q` and is `n` bytes long does not overlap. -/
def Apart (n p q : ℕ) : Prop := p + n ≤ q ∨ q + n ≤ p

instance (n : ℕ) : Std.Symm (Apart n) := ⟨fun _ _ => Or.symm⟩

lemma Apart.ne {n p q : ℕ} (hn : 0 < n) (h : Apart n p q) : p ≠ q := by
  rcases h with h | h <;> omega

/-- The slots from `currentSlot_` up to `lastSlot_`. -/
def MemoryPool.unused (T : SlotType) (pool : MemoryPool) : List ℕ :=
  List.range' pool.currentSlot ((pool.lastSlot - pool.currentSlot + (T.size - 1)) / T.size) T.size

lemma MemoryPool.unused_eq_nil {pool : MemoryPool} (h : pool.lastSlot ≤ pool.currentSlot) :
    pool.unused T = [] := by
  have hsize := T.size_ge
  have hnone : (pool.lastSlot - pool.currentSlot + (T.size - 1)) / T.size = 0 :=
    Nat.div_eq_of_lt (by omega)
  rw [unused, hnone, List.range'_zero]

/-- The first of them is the next to be handed out. -/
lemma MemoryPool.unused_eq_cons {pool : MemoryPool} (h : pool.currentSlot < pool.lastSlot) :
    pool.unused T =
      pool.currentSlot :: { pool with currentSlot := pool.currentSlot + T.size }.unused T := by
  have hsize := T.size_ge
  have hcount : (pool.lastSlot - pool.currentSlot + (T.size - 1)) / T.size =
      (pool.lastSlot - (pool.currentSlot + T.size) + (T.size - 1)) / T.size + 1 := by
    by_cases hlast : pool.currentSlot + T.size ≤ pool.lastSlot
    · rw [← Nat.add_div_right _ (by omega)]
      congr 1
      omega
    · have hzero : pool.lastSlot - (pool.currentSlot + T.size) = 0 := by omega
      rw [hzero, Nat.zero_add, Nat.div_eq_of_lt (show T.size - 1 < T.size by omega)]
      exact Nat.div_eq_of_lt_le (by omega) (by omega)
  rw [unused, hcount, List.range'_succ]
  rfl

lemma MemoryPool.mem_unused {pool : MemoryPool} {p : ℕ} (h : p ∈ pool.unused T) :
    pool.currentSlot ≤ p ∧ p < pool.lastSlot := by
  have hsize := T.size_ge
  obtain ⟨i, hi, rfl⟩ := List.mem_range'.mp h
  refine ⟨Nat.le_add_right _ _, ?_⟩
  have hmul : T.size * (i + 1) ≤ pool.lastSlot - pool.currentSlot + (T.size - 1) :=
    (Nat.mul_le_mul_left _ hi).trans (Nat.mul_div_le _ _)
  rw [Nat.mul_succ] at hmul
  omega

lemma MemoryPool.unused_apart (pool : MemoryPool) : (pool.unused T).Pairwise (Apart T.size) := by
  have hrange : ∀ n p, (List.range' p n T.size).Pairwise (Apart T.size) := by
    intro n
    induction n with
    | zero => exact fun _ => List.Pairwise.nil
    | succ n ih =>
      intro p
      rw [List.range'_succ]
      refine List.Pairwise.cons (fun q hq => ?_) (ih _)
      obtain ⟨i, -, rfl⟩ := List.mem_range'.mp hq
      exact .inl (Nat.le_add_right _ _)
  exact hrange _ _

/-! ## What an action does -/

namespace PoolState

/-- A slot of the free list is handed out. -/
def reuse (s : PoolState) : PoolState :=
  { s with
    pool := { s.pool with freeSlots := s.memory.load s.pool.freeSlots 8 }
    out := s.pool.freeSlots :: s.out }

/-- An unused slot is handed out. -/
def bump (T : SlotType) (s : PoolState) : PoolState :=
  { s with
    pool := { s.pool with currentSlot := s.pool.currentSlot + T.size }
    out := s.pool.currentSlot :: s.out
    taken := (s.pool.currentSlot, s.pool.currentBlock) :: s.taken }

/-- A block is opened. -/
def opened (T : SlotType) (blockSize newBlock : ℕ) (s : PoolState) : PoolState :=
  { s with
    pool := (s.pool.openBlock T blockSize s.memory newBlock).1
    memory := (s.pool.openBlock T blockSize s.memory newBlock).2
    blocks := newBlock :: s.blocks }

/-- A slot is given back. -/
def released (s : PoolState) (p : ℕ) : PoolState :=
  { s with
    pool := (s.pool.deallocate s.memory p).1
    memory := (s.pool.deallocate s.memory p).2
    out := s.out.erase p }

/-- A byte is written. -/
def written (s : PoolState) (a : ℕ) (byte : UInt8) : PoolState :=
  { s with memory := fun a' => if a' = a then byte else s.memory a' }

/-- A call of `allocate`. -/
inductive Allocates (T : SlotType) (blockSize newBlock : ℕ) (s : PoolState) : PoolState → Prop where
  | reuse (hfree : s.pool.freeSlots ≠ 0) : Allocates T blockSize newBlock s s.reuse
  | bump (hfree : s.pool.freeSlots = 0) (hroom : s.pool.currentSlot < s.pool.lastSlot) :
      Allocates T blockSize newBlock s (s.bump T)
  | opened (hfree : s.pool.freeSlots = 0) (hroom : s.pool.lastSlot ≤ s.pool.currentSlot)
      (hfresh : s.fresh blockSize newBlock = true) :
      Allocates T blockSize newBlock s ((s.opened T blockSize newBlock).bump T)

variable {s s' : PoolState}

lemma allocates_of_step {newBlock : ℕ}
    (h : s.step T blockSize (.allocate newBlock) = some s') :
    s.Allocates T blockSize newBlock s' := by
  rw [step, MemoryPool.allocate, MemoryPool.callsNew] at h
  by_cases hfree : s.pool.freeSlots = 0
  · simp only [if_neg (not_not.mpr hfree), if_pos hfree, decide_eq_true hfree, Bool.true_and] at h
    by_cases hroom : s.pool.lastSlot ≤ s.pool.currentSlot
    · simp only [if_pos hroom, decide_eq_true hroom, Bool.true_and] at h
      cases hfresh : s.fresh blockSize newBlock with
      | false =>
        rw [hfresh] at h
        cases h
      | true =>
        rw [hfresh] at h
        obtain rfl := Option.some.inj h
        exact .opened hfree hroom hfresh
    · simp only [if_neg hroom, decide_eq_false hroom] at h
      obtain rfl := Option.some.inj h
      exact .bump hfree (Nat.lt_of_not_le hroom)
  · simp only [if_pos (show s.pool.freeSlots ≠ 0 from hfree), if_neg hfree,
      decide_eq_false hfree] at h
    obtain rfl := Option.some.inj h
    exact .reuse hfree

lemma released_of_step {p : ℕ} (h : s.step T blockSize (.deallocate p) = some s') :
    p ∈ s.out ∧ s' = s.released p := by
  rw [step] at h
  split_ifs at h with hp
  exact ⟨hp, (Option.some.inj h).symm⟩

lemma written_of_step {a : ℕ} {byte : UInt8}
    (h : s.step T blockSize (.write a byte) = some s') :
    s.writable T blockSize a = true ∧ s' = s.written a byte := by
  rw [step] at h
  split_ifs at h with ha
  exact ⟨ha, (Option.some.inj h).symm⟩

/-! ## The invariant -/

/-- All slots, where `free` are those of the free list. -/
def slots (T : SlotType) (s : PoolState) (free : List ℕ) : List ℕ :=
  s.out ++ free ++ s.pool.unused T

/-- The pool is as its operations suppose it to be. -/
structure Sound (T : SlotType) (blockSize : ℕ) (s : PoolState) (free : List ℕ) : Prop where
  linked : Linked s.memory.pointer s.pool.freeSlots free 0
  apart : (s.slots T free).Pairwise (Apart T.size)
  /-- A slot lies in a block, behind the link of the block. -/
  inside : ∀ p ∈ s.slots T free, ∃ b ∈ s.blocks, b + 8 ≤ p ∧ p + T.size ≤ b + blockSize
  chained : Linked s.memory.pointer s.pool.currentBlock s.blocks 0
  blocksApart : s.blocks.Pairwise (Apart blockSize)
  blocksRange : ∀ b ∈ s.blocks, 0 < b ∧ b + blockSize < 2 ^ 64

lemma sound_init (memory : Memory) : (init memory).Sound T blockSize [] where
  linked := rfl
  apart := by
    rw [slots, MemoryPool.unused_eq_nil le_rfl]
    exact List.Pairwise.nil
  inside := by
    rw [slots, MemoryPool.unused_eq_nil le_rfl]
    exact fun p hp => nomatch hp
  chained := rfl
  blocksApart := List.Pairwise.nil
  blocksRange := fun b hb => nomatch hb

variable {free : List ℕ}

/-- The slots are known up to their order. -/
lemma Sound.of_perm (h : s.Sound T blockSize free) {free' : List ℕ}
    (hperm : (s'.slots T free').Perm (s.slots T free))
    (hlinked : Linked s'.memory.pointer s'.pool.freeSlots free' 0)
    (hchained : Linked s'.memory.pointer s'.pool.currentBlock s'.blocks 0)
    (hblocks : s'.blocks = s.blocks) :
    s'.Sound T blockSize free' where
  linked := hlinked
  apart := (hperm.pairwise_iff fun hpq => Std.Symm.symm _ _ hpq).mpr h.apart
  inside p hp := by
    rw [hblocks]
    exact h.inside p (hperm.mem_iff.mp hp)
  chained := hchained
  blocksApart := by
    rw [hblocks]
    exact h.blocksApart
  blocksRange := by
    rw [hblocks]
    exact h.blocksRange

/-! ### Slots and links -/

lemma Sound.mem_range (h : s.Sound T blockSize free) {p : ℕ} (hp : p ∈ s.slots T free) :
    0 < p ∧ p < 256 ^ 8 := by
  have hsize := T.size_ge
  obtain ⟨b, hb, hlo, hhi⟩ := h.inside p hp
  have hrange := h.blocksRange b hb
  omega

lemma mem_slots_out {p : ℕ} (hp : p ∈ s.out) : p ∈ s.slots T free :=
  List.mem_append_left _ (List.mem_append_left _ hp)

lemma mem_slots_free {p : ℕ} (hp : p ∈ free) : p ∈ s.slots T free :=
  List.mem_append_left _ (List.mem_append_right _ hp)

lemma Sound.zero_notMem (h : s.Sound T blockSize free) : 0 ∉ free :=
  fun h0 => (h.mem_range (mem_slots_free h0)).1.false

lemma Sound.zero_notMem_blocks (h : s.Sound T blockSize free) : 0 ∉ s.blocks :=
  fun h0 => (h.blocksRange 0 h0).1.false

/-- A slot that is handed out overlaps none of the free list. -/
lemma Sound.out_apart_free (h : s.Sound T blockSize free) {p q : ℕ} (hp : p ∈ s.out)
    (hq : q ∈ free) : Apart T.size p q :=
  (List.pairwise_append.mp (List.pairwise_append.mp h.apart).1).2.2 p hp q hq

/-- No slot overlaps the link of a block. -/
lemma Sound.slot_header (h : s.Sound T blockSize free) {p b : ℕ} (hp : p ∈ s.slots T free)
    (hb : b ∈ s.blocks) : b + 8 ≤ p ∨ p + T.size ≤ b := by
  obtain ⟨c, hc, hlo, hhi⟩ := h.inside p hp
  by_cases hbc : b = c
  · exact .inl (hbc ▸ hlo)
  · have hdisjoint : Apart blockSize b c := h.blocksApart.forall hb hc hbc
    have hsize := T.size_ge
    rw [Apart] at hdisjoint
    omega

/-- The links are only in the free slots and at the heads of the blocks. -/
lemma Sound.frame (h : s.Sound T blockSize free) {memory : Memory}
    (hfree : ∀ q ∈ free, ∀ a, q ≤ a → a < q + 8 → memory a = s.memory a)
    (hblocks : ∀ b ∈ s.blocks, ∀ a, b ≤ a → a < b + 8 → memory a = s.memory a) :
    { s with memory }.Sound T blockSize free where
  linked := h.linked.congr fun q hq => Memory.load_congr (hfree q hq)
  apart := h.apart
  inside := h.inside
  chained := h.chained.congr fun b hb => Memory.load_congr (hblocks b hb)
  blocksApart := h.blocksApart
  blocksRange := h.blocksRange

/-! ### The actions keep the invariant -/

lemma Sound.reuse (h : s.Sound T blockSize free) (hfree : s.pool.freeSlots ≠ 0) :
    ∃ rest, s.reuse.Sound T blockSize rest := by
  cases free with
  | nil => exact absurd h.linked hfree
  | cons p rest =>
    obtain ⟨hp, hlinked⟩ := h.linked
    refine ⟨rest, h.of_perm ?_ ?_ h.chained rfl⟩
    · refine List.Perm.append_right (s.pool.unused T) ?_
      show (s.pool.freeSlots :: (s.out ++ rest)).Perm (s.out ++ p :: rest)
      rw [hp]
      exact List.perm_middle.symm
    · show Linked s.memory.pointer (s.memory.pointer s.pool.freeSlots) rest 0
      rwa [hp]

lemma Sound.bump (h : s.Sound T blockSize free) (hroom : s.pool.currentSlot < s.pool.lastSlot) :
    (s.bump T).Sound T blockSize free := by
  refine h.of_perm ?_ h.linked h.chained rfl
  rw [slots, slots, MemoryPool.unused_eq_cons hroom]
  exact List.perm_middle.symm

/-- A slot that is given back becomes the first of the free list. -/
lemma Sound.released (h : s.Sound T blockSize free) {p : ℕ} (hp : p ∈ s.out) :
    (s.released p).Sound T blockSize (p :: free) := by
  have hsize := T.size_ge
  have hpos : p ≠ 0 := (h.mem_range (mem_slots_out hp)).1.ne'
  have hhead : s.pool.freeSlots < 256 ^ 8 :=
    h.linked.begins (fun q hq => (h.mem_range (mem_slots_free hq)).2) (Nat.pow_pos (by omega))
  have hmemory : (s.released p).memory = s.memory.store p 8 s.pool.freeSlots := by
    rw [PoolState.released, MemoryPool.deallocate, if_pos hpos]
  have hpool : (s.released p).pool = { s.pool with freeSlots := p } := by
    rw [PoolState.released, MemoryPool.deallocate, if_pos hpos]
  refine h.of_perm ?_ ?_ ?_ rfl
  · rw [slots, slots, hpool]
    refine List.Perm.append_right (s.pool.unused T) ?_
    show (s.out.erase p ++ p :: free).Perm (s.out ++ free)
    exact List.perm_middle.trans ((List.perm_cons_erase hp).symm.append_right free)
  · rw [hpool, hmemory]
    refine ⟨rfl, ?_⟩
    rw [Memory.pointer, Memory.load_store_self hhead]
    refine h.linked.congr fun q hq => Memory.load_store_of_disjoint ?_
    have hpq := h.out_apart_free hp hq
    rw [Apart] at hpq
    omega
  · rw [hpool, hmemory]
    refine h.chained.congr fun b hb => Memory.load_store_of_disjoint ?_
    have hpb := h.slot_header (mem_slots_out hp) hb
    omega

lemma Sound.written (hB : 2 * T.size ≤ blockSize) (h : s.Sound T blockSize free) {a : ℕ}
    (ha : s.writable T blockSize a = true) (byte : UInt8) :
    (s.written a byte).Sound T blockSize free := by
  have hsize := T.size_ge
  rw [writable, Bool.or_eq_true, List.any_eq_true, List.all_eq_true] at ha
  simp only [Bool.and_eq_true, Bool.or_eq_true, decide_eq_true_eq] at ha
  refine h.frame (fun q hq x hlo hhi => if_neg ?_) (fun b hb x hlo hhi => if_neg ?_)
  · rintro rfl
    rcases ha with ⟨p, hp, hpx, hxp⟩ | hall
    · have hpq := h.out_apart_free hp hq
      rw [Apart] at hpq
      omega
    · obtain ⟨b, hb, hbq, hqb⟩ := h.inside q (mem_slots_free hq)
      have hxb := hall b hb
      omega
  · rintro rfl
    rcases ha with ⟨p, hp, hpx, hxp⟩ | hall
    · have hpb := h.slot_header (mem_slots_out hp) hb
      omega
    · have hxb := hall b hb
      omega

lemma fresh_iff {newBlock : ℕ} : s.fresh blockSize newBlock = true ↔
    0 < newBlock ∧ newBlock + blockSize < 2 ^ 64 ∧ 16 ∣ newBlock ∧
      ∀ b ∈ s.blocks, Apart blockSize newBlock b := by
  simp [fresh, Apart, and_assoc, Nat.dvd_iff_mod_eq_zero]

/-- There is room for a slot in a block that is opened. -/
lemma opened_room (hB : T.align + 8 + T.size ≤ blockSize) (newBlock : ℕ) :
    (s.opened T blockSize newBlock).pool.currentSlot <
      (s.opened T blockSize newBlock).pool.lastSlot := by
  show newBlock + 8 + (T.align - (newBlock + 8) % T.align) < newBlock + blockSize - T.size + 1
  omega

/-- The slots of a block that is opened lie in the block, behind its link. -/
lemma mem_unused_opened (hB : T.align + 8 + T.size ≤ blockSize) {newBlock p : ℕ}
    (hp : p ∈ (s.opened T blockSize newBlock).pool.unused T) :
    newBlock + 8 ≤ p ∧ p + T.size ≤ newBlock + blockSize := by
  obtain ⟨hlo, hhi⟩ := MemoryPool.mem_unused hp
  have hlo' : newBlock + 8 + (T.align - (newBlock + 8) % T.align) ≤ p := hlo
  have hhi' : p < newBlock + blockSize - T.size + 1 := hhi
  omega

lemma Sound.free_eq_nil (h : s.Sound T blockSize free) (hfree : s.pool.freeSlots = 0) :
    free = [] := by
  have hlinked := h.linked
  rw [hfree] at hlinked
  exact hlinked.eq_nil h.zero_notMem

lemma Sound.currentBlock_lt (h : s.Sound T blockSize free) : s.pool.currentBlock < 256 ^ 8 := by
  refine h.chained.begins (fun b hb => ?_) (Nat.pow_pos (by omega))
  have hrange := h.blocksRange b hb
  omega

/-- A new block has all its slots unused. -/
lemma Sound.opened (hB : T.align + 8 + T.size ≤ blockSize) (h : s.Sound T blockSize free)
    (hfree : s.pool.freeSlots = 0) (hroom : s.pool.lastSlot ≤ s.pool.currentSlot) {newBlock : ℕ}
    (hfresh : s.fresh blockSize newBlock = true) :
    (s.opened T blockSize newBlock).Sound T blockSize [] := by
  obtain ⟨hpos, hrange, -, hdisjoint⟩ := fresh_iff.mp hfresh
  obtain rfl := h.free_eq_nil hfree
  have hslots : s.slots T [] = s.out := by
    rw [slots, MemoryPool.unused_eq_nil hroom, List.append_nil, List.append_nil]
  have hslots' : (s.opened T blockSize newBlock).slots T [] =
      s.out ++ (s.opened T blockSize newBlock).pool.unused T := by
    rw [slots, List.append_nil]
    rfl
  have hapart := h.apart
  have hinside := h.inside
  rw [hslots] at hapart hinside
  refine ⟨hfree, ?_, ?_, ?_, List.Pairwise.cons hdisjoint h.blocksApart, ?_⟩
  · rw [hslots']
    refine List.pairwise_append.mpr ⟨hapart, MemoryPool.unused_apart _, fun p hp q hq => ?_⟩
    obtain ⟨b, hb, hlo, hhi⟩ := hinside p hp
    obtain ⟨hlo', hhi'⟩ := mem_unused_opened hB hq
    have hnew := hdisjoint b hb
    rw [Apart] at hnew ⊢
    omega
  · rw [hslots']
    intro p hp
    rcases List.mem_append.mp hp with hp | hp
    · obtain ⟨b, hb, hin⟩ := hinside p hp
      exact ⟨b, List.mem_cons_of_mem _ hb, hin⟩
    · exact ⟨newBlock, List.mem_cons_self .., mem_unused_opened hB hp⟩
  · refine ⟨rfl, ?_⟩
    have hlink : (s.opened T blockSize newBlock).memory.pointer newBlock = s.pool.currentBlock :=
      Memory.load_store_self h.currentBlock_lt
    rw [hlink]
    refine h.chained.congr fun b hb => Memory.load_store_of_disjoint ?_
    have hnew := hdisjoint b hb
    rw [Apart] at hnew
    omega
  · intro b hb
    rcases List.mem_cons.mp hb with rfl | hb
    · exact ⟨hpos, hrange⟩
    · exact h.blocksRange b hb

/-- What `allocate` keeps. -/
lemma Sound.allocates (hB : T.align + 8 + T.size ≤ blockSize) (h : s.Sound T blockSize free)
    {newBlock : ℕ} (hstep : s.Allocates T blockSize newBlock s') :
    ∃ rest, s'.Sound T blockSize rest := by
  cases hstep with
  | reuse hfree => exact h.reuse hfree
  | bump hfree hroom => exact ⟨free, h.bump hroom⟩
  | opened hfree hroom hfresh =>
    exact ⟨[], (h.opened hB hfree hroom hfresh).bump (opened_room hB newBlock)⟩

/-- One action. -/
lemma Sound.step (hB : T.align + 8 + T.size ≤ blockSize) (hB' : 2 * T.size ≤ blockSize)
    {a : PoolAction} (h : s.Sound T blockSize free) (hstep : s.step T blockSize a = some s') :
    ∃ rest, s'.Sound T blockSize rest := by
  cases a with
  | allocate newBlock => exact h.allocates hB (allocates_of_step hstep)
  | deallocate p =>
    obtain ⟨hp, rfl⟩ := released_of_step hstep
    exact ⟨p :: free, h.released hp⟩
  | write a byte =>
    obtain ⟨ha, rfl⟩ := written_of_step hstep
    exact ⟨free, h.written hB' ha byte⟩

/-- Every run. -/
theorem sound_of_run (hB : T.align + 8 + T.size ≤ blockSize) (hB' : 2 * T.size ≤ blockSize)
    {memory : Memory} {as : List PoolAction}
    (hrun : (poolMachine T blockSize).run (init memory) as = some s) :
    ∃ free, s.Sound T blockSize free :=
  Machine.run_invariant (I := fun s : PoolState => ∃ free, s.Sound T blockSize free)
    (fun _ _ _ ⟨_, h⟩ hstep => h.step hB hB' hstep) ⟨[], sound_init memory⟩ hrun

/-! ## What is handed out -/

/-- What `allocate` returns is a slot of the state it leaves. -/
lemma Allocates.out_eq {newBlock : ℕ} (h : s.Allocates T blockSize newBlock s') :
    ∃ p, s'.out = p :: s.out := by
  cases h with
  | reuse => exact ⟨_, rfl⟩
  | bump => exact ⟨_, rfl⟩
  | opened => exact ⟨_, rfl⟩

/-- **No slot twice.**  In a pool of blocks of 4096 bytes, no two of the slots that are handed out,
in the free list or not yet used overlap, after any run; the free list ends and repeats nothing; and
`allocate` returns a slot that is not handed out and overlaps none that is. -/
theorem slots_partitioned (hT : 2 * T.size ≤ 4096) {memory : Memory} {as : List PoolAction}
    (hrun : (poolMachine T 4096).run (init memory) as = some s) :
    (∃ free, Linked s.memory.pointer s.pool.freeSlots free 0 ∧ 0 ∉ free ∧ free.Nodup ∧
      (s.out ++ free ++ s.pool.unused T).Pairwise (Apart T.size)) ∧
    ∀ newBlock s', (poolMachine T 4096).step s (.allocate newBlock) = some s' →
      ∃ p, s'.out = p :: s.out ∧ p ∉ s.out ∧ ∀ q ∈ s.out, Apart T.size p q := by
  have hsize := T.size_ge
  have halign := T.align_le
  have hB : T.align + 8 + T.size ≤ 4096 := by omega
  obtain ⟨free, hsound⟩ := sound_of_run hB hT hrun
  refine ⟨⟨free, hsound.linked, hsound.zero_notMem,
    hsound.linked.nodup hsound.zero_notMem, hsound.apart⟩, fun newBlock s' hstep => ?_⟩
  have hallocates := allocates_of_step hstep
  obtain ⟨p, hout⟩ := hallocates.out_eq
  obtain ⟨rest, hsound'⟩ := hsound.allocates hB hallocates
  have hnew : ∀ q ∈ s.out, Apart T.size p q := by
    have hpairwise := (List.pairwise_append.mp (List.pairwise_append.mp hsound'.apart).1).1
    rw [hout] at hpairwise
    exact fun q hq => List.rel_of_pairwise_cons hpairwise hq
  exact ⟨p, hout, fun hp => (hnew p hp).ne (by omega) rfl, hnew⟩

/-- The slots of a pool of pointers. -/
def wordSlot : SlotType := ⟨8, 8, le_rfl, by omega, by omega, Nat.dvd_refl 8⟩

/-- Two slots are handed out, and the first is given back and handed out again. -/
theorem slots_partitioned_wordSlot :
    ∃ s, (poolMachine wordSlot 4096).run (init fun _ => 0)
        [.allocate 4096, .allocate 0, .deallocate 4112, .allocate 0] = some s ∧
      ∃ free, Linked s.memory.pointer s.pool.freeSlots free 0 ∧ 0 ∉ free ∧ free.Nodup ∧
        (s.out ++ free ++ s.pool.unused wordSlot).Pairwise (Apart 8) := by
  have hsome : ((poolMachine wordSlot 4096).run (init fun _ => 0)
      [.allocate 4096, .allocate 0, .deallocate 4112, .allocate 0]).isSome = true := by
    decide +kernel
  obtain ⟨s, hs⟩ := Option.isSome_iff_exists.mp hsome
  have hsize : 2 * wordSlot.size ≤ 4096 := by decide
  exact ⟨s, hs, (slots_partitioned hsize hs).1⟩

end PoolState

/-! ## The destructor -/

/-- The loop of `~MemoryPool` goes along the links. -/
lemma MemoryPool.destruct_of_linked (memory : Memory) {blocks : List ℕ} {curr : ℕ}
    (h : Linked memory.pointer curr blocks 0) (h0 : 0 ∉ blocks) :
    destruct memory blocks.length curr = some blocks := by
  induction blocks generalizing curr with
  | nil =>
    obtain rfl : curr = 0 := h
    rfl
  | cons b blocks ih =>
    obtain ⟨rfl, h⟩ := h
    obtain ⟨hne, h0⟩ := List.ne_and_not_mem_of_not_mem_cons h0
    have hrest : destruct memory blocks.length (memory.load curr 8) = some blocks := ih h h0
    rw [List.length_cons, destruct, if_neg hne.symm]
    show (destruct memory blocks.length (memory.load curr 8)).map (curr :: ·) = _
    rw [hrest]
    rfl

/-- `~MemoryPool` deletes every block once, after any run. -/
theorem PoolState.destruct_blocks {s : PoolState} (hB : T.align + 8 + T.size ≤ blockSize)
    (hB' : 2 * T.size ≤ blockSize) {memory : Memory} {as : List PoolAction}
    (hrun : (poolMachine T blockSize).run (init memory) as = some s) :
    MemoryPool.destruct s.memory s.blocks.length s.pool.currentBlock = some s.blocks ∧
      s.blocks.Nodup := by
  obtain ⟨free, h⟩ := sound_of_run hB hB' hrun
  exact ⟨MemoryPool.destruct_of_linked s.memory h.chained h.zero_notMem_blocks,
    h.chained.nodup h.zero_notMem_blocks⟩

end CoroutineGateway
