import Mathlib.Order.SymmDiff

/-!
# Subnets

Addresses are bit strings, and a prefix length `p` is the mask of the first `p` bits.  What lies
under the mask is the network of an address, and the broadcast address fills up the rest.

Both are facts about a mask in a Boolean algebra.  Cutting with `w` where `m` is meant is right for
`x` alone if `x` has nothing where the two differ (`inf_eq_inf_iff`), and depends on what lies under
`m` alone if `w` lies under `m` (`forall_inf_eq_iff`).  `consistent_iff` puts the two together for
operations on addresses which cut with `w`.
-/

namespace CoroutineGateway

namespace Subnet

open scoped symmDiff

/-! ## Masks -/

section Masks

variable {α : Type*} [BooleanAlgebra α] {m w x y : α}

/-- Filling up what the mask leaves out forgets it. -/
lemma sup_compl_eq (h : x ⊓ m = y ⊓ m) : x ⊔ mᶜ = y ⊔ mᶜ := by
  have hcut (z : α) : z ⊔ mᶜ = z ⊓ m ⊔ mᶜ := by
    rw [sup_inf_right, sup_compl_eq_top, inf_top_eq]
  rw [hcut x, hcut y, h]

/-- Another mask cuts the same out of `x`. -/
lemma inf_eq_inf_iff : x ⊓ w = x ⊓ m ↔ x ⊓ w ∆ m = ⊥ := by
  rw [inf_symmDiff_distrib_left, symmDiff_eq_bot]

/-- Another mask cuts the same out of all that agree under `m`. -/
theorem forall_inf_eq_iff (x : α) : (∀ y, y ⊓ m = x ⊓ m → y ⊓ w = x ⊓ w) ↔ w ≤ m := by
  constructor
  · intro h
    -- The element with everything outside the mask turned over.
    have hagree : x ∆ mᶜ ⊓ m = x ⊓ m := by
      rw [inf_symmDiff_distrib_right, compl_inf_eq_bot, symmDiff_bot]
    have hflip := h (x ∆ mᶜ) hagree
    rw [inf_symmDiff_distrib_right, symmDiff_eq_left, ← disjoint_iff] at hflip
    exact disjoint_compl_left_iff.mp hflip
  · intro hw y h
    rw [← inf_eq_right.mpr hw, ← inf_assoc, ← inf_assoc, h]

end Masks

/-! ## Bit strings -/

/-- `n` bits, the most significant one first. -/
abbrev Bits (n : ℕ) : Type := Fin n → Bool

/-- The mask of the first `p` bits. -/
def prefixMask (n p : ℕ) : Bits n := fun i => decide (i.val < p)

variable {n p : ℕ} {x y w : Bits n}

lemma inf_prefixMask_eq_iff :
    x ⊓ prefixMask n p = y ⊓ prefixMask n p ↔ ∀ i : Fin n, i.val < p → x i = y i := by
  have hbit (z : Bits n) (i : Fin n) : (z ⊓ prefixMask n p) i = (z i && decide (i.val < p)) := rfl
  constructor
  · intro h i hi
    have heq := congrFun h i
    rwa [hbit, hbit, decide_eq_true hi, Bool.and_true, Bool.and_true] at heq
  · intro h
    funext i
    rw [hbit, hbit]
    by_cases hi : i.val < p
    · rw [h i hi]
    · rw [decide_eq_false hi, Bool.and_false, Bool.and_false]

lemma prefixMask_eq_top_iff : prefixMask n p = ⊤ ↔ n ≤ p := by
  constructor
  · intro h
    by_contra hlt
    have heq : decide (p < p) = true := congrFun h ⟨p, Nat.not_le.mp hlt⟩
    simp at heq
  · intro h
    funext i
    exact decide_eq_true (i.isLt.trans_le h)

/-! ## Operations on addresses -/

/-- The subnet arithmetic at an address and a prefix length: the network is the address AND the
mask, the broadcast address is the address OR the complement of the mask, the network of the network
is the network, and the two are the same for whatever agrees on the first `p` bits. -/
structure Consistent {A : Type*} (bits : A → Bits n) (network broadcast : A → Option A) (mask : A)
    (p : ℕ) (a : A) : Prop where
  network_eq : ∃ c, network a = some c ∧ bits c = bits a ⊓ bits mask
  broadcast_eq : ∃ c, broadcast a = some c ∧ bits c = bits a ⊔ (bits mask)ᶜ
  network_network : ∀ c, network a = some c → network c = some c
  network_agree : ∀ b, (∀ i : Fin n, i.val < p → bits b i = bits a i) →
    (network b).map bits = (network a).map bits
  broadcast_agree : ∀ b, (∀ i : Fin n, i.val < p → bits b i = bits a i) →
    (broadcast b).map bits = (broadcast a).map bits

/-- Operations which cut with `w` for the network are consistent at an address if it has nothing
where `w` and the mask of the prefix differ, and `w` does not reach beyond the prefix. -/
theorem consistent_iff {A : Type*} {bits : A → Bits n} {network broadcast : A → Option A} {mask : A}
    (hbits : Function.Surjective bits) (hmask : bits mask = prefixMask n p)
    (hnetwork : ∀ a, ∃ c, network a = some c ∧ bits c = bits a ⊓ w)
    (hagain : ∀ a c, network a = some c → network c = some c)
    (hbroadcast : ∀ a, ∃ c, broadcast a = some c ∧ bits c = bits a ⊔ (prefixMask n p)ᶜ) (a : A) :
    Consistent bits network broadcast mask p a ↔
      bits a ⊓ w ∆ prefixMask n p = ⊥ ∧ w ≤ prefixMask n p := by
  have hmapn (b : A) : (network b).map bits = some (bits b ⊓ w) := by
    obtain ⟨c, hc, hcut⟩ := hnetwork b
    rw [hc, Option.map_some, hcut]
  have hmapb (b : A) : (broadcast b).map bits = some (bits b ⊔ (prefixMask n p)ᶜ) := by
    obtain ⟨c, hc, hfill⟩ := hbroadcast b
    rw [hc, Option.map_some, hfill]
  constructor
  · intro h
    obtain ⟨c, hc, hcut⟩ := h.network_eq
    have hw := hmapn a
    rw [hc, Option.map_some, hcut, hmask, Option.some_inj] at hw
    refine ⟨inf_eq_inf_iff.mp hw.symm, (forall_inf_eq_iff (bits a)).mp fun y hy => ?_⟩
    obtain ⟨b, rfl⟩ := hbits y
    have hagree := h.network_agree b (inf_prefixMask_eq_iff.mp hy)
    rwa [hmapn, hmapn, Option.some_inj] at hagree
  · rintro ⟨hself, hw⟩
    refine ⟨?_, ?_, hagain a, fun b hb => ?_, fun b hb => ?_⟩
    · obtain ⟨c, hc, hcut⟩ := hnetwork a
      exact ⟨c, hc, by rw [hcut, hmask, inf_eq_inf_iff.mpr hself]⟩
    · rw [hmask]
      exact hbroadcast a
    · rw [hmapn, hmapn, (forall_inf_eq_iff _).mpr hw _ (inf_prefixMask_eq_iff.mpr hb)]
    · rw [hmapb, hmapb, sup_compl_eq (inf_prefixMask_eq_iff.mpr hb)]

end Subnet

end CoroutineGateway
