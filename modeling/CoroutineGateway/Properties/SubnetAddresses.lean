import CoroutineGateway.Framework.Subnet
import CoroutineGateway.Properties.ByteOrder

/-!
# Subnets of addresses

`CreateMask` sets the bits behind the prefix (`getMsbD_createMask`).  `broadcastAddress` puts them
into the address and `subnetMask` is their complement, but `networdAddress` cuts the address with
`CreateMask` itself and so keeps the host where the network is asked for.  That gives the network
for `0.0.0.0` and the prefix length 32 alone, and for no IPv6 address (`subnets_consistent_iff`).
-/

namespace CoroutineGateway

open Subnet (prefixMask)

/-- The bits behind the prefix are set, and no others. -/
lemma getMsbD_createMask {w b i : ℕ} (hw : w ≤ 32) (hb : w - b < 32) (hi : i < w) :
    (createMask w b).getMsbD i = decide (b ≤ i) := by
  have hpow : 2 ^ (w - b) < 2 ^ 32 := Nat.pow_lt_pow_right (by decide) hb
  have hpos : 0 < 2 ^ (w - b) := Nat.two_pow_pos _
  have hones : ((1#32 <<< (w - b)) - 1#32).toNat = 2 ^ (w - b) - 1 := by
    rw [BitVec.toNat_sub, BitVec.toNat_shiftLeft]
    simp only [BitVec.toNat_ofNat, Nat.shiftLeft_eq]
    omega
  rw [createMask, BitVec.getMsbD_eq_getLsbD, BitVec.getLsbD_setWidth, ← BitVec.testBit_toNat, hones,
    Nat.testBit_two_pow_sub_one, decide_eq_true hi, decide_eq_true (by omega : w - 1 - i < w),
    Bool.true_and, Bool.true_and, decide_eq_decide]
  omega

/-- Any bits are those of a bit vector. -/
lemma exists_getMsbD {n : ℕ} (x : Subnet.Bits n) :
    ∃ v : BitVec n, ∀ i : Fin n, v.getMsbD i = x i := by
  refine ⟨(BitVec.ofBoolListBE (List.ofFn x)).cast List.length_ofFn, fun i => ?_⟩
  have hi : i.val < (List.ofFn x).length := List.length_ofFn.symm ▸ i.isLt
  rw [BitVec.getMsbD_cast, BitVec.getMsbD_ofBoolListBE, List.getD_eq_getElem?_getD,
    List.getElem?_eq_getElem hi, Option.getD_some, List.getElem_ofFn]

/-! ## Four bytes -/

namespace IPv4Address

/-- The prefix lengths of an IPv4 network. -/
abbrev PrefixLen : Type := {p : ℕ // 1 ≤ p ∧ p ≤ 32}

/-- The address as a bit string. -/
def bits (a : IPv4Address) : Subnet.Bits 32 := fun i => a.addr.toBitVec.getMsbD i

variable {a : IPv4Address} {p : PrefixLen}

/-- `networdAddress`, `broadcastAddress` and `subnetMask` are consistent. -/
def SubnetConsistent (a : IPv4Address) (p : PrefixLen) : Prop :=
  Subnet.Consistent bits (networdAddress · p) (broadcastAddress · p) (subnetMask p) p a

lemma getMsbD_hostMask (p : PrefixLen) (i : Fin 32) :
    (createMask 32 p).getMsbD i = (prefixMask 32 p)ᶜ i := by
  have hp := p.property
  rw [getMsbD_createMask (by omega) (by omega) i.isLt, Pi.compl_apply, prefixMask]
  simp [← decide_not]

lemma bits_surjective : Function.Surjective bits := by
  intro x
  obtain ⟨v, hv⟩ := exists_getMsbD x
  refine ⟨ofAddress ⟨v⟩ 0, funext fun i => ?_⟩
  have haddr : (ofAddress ⟨v⟩ 0).addr = ⟨v⟩ := byteswap32_byteswap32 ⟨v⟩
  rw [bits, haddr]
  exact hv i

lemma bits_eq_bot_iff : a.bits = ⊥ ↔ a.sAddr = 0 := by
  constructor
  · intro h
    have haddr : a.addr = 0 := by
      refine UInt32.toBitVec_inj.mp (BitVec.eq_of_getMsbD_eq fun i hi => ?_)
      have hbit : a.addr.toBitVec.getMsbD i = false := congrFun h ⟨i, hi⟩
      simp [hbit]
    rw [← byteswap32_byteswap32 a.sAddr, show byteswap32 a.sAddr = 0 from haddr]
    rfl
  · intro h
    funext i
    have haddr : a.addr = 0 := by rw [addr, h]; rfl
    simp [bits, haddr]

lemma bits_subnetMask (p : PrefixLen) : (subnetMask p).bits = prefixMask 32 p := by
  funext i
  have haddr : (subnetMask p).addr = ~~~⟨createMask 32 p⟩ := by
    rw [addr, subnetMask, ← byteswap32_not, byteswap32_byteswap32]
  have hmask := getMsbD_hostMask p i
  rw [bits, haddr, UInt32.toBitVec_not, BitVec.getMsbD_not, hmask]
  simp

/-- The host is kept, not the network. -/
lemma bits_networdAddress (p : PrefixLen) (a : IPv4Address) :
    ∃ c, a.networdAddress p = some c ∧ c.bits = a.bits ⊓ (prefixMask 32 p)ᶜ := by
  have hp : ¬p.val > 32 := Nat.not_lt.mpr p.property.2
  refine ⟨_, if_neg hp, funext fun i => ?_⟩
  rw [Pi.inf_apply, ← getMsbD_hostMask, bits, addr]
  dsimp only
  rw [byteswap32_and, byteswap32_byteswap32, UInt32.toBitVec_and, BitVec.getMsbD_and]
  rfl

lemma bits_broadcastAddress (p : PrefixLen) (a : IPv4Address) :
    ∃ c, a.broadcastAddress p = some c ∧ c.bits = a.bits ⊔ (prefixMask 32 p)ᶜ := by
  have hp : ¬p.val > 32 := Nat.not_lt.mpr p.property.2
  refine ⟨_, if_neg hp, funext fun i => ?_⟩
  rw [Pi.sup_apply, ← getMsbD_hostMask, bits, addr]
  dsimp only
  rw [byteswap32_or, byteswap32_byteswap32, UInt32.toBitVec_or, BitVec.getMsbD_or]
  rfl

lemma networdAddress_networdAddress {c : IPv4Address} (h : a.networdAddress p = some c) :
    c.networdAddress p = some c := by
  have hp : ¬p.val > 32 := Nat.not_lt.mpr p.property.2
  rw [networdAddress, if_neg hp, Option.some_inj] at h
  rw [networdAddress, if_neg hp, ← h, UInt32.and_assoc, UInt32.and_self]

lemma subnetConsistent_iff (a : IPv4Address) (p : PrefixLen) :
    a.SubnetConsistent p ↔ a.sAddr = 0 ∧ p.val = 32 := by
  have hall : (prefixMask 32 p)ᶜ ≤ prefixMask 32 p ↔ p.val = 32 := by
    have hp := p.property
    rw [← disjoint_compl_left_iff, disjoint_self, compl_eq_bot, Subnet.prefixMask_eq_top_iff]
    omega
  rw [SubnetConsistent, Subnet.consistent_iff bits_surjective (bits_subnetMask p)
    (bits_networdAddress p) (fun _ _ => networdAddress_networdAddress) (bits_broadcastAddress p),
    compl_symmDiff_self, inf_top_eq, bits_eq_bot_iff, hall]

end IPv4Address

/-! ## Sixteen bytes -/

namespace IPv6Address

lemma byte_lt (i : Fin 128) : i.val / 8 < 16 := by omega

/-- The address as a bit string. -/
def bits (a : IPv6Address) : Subnet.Bits 128 :=
  fun i => (a.s6Addr ⟨i.val / 8, byte_lt i⟩).toBitVec.getMsbD (i.val % 8)

variable {a : IPv6Address} {p : Fin 128}

/-- `networdAddress`, `broadcastAddress` and `subnetMask` are consistent. -/
def SubnetConsistent (a : IPv6Address) (p : Fin 128) : Prop :=
  Subnet.Consistent bits (networdAddress · p) (broadcastAddress · p) (subnetMask p) p a

/-- The bits `networdAddress` keeps: all bytes in front of that of the prefix, and in that byte the
host. -/
def keptMask (p : Fin 128) : Subnet.Bits 128 :=
  fun i => decide (i.val / 8 < p.val / 8 ∨ i.val / 8 = p.val / 8 ∧ p ≤ i)

lemma bits_surjective : Function.Surjective bits := by
  intro x
  have hbyte (k : Fin 16) : ∃ v : BitVec 8, ∀ j : Fin 8, v.getMsbD j = x ⟨8 * k + j, by omega⟩ :=
    exists_getMsbD fun j : Fin 8 => x ⟨8 * k + j, by omega⟩
  choose v hv using hbyte
  refine ⟨⟨fun k => ⟨v k⟩, 0⟩, funext fun i => ?_⟩
  have hbit := hv ⟨i / 8, by omega⟩ ⟨i % 8, by omega⟩
  rw [bits]
  dsimp only
  rw [hbit]
  congr 1
  exact Fin.ext (Nat.div_add_mod i.val 8)

/-- The bits of the byte in which the prefix ends. -/
lemma getMsbD_hostMask (p i : Fin 128) (h : i.val / 8 = p.val / 8) :
    (createMask 8 (p.val % 8)).getMsbD (i.val % 8) = decide (p ≤ i) := by
  rw [getMsbD_createMask (by omega) (by omega) (by omega), decide_eq_decide, Fin.le_def]
  omega

/-- Writing one byte and all bytes behind it. -/
lemma tail_update (f : Fin 16 → UInt8) (v r : UInt8) (j k : Fin 16) :
    (if k < j then r else Function.update f k v j) =
      if j < k then f j else if j = k then v else r := by
  obtain hlt | rfl | hgt := lt_trichotomy j k
  · rw [if_neg hlt.asymm, if_pos hlt, Function.update_of_ne hlt.ne]
  · rw [if_neg (lt_irrefl _), if_neg (lt_irrefl _), if_pos rfl, Function.update_self]
  · rw [if_pos hgt, if_neg hgt.asymm, if_neg hgt.ne']

lemma bits_subnetMask (p : Fin 128) : (subnetMask p).bits = prefixMask 128 p := by
  funext i
  rw [bits, subnetMask, prefixMask]
  simp only [Function.update_apply, Fin.mk_lt_mk, Fin.mk.injEq]
  split_ifs with hlt heq
  · rw [decide_eq_true (by omega : i.val < p.val)]
    have hones : ∀ j < 8, (0xff : UInt8).toBitVec.getMsbD j = true := by decide
    exact hones _ (by omega)
  · rw [UInt8.toBitVec_not, BitVec.getMsbD_not, getMsbD_hostMask p i heq,
      decide_eq_true (by omega : i.val % 8 < 8), Bool.true_and, ← decide_not, decide_eq_decide,
      Fin.not_le, Fin.lt_def]
  · rw [decide_eq_false (by omega : ¬i.val < p.val)]
    simp

/-- In the byte of the prefix the host is kept, not the network. -/
lemma bits_networdAddress (p : Fin 128) (a : IPv6Address) :
    ∃ c, a.networdAddress p = some c ∧ c.bits = a.bits ⊓ keptMask p := by
  refine ⟨_, rfl, funext fun i => ?_⟩
  rw [Pi.inf_apply, bits, bits, keptMask]
  dsimp only
  rw [tail_update]
  simp only [Fin.mk_lt_mk, Fin.mk.injEq]
  split_ifs with hlt heq
  · simp [hlt]
  · rw [UInt8.toBitVec_and, BitVec.getMsbD_and, getMsbD_hostMask p i heq]
    simp [heq]
  · simp [hlt, heq]

lemma bits_broadcastAddress (p : Fin 128) (a : IPv6Address) :
    ∃ c, a.broadcastAddress p = some c ∧ c.bits = a.bits ⊔ (prefixMask 128 p)ᶜ := by
  refine ⟨_, rfl, funext fun i => ?_⟩
  rw [Pi.sup_apply, Pi.compl_apply, bits, bits, prefixMask]
  dsimp only
  rw [tail_update]
  simp only [Fin.mk_lt_mk, Fin.mk.injEq]
  split_ifs with hlt heq
  · rw [decide_eq_true (by omega : i.val < p.val)]
    simp
  · rw [UInt8.toBitVec_or, BitVec.getMsbD_or, getMsbD_hostMask p i heq]
    simp [heq, ← decide_not]
  · rw [decide_eq_false (by omega : ¬i.val < p.val)]
    have hones : ∀ j < 8, (0xff : UInt8).toBitVec.getMsbD j = true := by decide
    rw [hones _ (by omega)]
    simp

lemma networdAddress_networdAddress {c : IPv6Address} (h : a.networdAddress p = some c) :
    c.networdAddress p = some c := by
  obtain rfl := Option.some_inj.mp h
  rw [networdAddress, Option.some_inj, IPv6Address.mk.injEq]
  refine ⟨funext fun j => ?_, rfl⟩
  simp only [tail_update, lt_irrefl, if_false, Function.update_self, UInt8.and_assoc,
    UInt8.and_self]
  split_ifs <;> rfl

/-- The first bit behind the prefix is kept, so that the network depends on the host. -/
lemma not_subnetConsistent (a : IPv6Address) (p : Fin 128) : ¬a.SubnetConsistent p := by
  rw [SubnetConsistent, Subnet.consistent_iff bits_surjective (bits_subnetMask p)
    (bits_networdAddress p) (fun _ _ => networdAddress_networdAddress) (bits_broadcastAddress p)]
  rintro ⟨-, hle⟩
  have hbit : decide (p.val < p.val) = true := hle p (decide_eq_true (Or.inr ⟨rfl, le_rfl⟩))
  simp at hbit

end IPv6Address

/-- **Subnet arithmetic.** The three methods are consistent at an IPv4 address exactly for `0.0.0.0`
and the prefix length 32, and at no IPv6 address. -/
theorem subnets_consistent_iff (a : IPv4Address) (p : IPv4Address.PrefixLen) (b : IPv6Address)
    (q : Fin 128) :
    (a.SubnetConsistent p ↔ a.sAddr = 0 ∧ p.val = 32) ∧ ¬b.SubnetConsistent q :=
  ⟨a.subnetConsistent_iff p, b.not_subnetConsistent q⟩

/-- The network of `192.168.1.100/24` is given as `0.0.0.100`. -/
theorem privateAddress_subnetInconsistent :
    (IPv4Address.ofAddress 0xc0a80164 80).networdAddress 24 = some (.ofAddress 0x00000064 80) ∧
    ¬(IPv4Address.ofAddress 0xc0a80164 80).SubnetConsistent ⟨24, by decide⟩ := by
  refine ⟨rfl, fun h => ?_⟩
  have heq : (24 : ℕ) = 32 := ((IPv4Address.subnetConsistent_iff _ _).mp h).2
  omega

end CoroutineGateway
