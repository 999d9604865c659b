import Mathlib.Algebra.Group.Nat.Defs
import Mathlib.Data.Nat.Basic

/-!
# Memory as bytes

A memory maps addresses to bytes.  A number that is stored takes up several bytes, the lowest one
first, and is read back from the same ones (`load_store_self`); a store leaves alone what lies
beside it (`load_store_of_disjoint`).
-/

namespace CoroutineGateway

/-- The bytes at all addresses. -/
abbrev Memory : Type := ℕ → UInt8

namespace Memory

/-- The number in the `w` bytes from `p` on. -/
def load (m : Memory) (p : ℕ) : ℕ → ℕ
  | 0 => 0
  | w + 1 => (m p).toNat + 256 * m.load (p + 1) w

/-- The memory after `v` has been stored in the `w` bytes from `p` on. -/
def store (m : Memory) (p w v : ℕ) : Memory :=
  fun a => if p ≤ a ∧ a < p + w then UInt8.ofNat (v / 256 ^ (a - p)) else m a

variable {m m' : Memory} {p q v w w' : ℕ}

lemma load_congr (h : ∀ a, p ≤ a → a < p + w → m' a = m a) : m'.load p w = m.load p w := by
  induction w generalizing p with
  | zero => rfl
  | succ w ih =>
    rw [load, load, h p le_rfl (by omega), ih fun a hlo hhi => h a (by omega) (by omega)]

/-- A store is seen only where it is made. -/
lemma store_of_notMem {a : ℕ} (h : a < p ∨ p + w ≤ a) : m.store p w v a = m a :=
  if_neg (by omega)

lemma load_store_of_disjoint (h : p + w ≤ q ∨ q + w' ≤ p) :
    (m.store p w v).load q w' = m.load q w' :=
  load_congr fun _ hlo hhi => store_of_notMem (by omega)

/-- The bytes of a number are the number. -/
lemma load_bytes (h : ∀ i < w, m (p + i) = UInt8.ofNat (v / 256 ^ i)) :
    m.load p w = v % 256 ^ w := by
  induction w generalizing p v with
  | zero => rw [load, pow_zero, Nat.mod_one]
  | succ w ih =>
    have hrest : m.load (p + 1) w = v / 256 % 256 ^ w := by
      refine ih fun i hi => ?_
      rw [Nat.add_assoc, Nat.add_comm 1 i, h (i + 1) (by omega), Nat.div_div_eq_div_mul, pow_succ']
    have hfirst : (m p).toNat = v % 256 := by
      have h0 := h 0 (by omega)
      rw [pow_zero, Nat.div_one, Nat.add_zero] at h0
      rw [h0, UInt8.toNat_ofNat']
    rw [load, hfirst, hrest, pow_succ', Nat.mod_mul]

/-- What is stored is read back. -/
theorem load_store_self (hv : v < 256 ^ w) : (m.store p w v).load p w = v := by
  have hbytes : (m.store p w v).load p w = v % 256 ^ w :=
    load_bytes fun i hi => by rw [store, if_pos (by omega), Nat.add_sub_cancel_left]
  rw [hbytes, Nat.mod_eq_of_lt hv]

-- a number that is read is not to be taken apart where two states are compared
attribute [irreducible] load

end Memory

end CoroutineGateway
