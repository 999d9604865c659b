import CoroutineGateway.Framework.Text

/-!
# Base64

The encoding of byte strings by the 64 symbols of an alphabet and a padding symbol: three bytes
become four symbols, and one or two bytes at the end become two or three symbols and padding.

`decode_encode` is the round trip.  `Padded` says what an encoding looks like: symbols of the
alphabet, and after them the padding that makes the length a multiple of four (`padded_encode`).
-/

namespace CoroutineGateway

namespace Base64

/-- The symbols, in the order of their values. -/
def alphabet : Bytes := ascii "ABCDEFGHIJKLMNOPQRSTUVWXYZabcdefghijklmnopqrstuvwxyz0123456789+/"

/-- `'='` -/
abbrev pad : UInt8 := 61

/-- The symbol of a value. -/
def symbol (n : ℕ) : UInt8 := alphabet.getD n pad

/-- The value of a symbol. -/
def value (c : UInt8) : Option ℕ := alphabet.findIdx? (· = c)

/-- The encoding, three bytes at a time. -/
def encode : Bytes → Bytes
  | [] => []
  | [a] =>
    let n := a.toNat * 16
    [symbol (n / 64), symbol (n % 64), pad, pad]
  | [a, b] =>
    let n := (a.toNat * 256 + b.toNat) * 4
    [symbol (n / 4096), symbol (n / 64 % 64), symbol (n % 64), pad]
  | a :: b :: c :: rest =>
    let n := (a.toNat * 256 + b.toNat) * 256 + c.toNat
    symbol (n / 262144) :: symbol (n / 4096 % 64) :: symbol (n / 64 % 64) :: symbol (n % 64) ::
      encode rest

/-- The decoding, four symbols at a time. -/
def decode : Bytes → Option Bytes
  | [] => some []
  | w :: x :: y :: z :: rest => do
    let n := (← value w) * 64 + (← value x)
    if y = pad ∧ z = pad ∧ rest = [] then return [UInt8.ofNat (n / 16)]
    let n := n * 64 + (← value y)
    if z = pad ∧ rest = [] then return [UInt8.ofNat (n / 1024), UInt8.ofNat (n / 4)]
    let n := n * 64 + (← value z)
    return UInt8.ofNat (n / 65536) :: UInt8.ofNat (n / 256) :: UInt8.ofNat n :: (← decode rest)
  | _ => none

/-- Symbols of the alphabet, and after them less than four padding symbols that make the length a
multiple of four. -/
def Padded (s : Bytes) : Prop :=
  4 ∣ s.length ∧ ∃ body n, s = body ++ List.replicate n pad ∧ n < 4 ∧ ∀ c ∈ body, c ∈ alphabet

/-! ## Symbols -/

lemma value_symbol {n : ℕ} (h : n < 64) : value (symbol n) = some n := by
  have hall : ∀ n : Fin 64, value (symbol n) = some n.1 := by decide +kernel
  exact hall ⟨n, h⟩

lemma symbol_mem {n : ℕ} (h : n < 64) : symbol n ∈ alphabet := by
  have hlen : alphabet.length = 64 := by decide +kernel
  have hn : n < alphabet.length := hlen ▸ h
  rw [symbol, List.getD_eq_getElem?_getD, List.getElem?_eq_getElem hn, Option.getD_some]
  exact List.getElem_mem hn

lemma pad_notMem_alphabet : pad ∉ alphabet := by decide +kernel

lemma symbol_ne_pad {n : ℕ} (h : n < 64) : symbol n ≠ pad :=
  fun heq => pad_notMem_alphabet (heq ▸ symbol_mem h)

lemma ofNat_eq {a : UInt8} {n : ℕ} (h : n % 256 = a.toNat) : UInt8.ofNat n = a :=
  UInt8.toNat_inj.mp (by rw [UInt8.toNat_ofNat', h])

/-! ## The round trip -/

/-- What is encoded is decoded. -/
theorem decode_encode (data : Bytes) : decode (encode data) = some data := by
  fun_induction encode data with
  | case1 => rfl
  | case2 a n =>
    have ha := a.toNat_lt
    have hn : n = a.toNat * 16 := rfl
    have hbits : n / 64 * 64 + n % 64 = n := by omega
    simp only [decode, value_symbol (show n / 64 < 64 by omega),
      value_symbol (show n % 64 < 64 by omega), Option.bind_eq_bind, Option.bind_some, hbits,
      and_self, if_true, Option.pure_def]
    rw [ofNat_eq (a := a) (by omega)]
  | case3 a b n =>
    have ha := a.toNat_lt
    have hb := b.toNat_lt
    have hn : n = (a.toNat * 256 + b.toNat) * 4 := rfl
    have hbits : (n / 4096 * 64 + n / 64 % 64) * 64 + n % 64 = n := by omega
    have hlast := symbol_ne_pad (show n % 64 < 64 by omega)
    simp only [decode, value_symbol (show n / 4096 < 64 by omega),
      value_symbol (show n / 64 % 64 < 64 by omega), value_symbol (show n % 64 < 64 by omega),
      Option.bind_eq_bind, Option.bind_some, hlast, hbits, false_and, and_self, if_false, if_true,
      Option.pure_def]
    rw [ofNat_eq (a := a) (by omega), ofNat_eq (a := b) (by omega)]
  | case4 a b c rest n ih =>
    have ha := a.toNat_lt
    have hb := b.toNat_lt
    have hc := c.toNat_lt
    have hn : n = (a.toNat * 256 + b.toNat) * 256 + c.toNat := rfl
    have hbits : ((n / 262144 * 64 + n / 4096 % 64) * 64 + n / 64 % 64) * 64 + n % 64 = n := by
      omega
    have hthird := symbol_ne_pad (show n / 64 % 64 < 64 by omega)
    have hlast := symbol_ne_pad (show n % 64 < 64 by omega)
    simp only [decode, value_symbol (show n / 262144 < 64 by omega),
      value_symbol (show n / 4096 % 64 < 64 by omega),
      value_symbol (show n / 64 % 64 < 64 by omega), value_symbol (show n % 64 < 64 by omega),
      Option.bind_eq_bind, Option.bind_some, hthird, hlast, hbits, false_and, if_false, ih,
      Option.pure_def]
    rw [ofNat_eq (a := a) (by omega), ofNat_eq (a := b) (by omega), ofNat_eq (a := c) (by omega)]

/-- An encoding is padded. -/
theorem padded_encode (data : Bytes) : Padded (encode data) := by
  fun_induction encode data with
  | case1 => exact ⟨⟨0, rfl⟩, [], 0, rfl, by decide, by simp⟩
  | case2 a n =>
    have ha := a.toNat_lt
    have hn : n = a.toNat * 16 := rfl
    refine ⟨⟨1, rfl⟩, [symbol (n / 64), symbol (n % 64)], 2, rfl, by decide, ?_⟩
    simp [symbol_mem (show n / 64 < 64 by omega), symbol_mem (show n % 64 < 64 by omega)]
  | case3 a b n =>
    have ha := a.toNat_lt
    have hb := b.toNat_lt
    have hn : n = (a.toNat * 256 + b.toNat) * 4 := rfl
    refine ⟨⟨1, rfl⟩, [symbol (n / 4096), symbol (n / 64 % 64), symbol (n % 64)], 1, rfl,
      by decide, ?_⟩
    simp [symbol_mem (show n / 4096 < 64 by omega), symbol_mem (show n / 64 % 64 < 64 by omega),
      symbol_mem (show n % 64 < 64 by omega)]
  | case4 a b c rest n ih =>
    have ha := a.toNat_lt
    have hb := b.toNat_lt
    have hc := c.toNat_lt
    have hn : n = (a.toNat * 256 + b.toNat) * 256 + c.toNat := rfl
    obtain ⟨hdvd, body, m, heq, hm, hbody⟩ := ih
    refine ⟨?_, symbol (n / 262144) :: symbol (n / 4096 % 64) :: symbol (n / 64 % 64) ::
      symbol (n % 64) :: body, m, by rw [heq]; rfl, hm, ?_⟩
    · simp only [List.length_cons]
      omega
    · intro x hx
      simp only [List.mem_cons] at hx
      obtain rfl | rfl | rfl | rfl | hx := hx
      · exact symbol_mem (by omega)
      · exact symbol_mem (by omega)
      · exact symbol_mem (by omega)
      · exact symbol_mem (by omega)
      · exact hbody x hx

end Base64

end CoroutineGateway
