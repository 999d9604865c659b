import CoroutineGateway.Framework.Search
import Mathlib.Algebra.Order.Ring.Int
import Mathlib.Data.List.TakeWhile

/-!
# Byte strings

A `std::string` is a list of bytes.  This module has the functions of the C and C++ libraries
on them that programs use to take text apart: trimming, the numbers `strtol` and a stream's
`>>` read, `std::getline`, the words `>>` reads, and `std::to_string`; and the hexadecimal numbers
that a stream writes.

Numbers are read without a bound and then brought into the range of their type: both `strtol`
and `>>` answer an overflow with the end of the range.
-/

namespace CoroutineGateway

/-- The contents of a `std::string`. -/
abbrev Bytes := List UInt8

/-- The bytes of a literal. -/
def ascii (s : String) : Bytes := s.toList.map fun c => UInt8.ofNat c.toNat

/-- Carriage return. -/
abbrev cr : UInt8 := 13

/-- Line feed. -/
abbrev lf : UInt8 := 10

/-- `"\r\n"` -/
abbrev crlf : Bytes := [cr, lf]

namespace Text

/-! ## Characters -/

/-- `isspace` of the C locale. -/
def isSpace (c : UInt8) : Bool := c = 32 || (9 ≤ c && c ≤ 13)

/-- `isdigit` -/
def isDigit (c : UInt8) : Bool := 48 ≤ c && c ≤ 57

/-- The value of a decimal digit. -/
def digitValue (c : UInt8) : ℕ := c.toNat - 48

/-! ## Numbers -/

/-- The number a string of digits denotes. -/
def decimalValue (ds : Bytes) : ℕ := ds.foldl (fun n c => 10 * n + digitValue c) 0

/-- What `strtol` (base 10) reads, before it is brought into range; `none` where no conversion
can be performed. -/
def parseInt (s : Bytes) : Option ℤ :=
  let s := s.dropWhile isSpace
  let negative := s.head? = some 45
  let s := if s.head? = some 45 ∨ s.head? = some 43 then s.tail else s
  let ds := s.takeWhile isDigit
  if ds = [] then none
  else some (if negative then -(decimalValue ds : ℤ) else (decimalValue ds : ℤ))

/-- The value of a hexadecimal digit. -/
def hexDigit? (c : UInt8) : Option ℕ :=
  if isDigit c then some (digitValue c)
  else if 97 ≤ c ∧ c ≤ 102 then some (c.toNat - 87)
  else if 65 ≤ c ∧ c ≤ 70 then some (c.toNat - 55)
  else none

/-- The number a string of hexadecimal digits denotes. -/
def hexValue (ds : Bytes) : ℕ := ds.foldl (fun n c => 16 * n + (hexDigit? c).getD 0) 0

/-- The least and the greatest value of a signed type of `bits + 1` bits. -/
def saturate (bits : ℕ) (n : ℤ) : ℤ := max (-2 ^ bits) (min n (2 ^ bits - 1))

/-- `std::strtol(s, nullptr, 10)`, and `std::strtoll`: both types have 64 bits. -/
def strtol (s : Bytes) : ℤ := saturate 63 ((parseInt s).getD 0)

/-- `std::to_string` of a non-negative number. -/
def toDecimal (n : ℕ) : Bytes := (Nat.toDigits 10 n).map fun c => UInt8.ofNat c.toNat

/-- `os << std::hex << n` for a non-negative number. -/
def toHex (n : ℕ) : Bytes := (Nat.toDigits 16 n).map fun c => UInt8.ofNat c.toNat

/-- `std::to_string` -/
def intToString (n : ℤ) : Bytes :=
  if n < 0 then 45 :: toDecimal n.natAbs else toDecimal n.natAbs

/-! ## Lines and words -/

/-- The lines that successive calls of `std::getline(in, line, delim)` read. -/
def getlines (delim : UInt8) : Bytes → List Bytes
  | [] => []
  | c :: s =>
    if c = delim then [] :: getlines delim s
    else
      match getlines delim s with
      | [] => [[c]]
      | line :: lines => (c :: line) :: lines

/-- `ss >> word`: the word and what is left.  The word is empty at the end of the stream. -/
def readWord (s : Bytes) : Bytes × Bytes :=
  let s := s.dropWhile isSpace
  (s.takeWhile fun c => !isSpace c, s.dropWhile fun c => !isSpace c)

/-- `ss >> n` into a signed type of `bits + 1` bits that held `0`. -/
def readInt (bits : ℕ) (s : Bytes) : ℤ := saturate bits ((parseInt s).getD 0)

/-! ## Blanks -/

/-- `" \t"` -/
def blanks : Bytes := [32, 9]

/-- The text without the blanks at its ends, as
`line.substr(line.find_first_not_of(" \t"), e - s + 1)` with `e` the last position that is not
blank; `none` where there is nothing but blanks. -/
def trim (line : Bytes) : Option Bytes :=
  (Seq.findFirstNotOf blanks line).map fun s =>
    Seq.substr line s ((Seq.findLastNotOf blanks line).map fun e => e - s + 1)

lemma findFirstNotOf_append {set pre : Bytes} {c : UInt8} (hpre : ∀ b ∈ pre, b ∈ set)
    (hc : c ∉ set) (rest : Bytes) :
    Seq.findFirstNotOf set (pre ++ c :: rest) = some pre.length := by
  unfold Seq.findFirstNotOf
  induction pre with
  | nil => simp [List.findIdx?_cons, hc]
  | cons b pre ih =>
    have hb : b ∈ set := hpre b List.mem_cons_self
    have ih' := ih fun x hx => hpre x (List.mem_cons_of_mem _ hx)
    rw [List.cons_append, List.findIdx?_cons, if_neg (by simp [hb]), ih']
    rfl

/-- Trimming takes off exactly the blanks around a text that starts and ends with no blank. -/
theorem trim_padded (pre post : Bytes) {body : Bytes} (hpre : ∀ b ∈ pre, b ∈ blanks)
    (hpost : ∀ b ∈ post, b ∈ blanks) (hne : body ≠ []) (hhead : body.head hne ∉ blanks)
    (hlast : body.getLast hne ∉ blanks) : trim (pre ++ body ++ post) = some body := by
  have hfirst : Seq.findFirstNotOf blanks (pre ++ body ++ post) = some pre.length := by
    rw [← List.cons_head_tail hne, List.append_assoc, List.cons_append]
    exact findFirstNotOf_append hpre hhead _
  have hend : Seq.findLastNotOf blanks (pre ++ body ++ post) =
      some (pre.length + body.length - 1) := by
    have hrev : (pre ++ body ++ post).reverse =
        post.reverse ++ body.getLast hne :: (body.dropLast.reverse ++ pre.reverse) := by
      conv_lhs => rw [← List.dropLast_concat_getLast hne]
      simp
    have hpost' : ∀ b ∈ post.reverse, b ∈ blanks := fun b hb => hpost b (List.mem_reverse.mp hb)
    have hfind := findFirstNotOf_append hpost' hlast (body.dropLast.reverse ++ pre.reverse)
    simp only [Seq.findFirstNotOf] at hfind
    rw [Seq.findLastNotOf, hrev, hfind]
    simp only [Option.map_some, Option.some.injEq, List.length_append, List.length_reverse]
    omega
  have hpos : 0 < body.length := List.length_pos_of_ne_nil hne
  have hcount : pre.length + body.length - 1 - pre.length + 1 = body.length := by omega
  simp only [trim, hfirst, hend, Option.map_some, Seq.substr, hcount, Option.some.injEq]
  rw [List.append_assoc, List.drop_left, List.take_left]

/-! ## Words -/

/-- Text without spaces. -/
def IsPlain (w : Bytes) : Prop := ∀ c ∈ w, isSpace c = false

instance (w : Bytes) : Decidable (IsPlain w) := inferInstanceAs (Decidable (∀ c ∈ w, _))

/-- A word that `>>` reads. -/
structure Word where
  text : Bytes
  plain : IsPlain text
  ne_nil : text ≠ []

/-- A word at the beginning of a text. -/
lemma readWord_start {w : Bytes} (hw : IsPlain w) (hne : w ≠ []) (s : Bytes) :
    readWord (w ++ 32 :: s) = (w, 32 :: s) := by
  obtain ⟨c, t, rfl⟩ := List.exists_cons_of_ne_nil hne
  have hc : isSpace c = false := hw c List.mem_cons_self
  have hall : ∀ b ∈ c :: t, (fun b => !isSpace b) b = true := fun b hb => by simp [hw b hb]
  have hskip : (c :: t ++ 32 :: s).dropWhile isSpace = c :: t ++ 32 :: s := by simp [hc]
  have hblank : (!isSpace 32) = false := rfl
  simp only [readWord, hskip, List.takeWhile_append_of_pos hall, List.dropWhile_append_of_pos hall]
  simp [hblank]

/-- A word after a blank. -/
lemma readWord_next {w : Bytes} (hw : IsPlain w) (hne : w ≠ []) (s : Bytes) :
    readWord (32 :: (w ++ 32 :: s)) = (w, 32 :: s) := by
  rw [← readWord_start hw hne s]
  rfl

/-- The last word of a line, which may be missing. -/
lemma readWord_last {w : Bytes} (hw : IsPlain w) : readWord (32 :: w) = (w, []) := by
  have hall : ∀ b ∈ w, (!isSpace b) = true := fun b hb => by simp [hw b hb]
  have hskip : (32 :: w).dropWhile isSpace = w := by
    cases w with
    | nil => rfl
    | cons c t =>
      have hc : isSpace c = false := hw c List.mem_cons_self
      have hblank : isSpace 32 = true := rfl
      simp [hblank, hc]
  simp only [readWord, hskip]
  exact Prod.ext (List.takeWhile_eq_self_iff.mpr hall) (List.dropWhile_eq_nil_iff.mpr hall)

/-! ## Lines -/

/-- What is left of the last line. -/
lemma getlines_of_notMem {delim : UInt8} {l : Bytes} (hl : delim ∉ l) (hne : l ≠ []) :
    getlines delim l = [l] := by
  induction l with
  | nil => exact absurd rfl hne
  | cons c t ih =>
    obtain ⟨hc, ht⟩ := not_or.mp fun h => hl (List.mem_cons.mpr h)
    rw [getlines, if_neg (Ne.symm hc)]
    by_cases hnil : t = []
    · simp [hnil, getlines]
    · rw [ih ht hnil]

lemma getlines_cons {delim : UInt8} {l : Bytes} (hl : delim ∉ l) (s : Bytes) :
    getlines delim (l ++ delim :: s) = l :: getlines delim s := by
  induction l with
  | nil => rw [List.nil_append, getlines, if_pos rfl]
  | cons c t ih =>
    obtain ⟨hc, ht⟩ := not_or.mp fun h => hl (List.mem_cons.mpr h)
    rw [List.cons_append, getlines, if_neg (Ne.symm hc), ih ht]

/-- Lines that each end with a delimiter are read as such. -/
lemma getlines_joinLines {delim : UInt8} {lines : List Bytes} (h : ∀ l ∈ lines, delim ∉ l) :
    getlines delim (Seq.joinLines [delim] lines) = lines := by
  induction lines with
  | nil => rfl
  | cons l lines ih =>
    obtain ⟨hl, hlines⟩ := List.forall_mem_cons.mp h
    rw [Seq.joinLines_cons, List.append_assoc, List.singleton_append, getlines_cons hl, ih hlines]

/-- Items with a delimiter between them. -/
def joinItems (delim : UInt8) : List Bytes → Bytes
  | [] => []
  | [item] => item
  | item :: items => item ++ delim :: joinItems delim items

/-- Items that are not empty are read as such. -/
lemma getlines_joinItems {delim : UInt8} {items : List Bytes}
    (h : ∀ l ∈ items, delim ∉ l ∧ l ≠ []) : getlines delim (joinItems delim items) = items := by
  induction items with
  | nil => rfl
  | cons item items ih =>
    obtain ⟨hitem, hitems⟩ := List.forall_mem_cons.mp h
    cases items with
    | nil => exact getlines_of_notMem hitem.1 hitem.2
    | cons next items => rw [joinItems, getlines_cons hitem.1, ih hitems]; simp

/-! ## Digits -/

variable {ds : Bytes}

lemma isSpace_eq_false_of_isDigit {c : UInt8} (h : isDigit c = true) : isSpace c = false := by
  simp only [isDigit, isSpace, Bool.and_eq_true, decide_eq_true_eq, Bool.or_eq_false_iff,
    Bool.and_eq_false_iff, decide_eq_false_iff_not, UInt8.le_iff_toNat_le, ← UInt8.toNat_inj] at *
  have h48 : (48 : UInt8).toNat = 48 := rfl
  have h13 : (13 : UInt8).toNat = 13 := rfl
  have h32 : (32 : UInt8).toNat = 32 := rfl
  omega

/-- A string of digits is read as the number it denotes. -/
lemma parseInt_digits (hne : ds ≠ []) (hds : ∀ c ∈ ds, isDigit c = true) :
    parseInt ds = some (decimalValue ds : ℤ) := by
  obtain ⟨d, t, rfl⟩ := List.exists_cons_of_ne_nil hne
  have hd : isDigit d = true := hds d List.mem_cons_self
  have hsign : d ≠ 45 ∧ d ≠ 43 := by
    constructor <;> rintro rfl <;> exact absurd hd (by decide)
  have htake : (d :: t).takeWhile isDigit = d :: t := List.takeWhile_eq_self_iff.mpr hds
  simp [parseInt, isSpace_eq_false_of_isDigit hd, hsign.1, hsign.2, htake]

lemma strtol_digits (hne : ds ≠ []) (hds : ∀ c ∈ ds, isDigit c = true)
    (hlt : decimalValue ds < 2 ^ 63) : strtol ds = decimalValue ds := by
  rw [strtol, parseInt_digits hne hds, Option.getD_some, saturate]
  omega

lemma not_mem_blanks_of_isDigit {c : UInt8} (h : isDigit c = true) : c ∉ blanks := by
  intro hc
  rcases List.mem_cons.mp hc with rfl | hc
  · exact absurd h (by decide)
  · obtain rfl := List.mem_singleton.mp hc
    exact absurd h (by decide)

/-- A number after one blank is trimmed to its digits. -/
lemma trim_blank_digits (hne : ds ≠ []) (hds : ∀ c ∈ ds, isDigit c = true) :
    trim (32 :: ds) = some ds := by
  have h := trim_padded [32] [] (by simp [blanks]) (by simp) hne
    (not_mem_blanks_of_isDigit (hds _ (List.head_mem hne)))
    (not_mem_blanks_of_isDigit (hds _ (List.getLast_mem hne)))
  simpa using h

/-! ## `std::to_string` -/

lemma toNat_of_isDigit {c : Char} (h : c.isDigit = true) : 48 ≤ c.toNat ∧ c.toNat ≤ 57 := by
  simp only [Char.isDigit, Bool.and_eq_true, decide_eq_true_eq, UInt32.le_iff_toNat_le,
    ge_iff_le] at h
  exact h

lemma isDigit_toDecimal (n : ℕ) : ∀ c ∈ toDecimal n, isDigit c = true := by
  intro c hc
  obtain ⟨d, hd, rfl⟩ := List.mem_map.mp hc
  obtain ⟨hlo, hhi⟩ := toNat_of_isDigit (Nat.isDigit_of_mem_toDigits (by decide) (by decide) hd)
  simp only [isDigit, Bool.and_eq_true, decide_eq_true_eq, UInt8.le_iff_toNat_le]
  have h48 : (48 : UInt8).toNat = 48 := rfl
  have h57 : (57 : UInt8).toNat = 57 := rfl
  have hbyte : (UInt8.ofNat d.toNat).toNat = d.toNat := UInt8.toNat_ofNat_of_lt'
    (Nat.lt_of_le_of_lt hhi (by decide))
  omega

lemma toDecimal_ne_nil (n : ℕ) : toDecimal n ≠ [] := by
  simp [toDecimal, Nat.toDigits_ne_nil]

/-- `std::to_string` writes the number it is given. -/
lemma decimalValue_toDecimal (n : ℕ) : decimalValue (toDecimal n) = n := by
  have hfold : ∀ (l : List Char) (m : ℕ), (∀ c ∈ l, c.isDigit = true) →
      (l.map fun c => UInt8.ofNat c.toNat).foldl (fun n c => 10 * n + digitValue c) m =
        Nat.ofDigitChars 10 l m := by
    intro l
    induction l with
    | nil => intro m _; rfl
    | cons c l ih =>
      intro m hl
      obtain ⟨-, hhi⟩ := toNat_of_isDigit (hl c List.mem_cons_self)
      have hc : digitValue (UInt8.ofNat c.toNat) = c.toNat - '0'.toNat := by
        rw [digitValue, UInt8.toNat_ofNat_of_lt' (Nat.lt_of_le_of_lt hhi (by decide))]
        rfl
      rw [List.map_cons, List.foldl_cons, hc, ih _ fun d hd => hl d (List.mem_cons_of_mem _ hd)]
      rfl
  have hdigits : ∀ c ∈ Nat.toDigits 10 n, c.isDigit = true :=
    fun c hc => Nat.isDigit_of_mem_toDigits (by decide) (by decide) hc
  rw [decimalValue, toDecimal, hfold _ _ hdigits]
  exact Nat.ofDigitChars_toDigits (by decide) (by decide)

/-! ## Hexadecimal numbers -/

lemma hexDigit?_digitChar {d : ℕ} (h : d < 16) :
    hexDigit? (UInt8.ofNat (Nat.digitChar d).toNat) = some d := by
  have hall : ∀ d ∈ List.range 16, hexDigit? (UInt8.ofNat (Nat.digitChar d).toNat) = some d := by
    decide
  exact hall d (List.mem_range.mpr h)

lemma toHex_of_lt {n : ℕ} (h : n < 16) : toHex n = [UInt8.ofNat (Nat.digitChar n).toNat] := by
  rw [toHex, Nat.toDigits_of_lt_base h]
  rfl

lemma toHex_of_le {n : ℕ} (h : 16 ≤ n) :
    toHex n = toHex (n / 16) ++ [UInt8.ofNat (Nat.digitChar (n % 16)).toNat] := by
  rw [toHex, Nat.toDigits_of_base_le (by decide) h, List.map_append]
  rfl

lemma toHex_ne_nil (n : ℕ) : toHex n ≠ [] := by
  simp [toHex, Nat.toDigits_ne_nil]

/-- Only hexadecimal digits are written … -/
lemma isSome_hexDigit?_toHex (n : ℕ) : ∀ c ∈ toHex n, (hexDigit? c).isSome = true := by
  induction n using Nat.strong_induction_on with
  | _ n ih =>
    intro c hc
    by_cases hn : n < 16
    · rw [toHex_of_lt hn, List.mem_singleton] at hc
      rw [hc, hexDigit?_digitChar hn]
      rfl
    · have hle : 16 ≤ n := Nat.le_of_not_lt hn
      rw [toHex_of_le hle, List.mem_append, List.mem_singleton] at hc
      rcases hc with hc | rfl
      · exact ih (n / 16) (by omega) c hc
      · rw [hexDigit?_digitChar (Nat.mod_lt n (by decide))]
        rfl

/-- … and they denote the number. -/
lemma hexValue_toHex (n : ℕ) : hexValue (toHex n) = n := by
  induction n using Nat.strong_induction_on with
  | _ n ih =>
    by_cases hn : n < 16
    · rw [toHex_of_lt hn, hexValue, List.foldl_cons, List.foldl_nil, hexDigit?_digitChar hn,
        Option.getD_some]
      omega
    · have hle : 16 ≤ n := Nat.le_of_not_lt hn
      have hdiv : hexValue (toHex (n / 16)) = n / 16 := ih (n / 16) (by omega)
      rw [hexValue] at hdiv ⊢
      rw [toHex_of_le hle, List.foldl_append, hdiv, List.foldl_cons, List.foldl_nil,
        hexDigit?_digitChar (Nat.mod_lt n (by decide)), Option.getD_some]
      omega

lemma length_toHex_le {n k : ℕ} (hk : 0 < k) (h : n < 16 ^ k) : (toHex n).length ≤ k := by
  rw [toHex, List.length_map]
  exact (Nat.length_toDigits_le_iff (by decide) hk).mpr h

end Text

end CoroutineGateway
