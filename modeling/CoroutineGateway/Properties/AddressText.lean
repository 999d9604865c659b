import CoroutineGateway.Framework.Endpoint
import CoroutineGateway.Properties.ByteOrder

/-!
# Printed addresses

`IPv6Address::insert` leaves out the first groups of zeros in one pass, with a flag.  Whatever the
groups are, it prints either all of them, or those in front of the first zeros and those behind them
with `::` in between (`insertGroups_eq`).  Both are read as the groups that were printed, so that
the text of an address says which one it is (`toString_unambiguous`).
-/

namespace CoroutineGateway

namespace IPv6Address

/-- The number a group is printed as. -/
def value (g : UInt16) : ℕ := (byteswap16 g).toNat

/-- The text of some groups, all of them printed. -/
def printed (gs : List UInt16) : Bytes := Endpoint.groupsText (gs.map value)

variable {st : Inserting} {g : UInt16} {gs pre right : List UInt16} {os : Bytes} {k : ℕ}

lemma printed_append (hgs : gs ≠ []) (g : UInt16) :
    printed (gs ++ [g]) = printed gs ++ ascii ":" ++ Text.toHex (value g) := by
  rw [printed, Endpoint.groupsText, List.map_append, List.map_append, List.map_singleton,
    List.map_singleton, Endpoint.colonText_append (by simpa using hgs), List.append_assoc]
  rfl

lemma printed_singleton (g : UInt16) : printed [g] = Text.toHex (value g) :=
  (List.intercalate_singleton : [58].intercalate [Text.toHex (value g)] = _)

/-! ## The loop -/

/-- Over groups that are not zero. -/
lemma foldl_nonzero (h : ∀ g ∈ gs, g ≠ 0) :
    gs.foldl insertGroup ⟨[], false, none⟩ = ⟨printed gs, false, gs.getLast?⟩ := by
  induction gs using List.reverseRecOn with
  | nil => rfl
  | append_singleton gs g ih =>
    have hg : g ≠ 0 := h g (by simp)
    have hlast : gs.getLast? ≠ some 0 := fun heq =>
      h 0 (List.mem_append_left _ (List.mem_of_getLast? heq)) rfl
    rw [List.foldl_append, ih fun x hx => h x (List.mem_append_left _ hx), List.foldl_cons,
      List.foldl_nil, List.getLast?_concat]
    by_cases hgs : gs = []
    · subst hgs
      rw [List.nil_append, printed_singleton]
      simp [insertGroup, hg, value, printed, Endpoint.groupsText, Endpoint.colonText]
    · have hsome : gs.getLast?.isSome = true := by simpa using hgs
      rw [printed_append hgs]
      simp [insertGroup, hg, hlast, hsome, value]

/-- Over the first zeros. -/
lemma foldl_zeros (hst : st.usedZeros = false) (k : ℕ) :
    (List.replicate (k + 1) (0 : UInt16)).foldl insertGroup st = { st with prev := some 0 } := by
  induction k generalizing st with
  | zero => simp [insertGroup, hst]
  | succ k ih =>
    have hone : insertGroup st 0 = { st with prev := some 0 } := by simp [insertGroup, hst]
    rw [List.replicate_succ, List.foldl_cons, hone]
    exact @ih { st with prev := some 0 } hst

/-- Over what follows the first zeros. -/
lemma foldl_right (hg : g ≠ 0) (os : Bytes) (right : List UInt16) :
    (g :: right).foldl insertGroup ⟨os, false, some 0⟩ =
      ⟨os ++ ascii "::" ++ printed (g :: right), true, (g :: right).getLast?⟩ := by
  induction right using List.reverseRecOn with
  | nil =>
    rw [printed_singleton]
    simp [insertGroup, hg, value, ascii]
  | append_singleton right x ih =>
    have hlast : ((g :: right).getLast?).isSome = true := by simp
    rw [← List.cons_append, List.foldl_append, ih, List.foldl_cons, List.foldl_nil,
      List.getLast?_concat, printed_append (List.cons_ne_nil g right)]
    simp [insertGroup, hlast, value]

/-- None of the groups is zero, or there are first zeros. -/
lemma exists_zeros (gs : List UInt16) : (∀ g ∈ gs, g ≠ 0) ∨
    ∃ pre k right, gs = pre ++ (List.replicate (k + 1) 0 ++ right) ∧ (∀ g ∈ pre, g ≠ 0) ∧
      right.head? ≠ some 0 := by
  induction gs with
  | nil => exact .inl (by simp)
  | cons g gs ih =>
    by_cases hg : g = 0
    · subst hg
      refine .inr ⟨[], (gs.takeWhile (· = 0)).length, gs.dropWhile (· = 0), ?_, by simp, ?_⟩
      · have hzeros : gs.takeWhile (· = 0) = List.replicate (gs.takeWhile (· = 0)).length 0 :=
          List.eq_replicate_of_mem fun x hx => by simpa using List.mem_takeWhile_imp hx
        rw [List.nil_append, List.replicate_succ, List.cons_append, ← hzeros,
          List.takeWhile_append_dropWhile]
      · intro hhead
        have hnot := List.head?_dropWhile_not (· = 0) gs
        rw [hhead] at hnot
        simp at hnot
    · rcases ih with hall | ⟨pre, k, right, rfl, hpre, hright⟩
      · exact .inl (List.forall_mem_cons.mpr ⟨hg, hall⟩)
      · exact .inr ⟨g :: pre, k, right, rfl, List.forall_mem_cons.mpr ⟨hg, hpre⟩, hright⟩

/-- Without zeros all groups are printed. -/
lemma insertGroups_nonzero (h : ∀ g ∈ gs, g ≠ 0) : insertGroups gs = printed gs := by
  have hlast : gs.getLast? ≠ some 0 := fun heq => h 0 (List.mem_of_getLast? heq) rfl
  simp only [insertGroups, foldl_nonzero h, hlast, and_false, if_false]

/-- The first zeros are left out. -/
theorem insertGroups_eq (hpre : ∀ g ∈ pre, g ≠ 0) (hright : right.head? ≠ some 0) (k : ℕ) :
    insertGroups (pre ++ (List.replicate (k + 1) 0 ++ right)) =
      printed pre ++ ascii "::" ++ printed right := by
  have hloop : (pre ++ (List.replicate (k + 1) 0 ++ right)).foldl insertGroup ⟨[], false, none⟩ =
      right.foldl insertGroup ⟨printed pre, false, some 0⟩ := by
    rw [List.foldl_append, List.foldl_append, foldl_nonzero hpre, foldl_zeros rfl]
  rw [insertGroups, hloop]
  cases right with
  | nil =>
    have hlast : (pre ++ (List.replicate (k + 1) (0 : UInt16) ++ [])).getLast? = some 0 := by
      rw [List.append_nil, List.replicate_succ', ← List.append_assoc, List.getLast?_concat]
    rw [hlast]
    exact (List.append_nil _).symm
  | cons g right =>
    have hg : g ≠ 0 := fun h => hright (congrArg some h)
    rw [foldl_right hg]
    rfl

/-! ## Reading the groups back -/

lemma value_lt (gs : List UInt16) : ∀ n ∈ gs.map value, n < 65536 := by
  intro n hn
  obtain ⟨g, -, rfl⟩ := List.mem_map.mp hn
  exact (byteswap16 g).toNat_lt

/-- What is printed of eight groups is read as these groups. -/
theorem readGroups8_insertGroups (hlen : gs.length = 8) :
    Endpoint.readGroups8 (insertGroups gs) = some (gs.map value) := by
  rcases exists_zeros gs with hall | ⟨pre, k, right, rfl, hpre, hright⟩
  · rw [insertGroups_nonzero hall]
    exact Endpoint.readGroups8_groupsText (value_lt gs) (by rwa [List.length_map])
  · have hcount : pre.length + (k + 1 + right.length) = 8 := by simpa using hlen
    have hread := Endpoint.readGroups8_doubled (value_lt pre) (value_lt right)
      (by rw [List.length_map, List.length_map]; omega)
    have hzeros : 8 - (pre.length + right.length) = k + 1 := by omega
    rw [List.length_map, List.length_map, hzeros] at hread
    rw [insertGroups_eq hpre hright, List.append_assoc]
    refine hread.trans ?_
    simp [value, show (byteswap16 0).toNat = 0 from rfl]

/-- The two bytes of a group. -/
lemma groupBytes_value (x y : UInt8) :
    Endpoint.groupBytes (value (x.toUInt16 ||| (y.toUInt16 <<< 8))) = [x, y] := by
  have hx := x.toNat_lt
  have hy := y.toNat_lt
  have hhigh : (y.toUInt16 <<< 8).toNat = 2 ^ 8 * y.toNat := by
    rw [UInt16.toNat_shiftLeft, UInt8.toNat_toUInt16]
    have h : y.toNat <<< ((8 : UInt16).toNat % 16) = y.toNat * 256 := Nat.shiftLeft_eq y.toNat 8
    rw [h]
    omega
  have hgroup : (x.toUInt16 ||| (y.toUInt16 <<< 8)).toNat = 2 ^ 8 * y.toNat + x.toNat := by
    rw [UInt16.toNat_or, hhigh, UInt8.toNat_toUInt16, Nat.or_comm,
      ← Nat.two_pow_add_eq_or_of_lt (by omega)]
  have hvalue : value (x.toUInt16 ||| (y.toUInt16 <<< 8)) = x.toNat * 256 + y.toNat := by
    rw [value, toNat_byteswap16, hgroup]
    omega
  have hdiv : value (x.toUInt16 ||| (y.toUInt16 <<< 8)) / 256 = x.toNat := by omega
  have hmod : value (x.toUInt16 ||| (y.toUInt16 <<< 8)) % 256 = y.toNat := by omega
  rw [Endpoint.groupBytes, hdiv, hmod, UInt8.ofNat_toNat, UInt8.ofNat_toNat]

/-- The family, the bytes and the port of an address. -/
def endpoint (a : IPv6Address) : Endpoint :=
  ⟨.inet6, (List.finRange 16).map a.s6Addr, byteswap16 a.sin6Port⟩

lemma read_toString (a : IPv6Address) : Endpoint.read a.toString = some a.endpoint := by
  have hgroups := readGroups8_insertGroups
    (show ((List.finRange 8).map a.group).length = 8 by simp)
  have hbytes : (((List.finRange 8).map a.group).map value).flatMap Endpoint.groupBytes =
      (List.finRange 16).map a.s6Addr := by
    rw [List.map_map, List.flatMap_map]
    simp only [Function.comp_apply, group, groupBytes_value]
    rfl
  have htext : a.toString = (91 :: (insertGroups ((List.finRange 8).map a.group) ++ [93])) ++
      58 :: Text.toDecimal (byteswap16 a.sin6Port).toNat := by
    simp [toString, ascii]
  rw [htext, Endpoint.read_port, Endpoint.readHost_brackets, hgroups, Option.map_some,
    Option.map_some, hbytes, endpoint]

/-! ## Doubled colons -/

/-- The text behind the groups. -/
lemma single_port (port : ℕ) : Endpoint.Single (93 :: 58 :: Text.toDecimal port) := by
  have hport : Endpoint.Single (58 :: Text.toDecimal port) := by
    refine List.isChain_cons.mpr ⟨fun y hy => .inr ?_,
      Endpoint.single_of_notMem (Endpoint.colon_notMem_toDecimal port)⟩
    rintro rfl
    exact Endpoint.colon_notMem_toDecimal port (List.mem_of_mem_head? hy)
  exact List.isChain_cons.mpr ⟨fun _ _ => .inl (by decide), hport⟩

lemma doubled_toString (a : IPv6Address) : Seq.AtMostOnce (ascii "::") a.toString := by
  have hport := single_port (byteswap16 a.sin6Port).toNat
  have hbracket : ∀ {s : Bytes}, Endpoint.Single s → Endpoint.Single (91 :: s) := fun hs =>
    List.isChain_cons.mpr ⟨fun _ _ => .inl (by decide), hs⟩
  have htext : a.toString = 91 :: (insertGroups ((List.finRange 8).map a.group) ++
      93 :: 58 :: Text.toDecimal (byteswap16 a.sin6Port).toNat) := by
    simp [toString, ascii]
  rw [htext]
  rcases exists_zeros ((List.finRange 8).map a.group) with hall | ⟨pre, k, right, heq, hpre, hright⟩
  · -- without zeros there is no `::` at all
    have hgroups : Endpoint.Single (printed ((List.finRange 8).map a.group)) :=
      (Endpoint.single_colonText_left (Endpoint.groups_plain _)).left_of_append
    have hsingle := hbracket (hgroups.append hport (by simp))
    rw [insertGroups_nonzero hall]
    exact fun i j hi _ => absurd hi (hsingle.not_occursAt i)
  · have hleft : Endpoint.Single ((91 :: printed pre) ++ [58]) :=
      hbracket (Endpoint.single_colonText_left (Endpoint.groups_plain _))
    have hrest : Endpoint.Single (58 :: (printed right ++
        93 :: 58 :: Text.toDecimal (byteswap16 a.sin6Port).toNat)) :=
      (Endpoint.single_colonText_right (Endpoint.groups_plain _)).append hport (by simp)
    have hsplit : 91 :: ((printed pre ++ ascii "::" ++ printed right) ++
        93 :: 58 :: Text.toDecimal (byteswap16 a.sin6Port).toNat) =
        (91 :: printed pre) ++ 58 :: 58 :: (printed right ++
          93 :: 58 :: Text.toDecimal (byteswap16 a.sin6Port).toNat) := by
      simp [ascii]
    rw [heq, insertGroups_eq hpre hright, hsplit]
    intro i j hi hj
    rw [Endpoint.occursAt_doubled hleft hrest hi, Endpoint.occursAt_doubled hleft hrest hj]

end IPv6Address

namespace IPv4Address

/-- The family, the bytes and the port of an address. -/
def endpoint (a : IPv4Address) : Endpoint :=
  ⟨.inet, [a.sAddr.toUInt8, (a.sAddr >>> 8).toUInt8, (a.sAddr >>> 16).toUInt8,
    (a.sAddr >>> 24).toUInt8], byteswap16 a.sinPort⟩

/-- The numbers between the points. -/
def octets (addr : UInt32) : List ℕ :=
  [addr >>> 24, addr >>> 16, addr >>> 8, addr].map fun v => (v &&& 0xff).toNat

lemma dotted_eq (addr : UInt32) :
    dotted addr = [46].intercalate ((octets addr).map Text.toDecimal) := by
  simp [dotted, octets, ascii]

lemma ofNat_octet (v : UInt32) : UInt8.ofNat (v &&& 0xff).toNat = v.toUInt8 := by
  refine UInt8.toNat_inj.mp ?_
  rw [UInt8.toNat_ofNat', toNat_octet, UInt32.toNat_toUInt8]
  omega

lemma read_toString (a : IPv4Address) : Endpoint.read a.toString = some a.endpoint := by
  have hlt : ∀ n ∈ octets a.addr, n < 256 := by
    intro n hn
    obtain ⟨v, -, rfl⟩ := List.mem_map.mp hn
    rw [toNat_octet]
    exact Nat.mod_lt _ (by decide)
  have hbytes : (octets a.addr).map UInt8.ofNat = a.endpoint.bytes := by
    obtain ⟨h0, h1, h2, h3⟩ := octets_byteswap32 a.sAddr
    simp only [octets, List.map_cons, List.map_nil, addr, h0, h1, h2, h3, ofNat_octet, endpoint]
  have htext : a.toString = [46].intercalate ((octets a.addr).map Text.toDecimal) ++
      58 :: Text.toDecimal (byteswap16 a.sinPort).toNat := by
    rw [← dotted_eq]
    simp [toString, ascii]
  rw [htext, Endpoint.read_port, Endpoint.readHost_dotted hlt rfl, Option.map_some, hbytes]
  rfl

lemma endpoint_injective : Function.Injective endpoint := by
  intro a b h
  obtain ⟨-, hbytes, hport⟩ := Endpoint.mk.injEq .. ▸ h
  have hports := congrArg byteswap16 hport
  simp only [List.cons.injEq, and_true, ← UInt8.toNat_inj, UInt32.toNat_toUInt8] at hbytes
  obtain ⟨h0, h1, h2, h3⟩ := hbytes
  have haddr : a.sAddr = b.sAddr := by
    refine UInt32.toNat_inj.mp ?_
    have ha := a.sAddr.toNat_lt
    have hb := b.sAddr.toNat_lt
    have hshift : ∀ v k : UInt32, (v >>> k).toNat = v.toNat / 2 ^ (k.toNat % 32) := fun v k => by
      rw [UInt32.toNat_shiftRight]
      exact Nat.shiftRight_eq_div_pow _ _
    simp only [hshift] at h1 h2 h3
    have h8 : (8 : UInt32).toNat % 32 = 8 := rfl
    have h16 : (16 : UInt32).toNat % 32 = 16 := rfl
    have h24 : (24 : UInt32).toNat % 32 = 24 := rfl
    rw [h8] at h1
    rw [h16] at h2
    rw [h24] at h3
    omega
  rw [byteswap16_byteswap16, byteswap16_byteswap16] at hports
  cases a
  cases b
  exact congrArg₂ IPv4Address.mk haddr hports

end IPv4Address

lemma IPv6Address.endpoint_injective : Function.Injective IPv6Address.endpoint := by
  intro a b h
  obtain ⟨-, hbytes, hport⟩ := Endpoint.mk.injEq .. ▸ h
  have hports := congrArg byteswap16 hport
  have haddr : a.s6Addr = b.s6Addr := by
    funext i
    exact List.map_inj_left.mp hbytes i (List.mem_finRange i)
  rw [byteswap16_byteswap16, byteswap16_byteswap16] at hports
  cases a
  cases b
  exact congrArg₂ IPv6Address.mk haddr hports

namespace IPAddress

/-- The family, the bytes and the port of an address. -/
def endpoint : IPAddress → Endpoint
  | v4 a => a.endpoint
  | v6 a => a.endpoint

lemma endpoint_injective : Function.Injective endpoint := by
  intro a b h
  cases a with
  | v4 a =>
    cases b with
    | v4 b => rw [IPv4Address.endpoint_injective h]
    | v6 b => cases congrArg Endpoint.family h
  | v6 a =>
    cases b with
    | v4 b => cases congrArg Endpoint.family h
    | v6 b => rw [IPv6Address.endpoint_injective h]

/-- **Printed addresses are unambiguous.**  The text is read as the address it was printed from,
that of an IPv6 address has `::` at most once, and different addresses have different texts. -/
theorem toString_unambiguous :
    (∀ a : IPAddress, Endpoint.read a.toString = some a.endpoint) ∧
      (∀ a : IPv6Address, Seq.AtMostOnce (ascii "::") a.toString) ∧
      Function.Injective IPAddress.toString := by
  have hread : ∀ a : IPAddress, Endpoint.read a.toString = some a.endpoint := by
    intro a
    cases a with
    | v4 a => exact a.read_toString
    | v6 a => exact a.read_toString
  refine ⟨hread, IPv6Address.doubled_toString, fun a b h => endpoint_injective ?_⟩
  have hsame := hread a
  rw [h, hread b] at hsame
  exact (Option.some.inj hsame).symm

/-- Zeros at the start are left out, and later ones are not. -/
example : IPAddress.toString (v6 ⟨fun i => if i = 5 ∨ i = 9 then 1 else 0, byteswap16 80⟩) =
    ascii "[::1:0:1:0:0:0]:80" := by
  decide +kernel

end IPAddress

end CoroutineGateway
