import CoroutineGateway.Construction.Address

/-!
# Splitting the text of an address

`Address::Lookup` looks for a bracket and a colon in turn, each time with a pointer that becomes the
service.  A name, a name with a service, and an address in brackets are split as they are meant.  In
a text with two colons and no bracket the pointer stays where the first colon was found, so that an
IPv6 address without brackets is looked up with a part of itself as the service
(`lookupArgs_eq_iff`).
-/

namespace CoroutineGateway

namespace Address

/-- The node and the service that a text names. -/
inductive Names : Bytes → Bytes → Option Bytes → Prop where
  | name {node : Bytes} (hne : node ≠ []) (hcolon : 58 ∉ node) (hplain : node.head? ≠ some 91) :
      Names node node none
  | nameService {node port : Bytes} (hne : node ≠ []) (hcolon : 58 ∉ node)
      (hplain : node.head? ≠ some 91) (hport : 58 ∉ port) :
      Names (node ++ 58 :: port) node (some port)
  | bracket {v6 : Bytes} (hne : v6 ≠ []) (hv6 : 93 ∉ v6) : Names (91 :: (v6 ++ [93])) v6 none
  | bracketService {v6 : Bytes} (port : Bytes) (hne : v6 ≠ []) (hv6 : 93 ∉ v6) :
      Names (91 :: (v6 ++ 93 :: 58 :: port)) v6 (some port)
  /-- An IPv6 address as it is. -/
  | literal {text : Bytes} (hplain : text.head? ≠ some 91) (hcolons : 2 ≤ text.count 58) :
      Names text text none

variable {host node v6 rest : Bytes} {service : Option Bytes}

/-! ## Brackets -/

lemma lookupBracket_of_plain (h : host.head? ≠ some 91) : lookupBracket host = ([], none) := by
  rw [lookupBracket, if_neg h]

/-- Between the brackets stands the node; the service is there if a colon follows. -/
lemma lookupBracket_brackets (hv6 : 93 ∉ v6) (rest : Bytes) :
    lookupBracket (91 :: (v6 ++ 93 :: rest)) =
      (v6, if rest.head? = some 58 then some (v6.length + 3) else none) := by
  have hend : Seq.findFrom [93] (91 :: (v6 ++ 93 :: rest)) 1 = some (v6.length + 1) := by
    rw [Seq.findFrom, if_pos (by simp), List.drop_one, List.tail_cons, Seq.find_symbol hv6,
      Option.map_some]
  have hafter : (91 :: (v6 ++ 93 :: rest))[v6.length + 1 + 1]? = rest.head? := by
    rw [List.getElem?_cons_succ, List.getElem?_append_right (Nat.le_succ _),
      Nat.succ_sub (le_refl _), Nat.sub_self, List.getElem?_cons_succ, List.head?_eq_getElem?]
  have hnode : Seq.substr (91 :: (v6 ++ 93 :: rest)) 1 (some (v6.length + 1 - 1)) = v6 := by
    rw [Seq.substr, List.drop_one, List.tail_cons, Nat.add_sub_cancel, List.take_left]
  simp only [lookupBracket, List.head?_cons, if_true, hend, hafter, hnode]

/-- What follows the brackets is not looked at. -/
lemma lookupArgs_of_bracket {p : Bytes × Option ℕ} (h : lookupBracket host = p) (hne : p.1 ≠ []) :
    lookupArgs host = (cStr p.1, p.2.map fun service => cStr (host.drop service)) := by
  simp only [lookupArgs, h, hne, if_false]

/-! ## Colons -/

lemma lookupColon_of_notMem (h : 58 ∉ host) : lookupColon host = ([], none) := by
  rw [lookupColon, Seq.find_of_notMem h]

/-- The search behind a colon. -/
lemma findFrom_behind (node rest : Bytes) :
    Seq.findFrom [58] (node ++ 58 :: rest) (node.length + 1) =
      (Seq.find [58] rest).map (· + (node.length + 1)) := by
  rw [Seq.findFrom, if_pos (by simp), ← List.drop_drop, List.drop_left, List.drop_one,
    List.tail_cons]

/-- One colon. -/
lemma lookupColon_one (hnode : 58 ∉ node) (hrest : 58 ∉ rest) :
    lookupColon (node ++ 58 :: rest) = (node, some (node.length + 1)) := by
  simp only [lookupColon, Seq.find_symbol hnode, findFrom_behind, Seq.find_of_notMem hrest,
    Option.map_none, Option.isNone_none, if_true, List.take_left]

/-- Two colons: the pointer to the first one is kept. -/
lemma lookupColon_two (hnode : 58 ∉ node) (hrest : 58 ∈ rest) :
    lookupColon (node ++ 58 :: rest) = ([], some node.length) := by
  obtain ⟨l, r, rfl, hl⟩ := List.eq_append_cons_of_mem hrest
  simp only [lookupColon, Seq.find_symbol hnode, findFrom_behind, Seq.find_symbol hl,
    Option.map_some, Option.isNone_some, Bool.false_eq_true, if_false]

/-- An IPv6 address as it is: with something for a service. -/
lemma lookupArgs_literal (hplain : host.head? ≠ some 91) (hcolons : 2 ≤ host.count 58) :
    ∃ rest, lookupArgs host = (cStr host, some (cStr (58 :: rest))) := by
  have hmem : 58 ∈ host := List.count_pos_iff.mp (by omega)
  obtain ⟨node, rest, rfl, hnode⟩ := List.eq_append_cons_of_mem hmem
  have hrest : 58 ∈ rest := by
    rw [List.count_append, List.count_eq_zero.mpr hnode, List.count_cons_self] at hcolons
    exact List.count_pos_iff.mp (by omega)
  refine ⟨rest, ?_⟩
  simp only [lookupArgs, lookupBracket_of_plain hplain, lookupColon_two hnode hrest, if_true,
    Option.map_some, List.drop_left]

/-! ## The text and its parts -/

variable {port : Bytes}

lemma lookupArgs_name (hcolon : 58 ∉ host) (hplain : host.head? ≠ some 91) :
    lookupArgs host = (cStr host, none) := by
  simp only [lookupArgs, lookupBracket_of_plain hplain, lookupColon_of_notMem hcolon, if_true,
    Option.map_none]

lemma lookupArgs_nameService (hne : node ≠ []) (hcolon : 58 ∉ node) (hplain : node.head? ≠ some 91)
    (hport : 58 ∉ port) : lookupArgs (node ++ 58 :: port) = (cStr node, some (cStr port)) := by
  have hhead : (node ++ 58 :: port).head? ≠ some 91 := by
    rwa [List.head?_append_of_ne_nil _ hne]
  have hservice : (node ++ 58 :: port).drop (node.length + 1) = port := by
    rw [← List.drop_drop, List.drop_left, List.drop_one, List.tail_cons]
  simp only [lookupArgs, lookupBracket_of_plain hhead, lookupColon_one hcolon hport, if_true, hne,
    if_false, Option.map_some, hservice]

lemma lookupArgs_brackets (hne : v6 ≠ []) (hv6 : 93 ∉ v6) :
    lookupArgs (91 :: (v6 ++ [93])) = (cStr v6, none) :=
  lookupArgs_of_bracket (lookupBracket_brackets hv6 []) hne

lemma lookupArgs_bracketService (hne : v6 ≠ []) (hv6 : 93 ∉ v6) (port : Bytes) :
    lookupArgs (91 :: (v6 ++ 93 :: 58 :: port)) = (cStr v6, some (cStr port)) := by
  have hservice : (91 :: (v6 ++ 93 :: 58 :: port)).drop (v6.length + 3) = port := by
    rw [List.drop_succ_cons, ← List.drop_drop, List.drop_left]
    rfl
  rw [lookupArgs_of_bracket (lookupBracket_brackets hv6 (58 :: port)) hne]
  simp only [List.head?_cons, if_true, Option.map_some, hservice]

/-- **Splitting.**  A text is split into the node and the service it names exactly if it is in
brackets or has at most one colon. -/
theorem lookupArgs_eq_iff (h : Names host node service) :
    lookupArgs host = (cStr node, service.map cStr) ↔ host.head? = some 91 ∨ host.count 58 ≤ 1 := by
  cases h with
  | name hne hcolon hplain =>
    have hone : host.count 58 ≤ 1 := by
      rw [List.count_eq_zero.mpr hcolon]
      exact Nat.zero_le 1
    exact iff_of_true (lookupArgs_name hcolon hplain) (.inr hone)
  | @nameService _ port hne hcolon hplain hport =>
    have hone : (node ++ 58 :: port).count 58 ≤ 1 := by
      rw [List.count_append, List.count_cons_self, List.count_eq_zero.mpr hcolon,
        List.count_eq_zero.mpr hport]
    exact iff_of_true (lookupArgs_nameService hne hcolon hplain hport) (.inr hone)
  | bracket hne hv6 => exact iff_of_true (lookupArgs_brackets hne hv6) (.inl rfl)
  | bracketService port hne hv6 =>
    exact iff_of_true (lookupArgs_bracketService hne hv6 port) (.inl rfl)
  | literal hplain hcolons =>
    obtain ⟨rest, hargs⟩ := lookupArgs_literal hplain hcolons
    refine iff_of_false ?_ ?_
    · rw [hargs]
      exact fun heq => Option.some_ne_none _ (Prod.mk.inj heq).2
    · exact not_or.mpr ⟨hplain, by omega⟩

/-- A name and a port are split. -/
theorem lookupArgs_localhost :
    lookupArgs (ascii "localhost:8020") = (ascii "localhost", some (ascii "8020")) := by
  have hnames : Names (ascii "localhost:8020") (ascii "localhost") (some (ascii "8020")) :=
    @Names.nameService (ascii "localhost") (ascii "8020") (by decide) (by decide) (by decide)
      (by decide)
  exact (lookupArgs_eq_iff hnames).mpr (.inr (by decide))

/-- The loopback address without brackets is looked up with itself as the service. -/
theorem lookupArgs_loopback :
    lookupArgs (ascii "::1") = (ascii "::1", some (ascii "::1")) ∧
      ¬ ∀ host node service, Names host node service →
        lookupArgs host = (cStr node, service.map cStr) := by
  have hargs : lookupArgs (ascii "::1") = (ascii "::1", some (ascii "::1")) := by decide
  refine ⟨hargs, fun hall => ?_⟩
  have hsplit := hall _ _ _ (Names.literal (show (ascii "::1").head? ≠ some 91 by decide)
    (by decide))
  rw [hargs] at hsplit
  exact Option.some_ne_none _ (Prod.mk.inj hsplit).2

end Address

end CoroutineGateway
