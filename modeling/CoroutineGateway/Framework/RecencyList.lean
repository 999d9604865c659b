import Mathlib.Data.List.Nodup

/-!
# Lists in order of use

The meaning of a least-recently-used cache: a list of bindings, the most recently used first,
with at most one binding a key.  Looking a key up moves its binding to the front (`touch`);
binding a key puts it at the front, and makes room by dropping the last binding where the list
has reached its bound (`put`).

`Keyed` says that no key is bound twice; both operations keep it, and under it `lookup` is
membership (`lookup_eq_some_iff`).  `mem_touch` and `mem_of_mem_put` say which bindings the
operations leave: a property that every binding has is kept by `touch`, and by `put` if the new
binding has it.

The last section is about the bound: the list never outgrows it (`length_put_le`), a key gives way
only when the list has reached it (`le_length_of_put_drops`), and then one does
(`exists_dropped_of_put`).
-/

namespace CoroutineGateway

namespace RecencyList

variable {K V : Type*} [DecidableEq K]

/-- The value bound to a key. -/
def lookup (k : K) (l : List (K × V)) : Option V := (l.find? (·.1 = k)).map Prod.snd

/-- The list without the binding of a key. -/
def erase (k : K) (l : List (K × V)) : List (K × V) := l.eraseP (·.1 = k)

/-- A use of a key. -/
def touch (k : K) (l : List (K × V)) : List (K × V) :=
  match lookup k l with
  | some v => (k, v) :: erase k l
  | none => l

omit [DecidableEq K] in
/-- Make room for one more binding. -/
def makeRoom (bound : Option ℕ) (l : List (K × V)) : List (K × V) :=
  if ∃ c ∈ bound, c ≤ l.length then l.dropLast else l

/-- Bind a key. -/
def put (bound : Option ℕ) (k : K) (v : V) (l : List (K × V)) : List (K × V) :=
  match lookup k l with
  | some _ => (k, v) :: erase k l
  | none => (k, v) :: makeRoom bound l

omit [DecidableEq K] in
/-- No key is bound twice. -/
def Keyed (l : List (K × V)) : Prop := (l.map Prod.fst).Nodup

/-! ## Looking up -/

variable {k k' : K} {v v' : V} {l : List (K × V)} {bound : Option ℕ}

lemma mem_of_lookup (h : lookup k l = some v) : (k, v) ∈ l := by
  obtain ⟨⟨k', v'⟩, hfind, rfl⟩ := Option.map_eq_some_iff.mp h
  have hk : k' = k := by simpa using List.find?_some hfind
  exact hk ▸ List.mem_of_find?_eq_some hfind

lemma lookup_eq_none_iff : lookup k l = none ↔ ∀ e ∈ l, e.1 ≠ k := by
  simp [lookup, List.find?_eq_none]

omit [DecidableEq K] in
lemma Keyed.eq_of_mem (hl : Keyed l) (h : (k, v) ∈ l) (h' : (k, v') ∈ l) : v = v' :=
  congrArg Prod.snd (List.inj_on_of_nodup_map hl h h' rfl)

/-- In a keyed list the lookup is membership. -/
lemma lookup_eq_some_iff (hl : Keyed l) : lookup k l = some v ↔ (k, v) ∈ l := by
  refine ⟨mem_of_lookup, fun h => ?_⟩
  cases hlook : lookup k l with
  | none => exact absurd rfl (lookup_eq_none_iff.mp hlook _ h)
  | some v' => rw [hl.eq_of_mem h (mem_of_lookup hlook)]

/-! ## What the operations leave -/

lemma mem_of_mem_erase {e : K × V} (h : e ∈ erase k l) : e ∈ l :=
  List.mem_of_mem_eraseP h

/-- A use leaves the bindings as they are. -/
lemma mem_of_mem_touch {e : K × V} (h : e ∈ touch k l) : e ∈ l := by
  unfold touch at h
  cases hlook : lookup k l with
  | none => simpa [hlook] using h
  | some v =>
    rw [hlook] at h
    rcases List.mem_cons.mp h with rfl | h
    · exact mem_of_lookup hlook
    · exact mem_of_mem_erase h

omit [DecidableEq K] in
lemma makeRoom_sublist (bound : Option ℕ) (l : List (K × V)) : (makeRoom bound l).Sublist l := by
  unfold makeRoom
  split_ifs
  · exact List.dropLast_sublist l
  · exact List.Sublist.refl l

/-- A binding after `put` is the new one or one from before. -/
lemma mem_of_mem_put {e : K × V} (h : e ∈ put bound k v l) : e = (k, v) ∨ e ∈ l := by
  unfold put at h
  cases hlook : lookup k l with
  | none =>
    rw [hlook] at h
    exact (List.mem_cons.mp h).imp_right fun h => (makeRoom_sublist bound l).subset h
  | some w =>
    rw [hlook] at h
    exact (List.mem_cons.mp h).imp_right mem_of_mem_erase

/-- The new binding is there. -/
lemma mem_put_self : (k, v) ∈ put bound k v l := by
  unfold put
  cases lookup k l <;> exact List.mem_cons_self

/-! ## Keys stay distinct -/

lemma Keyed.notMem_erase (hl : Keyed l) : ∀ e ∈ erase k l, e.1 ≠ k := by
  induction l with
  | nil => simp [erase]
  | cons e l ih =>
    obtain ⟨hnot, hl'⟩ := List.nodup_cons.mp hl
    by_cases he : e.1 = k
    · intro x hx hxk
      rw [erase, List.eraseP_cons_of_pos (by simpa using he)] at hx
      exact hnot (List.mem_map.mpr ⟨x, hx, hxk.trans he.symm⟩)
    · intro x hx
      rw [erase, List.eraseP_cons_of_neg (by simpa using he)] at hx
      rcases List.mem_cons.mp hx with rfl | hx
      · exact he
      · exact ih hl' x hx

omit [DecidableEq K] in
lemma Keyed.cons (hl : Keyed l) (hk : ∀ e ∈ l, e.1 ≠ k) : Keyed ((k, v) :: l) := by
  refine List.nodup_cons.mpr ⟨fun h => ?_, hl⟩
  obtain ⟨e, he, hek⟩ := List.mem_map.mp h
  exact hk e he hek

omit [DecidableEq K] in
lemma Keyed.sublist (hl : Keyed l) {l' : List (K × V)} (h : l'.Sublist l) : Keyed l' :=
  List.Nodup.sublist (h.map _) hl

lemma Keyed.moveToFront (hl : Keyed l) (k : K) (v : V) : Keyed ((k, v) :: erase k l) :=
  Keyed.cons (hl.sublist List.eraseP_sublist) hl.notMem_erase

lemma Keyed.touch (hl : Keyed l) (k : K) : Keyed (touch k l) := by
  unfold RecencyList.touch
  cases lookup k l with
  | none => exact hl
  | some v => exact hl.moveToFront k v

lemma Keyed.put (hl : Keyed l) (bound : Option ℕ) (k : K) (v : V) : Keyed (put bound k v l) := by
  unfold RecencyList.put
  cases hlook : lookup k l with
  | none =>
    refine Keyed.cons (hl.sublist (makeRoom_sublist bound l)) fun e he => ?_
    exact lookup_eq_none_iff.mp hlook e ((makeRoom_sublist bound l).subset he)
  | some w => exact hl.moveToFront k v

/-! ## The bound -/

lemma map_fst_erase (k : K) (l : List (K × V)) :
    (erase k l).map Prod.fst = (l.map Prod.fst).erase k := by
  induction l with
  | nil => rfl
  | cons e l ih =>
    by_cases he : e.1 = k
    · simp [erase, he]
    · simpa [erase, he] using ih

/-- Moving a binding to the front keeps the keys. -/
lemma perm_moveToFront (h : lookup k l = some v') (v : V) :
    (((k, v) :: erase k l).map Prod.fst).Perm (l.map Prod.fst) := by
  rw [List.map_cons, map_fst_erase]
  have hmem : k ∈ l.map Prod.fst := List.mem_map_of_mem (mem_of_lookup h)
  exact (List.perm_cons_erase hmem).symm

/-- A use keeps the keys. -/
lemma perm_touch (k : K) (l : List (K × V)) :
    ((touch k l).map Prod.fst).Perm (l.map Prod.fst) := by
  unfold touch
  cases hlook : lookup k l with
  | none => exact List.Perm.refl _
  | some v => exact perm_moveToFront hlook v

/-- So does binding a key that is bound. -/
lemma perm_put (h : lookup k l = some v') (v : V) :
    ((put bound k v l).map Prod.fst).Perm (l.map Prod.fst) := by
  rw [put, h]
  exact perm_moveToFront h v

lemma put_of_fresh (h : lookup k l = none) (v : V) :
    put bound k v l = (k, v) :: makeRoom bound l := by
  rw [put, h]

omit [DecidableEq K] in
lemma makeRoom_of_le {n : ℕ} (h : n ≤ l.length) : makeRoom (some n) l = l.dropLast := by
  simp [makeRoom, h]

omit [DecidableEq K] in
lemma makeRoom_of_lt {n : ℕ} (h : l.length < n) : makeRoom (some n) l = l := by
  simp [makeRoom, Nat.not_le_of_lt h]

/-- The list does not outgrow the bound. -/
theorem length_put_le {n : ℕ} (hpos : 1 ≤ n) (h : l.length ≤ n) (k : K) (v : V) :
    (put (some n) k v l).length ≤ n := by
  cases hlook : lookup k l with
  | some w =>
    have hperm : ((put (some n) k v l).map Prod.fst).Perm (l.map Prod.fst) := perm_put hlook v
    have hlen := hperm.length_eq
    rw [List.length_map, List.length_map] at hlen
    omega
  | none =>
    rw [put_of_fresh hlook, List.length_cons]
    by_cases hfull : n ≤ l.length
    · rw [makeRoom_of_le hfull, List.length_dropLast]
      omega
    · rw [makeRoom_of_lt (Nat.lt_of_not_le hfull)]
      omega

/-- A key gives way only to a list that has reached the bound. -/
theorem le_length_of_put_drops {n : ℕ} (hk : k' ∈ l.map Prod.fst)
    (hgone : k' ∉ (put (some n) k v l).map Prod.fst) : n ≤ l.length := by
  by_contra hroom
  refine hgone ?_
  cases hlook : lookup k l with
  | some w => exact (perm_put hlook v).mem_iff.mpr hk
  | none =>
    rw [put_of_fresh hlook, makeRoom_of_lt (Nat.lt_of_not_le hroom)]
    exact List.mem_cons_of_mem _ hk

/-- A new key takes the place of another one in such a list. -/
theorem exists_dropped_of_put {n : ℕ} (hl : Keyed l) (hpos : 1 ≤ n) (hfull : n ≤ l.length)
    (hk : ∀ e ∈ l, e.1 ≠ k) (v : V) :
    ∃ k' ∈ l.map Prod.fst, k' ∉ (put (some n) k v l).map Prod.fst := by
  have hne : l ≠ [] := by
    rintro rfl
    exact Nat.not_succ_le_zero 0 (Nat.le_trans hpos hfull)
  obtain ⟨rest, e, rfl⟩ : ∃ rest e, l = rest ++ [e] :=
    ⟨l.dropLast, l.getLast hne, (List.dropLast_append_getLast hne).symm⟩
  have hlast : e ∈ rest ++ [e] := by simp
  refine ⟨e.1, List.mem_map_of_mem hlast, ?_⟩
  rw [put_of_fresh (lookup_eq_none_iff.mpr hk), makeRoom_of_le hfull, List.dropLast_concat,
    List.map_cons, List.mem_cons, not_or]
  refine ⟨hk e hlast, fun hmem => ?_⟩
  rw [Keyed, List.map_append] at hl
  exact (List.nodup_append.mp hl).2.2 e.1 hmem e.1 (by simp) rfl

end RecencyList

end CoroutineGateway
