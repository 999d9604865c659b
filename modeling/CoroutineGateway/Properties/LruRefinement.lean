import CoroutineGateway.Construction.LruCache
import CoroutineGateway.Framework.RecencyList
import Mathlib.Data.Set.Function

/-!
# The LRU cache is a list in order of use

`LruCache.Sound` ties the map of an `LRUCache` to its list: no two elements have one iterator,
and the map knows exactly the keys of the list, each with the iterator of its own element.  A
new and an assigned cache are sound, and `push` and `get` keep it.

Under it the operations are those of `Framework/RecencyList.lean` on the bindings of the cache:
`get` is `lookup` followed by `touch` (`Sound.get_value`, `Sound.bindings_get`), and `push` is
`put` with the capacity as the bound (`Sound.bindings_push`).
-/

namespace CoroutineGateway

namespace LruCache

variable {K V : Type*}

/-- The bindings, in the order of the list. -/
def bindings (c : LruCache K V) : List (K × V) := c.myList.map fun e => (e.2.key, e.2.value)

/-- The bound on the number of bindings. -/
def bound (c : LruCache K V) : Option ℕ :=
  if c.capacity.1 = -1 then none else some c.capacity.1.toNat

/-- The map is the index of the list, and no two elements have one iterator. -/
structure Sound (c : LruCache K V) : Prop where
  iterators : (c.myList.map Prod.fst).Nodup
  allocated : ∀ e ∈ c.myList, e.1 < c.allocated
  index : ∀ k it, c.map k = some it ↔ ∃ e ∈ c.myList, e.1 = it ∧ e.2.key = k

variable {c : LruCache K V} {k : K} {v : V}

lemma sound_init (capacity : Capacity) : (init capacity : LruCache K V).Sound :=
  ⟨List.nodup_nil, by simp [init], by simp [init]⟩

lemma sound_assign (capacity : Capacity) : (c.assign capacity).Sound :=
  ⟨List.nodup_nil, by simp [assign], by simp [assign]⟩

/-- The elements of a key. -/
lemma Sound.eq_of_key_eq (hc : c.Sound) {e e' : ℕ × LruNode K V} (he : e ∈ c.myList)
    (he' : e' ∈ c.myList) (h : e.2.key = e'.2.key) : e = e' := by
  have hm := (hc.index e.2.key e.1).mpr ⟨e, he, rfl, rfl⟩
  have hm' := (hc.index e.2.key e'.1).mpr ⟨e', he', rfl, h.symm⟩
  exact List.inj_on_of_nodup_map hc.iterators he he' (Option.some.inj (hm.symm.trans hm'))

lemma Sound.keyed (hc : c.Sound) : RecencyList.Keyed c.bindings := by
  have hkeys : (c.myList.map fun e => e.2.key).Nodup :=
    List.Nodup.map_on (fun e he e' he' h => hc.eq_of_key_eq he he' h) hc.iterators.of_map
  simpa [RecencyList.Keyed, bindings, Function.comp_def] using hkeys

lemma Sound.lookup_eq_none [DecidableEq K] (hc : c.Sound) (h : c.map k = none) :
    RecencyList.lookup k c.bindings = none := by
  refine RecencyList.lookup_eq_none_iff.mpr fun b hb hk => ?_
  obtain ⟨e, he, rfl⟩ := List.mem_map.mp hb
  have := (hc.index k e.1).mpr ⟨e, he, rfl, hk⟩
  rw [h] at this
  cases this

/-- The element of a key that the map knows, and the list around it. -/
lemma Sound.split (hc : c.Sound) {it : ℕ} (h : c.map k = some it) :
    ∃ pre node post, c.myList = pre ++ (it, node) :: post ∧ node.key = k ∧
      (∀ e ∈ pre, e.1 ≠ it) ∧ ∀ e ∈ pre, e.2.key ≠ k := by
  obtain ⟨⟨it', node⟩, he, rfl, hk⟩ := (hc.index k it).mp h
  obtain ⟨pre, post, hsplit⟩ := List.append_of_mem he
  have hit := hc.iterators
  simp only [hsplit, List.map_append, List.map_cons] at hit
  have hpre : ∀ e ∈ pre, e.1 ≠ it' := fun e hep heq =>
    (List.nodup_append.mp hit).2.2 e.1 (List.mem_map_of_mem hep) it' List.mem_cons_self heq
  refine ⟨pre, node, post, hsplit, hk, hpre, fun e hep hek => hpre e hep ?_⟩
  exact congrArg Prod.fst (hc.eq_of_key_eq (hsplit ▸ List.mem_append_left _ hep) he
    (hek.trans hk.symm))

lemma splice_split {it : ℕ} {pre post : List (ℕ × LruNode K V)} {node : LruNode K V}
    (hpre : ∀ e ∈ pre, e.1 ≠ it) :
    splice it (pre ++ (it, node) :: post) = (it, node) :: (pre ++ post) := by
  have hfind : (pre ++ (it, node) :: post).find? (·.1 = it) = some (it, node) := by
    rw [List.find?_append, List.find?_eq_none.mpr (by simpa using hpre)]
    simp
  have herase : (pre ++ (it, node) :: post).eraseP (·.1 = it) = pre ++ post := by
    rw [List.eraseP_append_right _ (by simpa using hpre)]
    simp
  rw [splice, hfind, herase]

/-! ## `get` -/

section Get

variable [DecidableEq K]

/-- The element of a key that the map knows, and the bindings with and without it. -/
lemma Sound.split_bindings (hc : c.Sound) {it : ℕ} (h : c.map k = some it) :
    ∃ pre node post, c.myList = pre ++ (it, node) :: post ∧ node.key = k ∧
      (∀ e ∈ pre, e.1 ≠ it) ∧ RecencyList.lookup k c.bindings = some node.value ∧
      RecencyList.erase k c.bindings = (pre ++ post).map fun e => (e.2.key, e.2.value) := by
  obtain ⟨pre, node, post, hsplit, hk, hit, hkeys⟩ := hc.split h
  have hfind : ∀ e ∈ pre.map fun e => (e.2.key, e.2.value), ¬ decide (e.1 = k) = true := by
    intro e he
    obtain ⟨x, hx, rfl⟩ := List.mem_map.mp he
    simpa using hkeys x hx
  refine ⟨pre, node, post, hsplit, hk, hit, ?_⟩
  simp only [bindings, hsplit, List.map_append, List.map_cons]
  constructor
  · rw [RecencyList.lookup, List.find?_append, List.find?_eq_none.mpr hfind]
    simp [hk]
  · rw [RecencyList.erase, List.eraseP_append_right _ hfind]
    simp [hk]

variable [Inhabited V]

/-- What `get` returns is the binding of the key. -/
theorem Sound.get_value (hc : c.Sound) (k : K) :
    (c.get k).1 = ((RecencyList.lookup k c.bindings).isSome,
      (RecencyList.lookup k c.bindings).getD default) := by
  unfold get
  cases hm : c.map k with
  | none => simp [hc.lookup_eq_none hm]
  | some it =>
    obtain ⟨pre, node, post, hsplit, hk, hit, hlook, -⟩ := hc.split_bindings hm
    simp [hlook, hsplit, splice_split hit]

/-- `get` is a use of the key. -/
theorem Sound.bindings_get (hc : c.Sound) (k : K) :
    (c.get k).2.bindings = RecencyList.touch k c.bindings := by
  unfold get RecencyList.touch
  cases hm : c.map k with
  | none => simp [hc.lookup_eq_none hm]
  | some it =>
    obtain ⟨pre, node, post, hsplit, hk, hit, hlook, herase⟩ := hc.split_bindings hm
    rw [hlook, herase]
    simp [bindings, hsplit, splice_split hit, hk]

end Get

/-- Moving an element to the front and changing its value keep the index. -/
lemma Sound.moveToFront (hc : c.Sound) {it : ℕ} {pre post : List (ℕ × LruNode K V)}
    {node : LruNode K V} (hsplit : c.myList = pre ++ (it, node) :: post) (value : V) :
    ({ c with myList := (it, { node with value }) :: (pre ++ post) } : LruCache K V).Sound := by
  have hperm : (c.myList.map Prod.fst).Perm (it :: (pre ++ post).map Prod.fst) := by
    simp [hsplit]
  have hnodup := hperm.nodup_iff.mp hc.iterators
  refine ⟨hnodup, fun e he => ?_, fun k' it' => (hc.index k' it').trans ?_⟩
  · rcases List.mem_cons.mp he with rfl | he
    · exact hc.allocated (it, node) (by simp [hsplit])
    · refine hc.allocated e ?_
      rw [hsplit]
      exact (List.mem_append.mp he).elim (List.mem_append_left _)
        fun h => List.mem_append_right _ (List.mem_cons_of_mem _ h)
  · simp only [hsplit, List.mem_append, List.mem_cons]
    constructor
    · rintro ⟨e, he | rfl | he, hit, hk⟩
      · exact ⟨e, .inr (.inl he), hit, hk⟩
      · exact ⟨_, .inl rfl, hit, hk⟩
      · exact ⟨e, .inr (.inr he), hit, hk⟩
    · rintro ⟨e, rfl | he | he, hit, hk⟩
      · exact ⟨_, .inr (.inl rfl), hit, hk⟩
      · exact ⟨e, .inl he, hit, hk⟩
      · exact ⟨e, .inr (.inr he), hit, hk⟩

lemma Sound.get [Inhabited V] (hc : c.Sound) (k : K) : (c.get k).2.Sound := by
  unfold LruCache.get
  cases hm : c.map k with
  | none => exact hc
  | some it =>
    obtain ⟨pre, node, post, hsplit, -, hit, -⟩ := hc.split hm
    simpa only [hsplit, splice_split hit] using hc.moveToFront hsplit node.value

/-! ## `push` -/

variable [DecidableEq K]

lemma Sound.evict (hc : c.Sound) : c.evict.Sound := by
  unfold LruCache.evict
  cases hlast : c.myList.getLast? with
  | none => exact hc
  | some e =>
    obtain ⟨init, hinit⟩ := List.getLast?_eq_some_iff.mp hlast
    have hdrop : c.myList.dropLast = init := by rw [hinit, List.dropLast_concat]
    have hnot : e ∉ init := by
      intro he
      have hnodup := hc.iterators
      rw [hinit, List.map_append] at hnodup
      exact (List.nodup_append.mp hnodup).2.2 e.1 (List.mem_map_of_mem he) e.1 (by simp) rfl
    have hmem : ∀ x ∈ init, x ∈ c.myList := fun x hx => hinit ▸ List.mem_append_left _ hx
    have heC : e ∈ c.myList := by simp [hinit]
    refine ⟨?_, fun x hx => hc.allocated x (List.mem_of_mem_dropLast hx), fun k it => ?_⟩
    · exact hc.iterators.sublist ((List.dropLast_sublist _).map _)
    · simp only [hdrop]
      by_cases hk : k = e.2.key
      · rw [hk, Function.update_self]
        constructor
        · intro h
          cases h
        · rintro ⟨x, hx, -, hxk⟩
          exact absurd (hc.eq_of_key_eq (hmem x hx) heC hxk ▸ hx) hnot
      · rw [Function.update_of_ne hk, hc.index]
        constructor
        · rintro ⟨x, hx, hit, hxk⟩
          rw [hinit] at hx
          rcases List.mem_append.mp hx with hx | hx
          · exact ⟨x, hx, hit, hxk⟩
          · obtain rfl := List.mem_singleton.mp hx
            exact absurd hxk.symm hk
        · rintro ⟨x, hx, hit, hxk⟩
          exact ⟨x, hmem x hx, hit, hxk⟩

lemma map_evict (h : c.map k = none) : c.evict.map k = none := by
  unfold LruCache.evict
  cases c.myList.getLast? with
  | none => exact h
  | some e =>
    by_cases hk : k = e.2.key
    · simp [hk]
    · simpa [Function.update_of_ne hk] using h

lemma bindings_evict : c.evict.bindings = c.bindings.dropLast := by
  unfold LruCache.evict
  cases hlast : c.myList.getLast? with
  | none =>
    have hnil : c.myList = [] := List.getLast?_eq_none_iff.mp hlast
    simp [bindings, hnil]
  | some e => simp [bindings, List.map_dropLast]

/-- A new element with a new key and a new iterator keeps the index. -/
lemma Sound.emplaceFront (hc : c.Sound) (hk : c.map k = none) (v : V) :
    ({ c with
      allocated := c.allocated + 1
      myList := (c.allocated, ⟨k, v⟩) :: c.myList
      map := Function.update c.map k (some c.allocated) } : LruCache K V).Sound := by
  refine ⟨List.nodup_cons.mpr ⟨fun h => ?_, hc.iterators⟩, fun e he => ?_, fun k' it => ?_⟩
  · obtain ⟨e, he, heq⟩ := List.mem_map.mp h
    exact absurd (hc.allocated e he) (by omega)
  · rcases List.mem_cons.mp he with rfl | he
    · exact Nat.lt_succ_self _
    · exact Nat.lt_succ_of_lt (hc.allocated e he)
  · simp only
    by_cases hk' : k' = k
    · subst hk'
      rw [Function.update_self, Option.some.injEq]
      constructor
      · rintro rfl
        exact ⟨_, List.mem_cons_self, rfl, rfl⟩
      · rintro ⟨e, he, hit, hek⟩
        rcases List.mem_cons.mp he with rfl | he
        · exact hit
        · have := (hc.index k' e.1).mpr ⟨e, he, rfl, hek⟩
          rw [hk] at this
          cases this
    · rw [Function.update_of_ne hk', hc.index]
      constructor
      · rintro ⟨e, he, h⟩
        exact ⟨e, List.mem_cons_of_mem _ he, h⟩
      · rintro ⟨e, he, hit, hek⟩
        rcases List.mem_cons.mp he with rfl | he
        · exact absurd hek.symm hk'
        · exact ⟨e, he, hit, hek⟩

omit [DecidableEq K] in
lemma full_iff : c.full = true ↔ ∃ n ∈ c.bound, n ≤ c.bindings.length := by
  have hcap := c.capacity.2
  by_cases hno : c.capacity.1 = -1
  · simp [full, bound, hno]
  · have hlen : c.bindings.length = c.myList.length := List.length_map _
    simp only [full, bound, hno, if_false, Option.mem_def, Option.some.injEq, exists_eq_left', hlen,
      ne_eq, not_false_eq_true, true_and, decide_eq_true_eq]
    omega

lemma Sound.push (hc : c.Sound) (k : K) (v : V) : (c.push k v).Sound := by
  unfold LruCache.push
  cases hm : c.map k with
  | some it =>
    obtain ⟨pre, node, post, hsplit, -, hit, -⟩ := hc.split hm
    simpa only [hsplit, splice_split hit, List.modifyHead_cons] using hc.moveToFront hsplit v
  | none =>
    by_cases hfull : c.full
    · simpa [hfull] using hc.evict.emplaceFront (map_evict hm) v
    · simpa [hfull] using hc.emplaceFront hm v

/-- `push` binds the key, with the capacity as the bound. -/
theorem Sound.bindings_push (hc : c.Sound) (k : K) (v : V) :
    (c.push k v).bindings = RecencyList.put c.bound k v c.bindings := by
  unfold LruCache.push RecencyList.put
  cases hm : c.map k with
  | some it =>
    obtain ⟨pre, node, post, hsplit, hk, hit, hlook, herase⟩ := hc.split_bindings hm
    rw [hlook, herase]
    simp [bindings, hsplit, splice_split hit, hk]
  | none =>
    rw [hc.lookup_eq_none hm, RecencyList.makeRoom]
    by_cases hfull : c.full
    · rw [if_pos (full_iff.mp hfull), ← bindings_evict]
      simp [bindings, hfull]
    · rw [if_neg fun h => hfull (full_iff.mpr h)]
      simp [bindings, hfull]

end LruCache

end CoroutineGateway
