import CoroutineGateway.Framework.StackDistance
import CoroutineGateway.Properties.LruRefinement

/-!
# What an LRU cache answers, from its history

`LruRun` is a cache together with what was done to it since it was created: the keys that were
used, the last one first, where a `get` without a hit is no use; and the bindings that were pushed,
the last one first.

The invariant `LruRun.Recalls` says that the list of the cache holds the last keys used, as many as
the capacity allows (`StackDistance.Holds`), each with the value it was last pushed with.
`LruRun.answers` reads the four facts about the data structure and the answer of `get` off it.
-/

namespace CoroutineGateway

variable {K V : Type*}

namespace LruCache

/-- `*it` -/
def node (c : LruCache K V) (it : ℕ) : Option (LruNode K V) :=
  (c.myList.find? (·.1 = it)).map Prod.snd

variable {c : LruCache K V} {k : K} {v : V}

/-- An iterator that the map has for a key points at the node of the key. -/
lemma Sound.node_key (hc : c.Sound) {it : ℕ} (h : c.map k = some it) :
    ∃ n, c.node it = some n ∧ n.key = k := by
  obtain ⟨pre, n, post, hsplit, hk, hpre, -⟩ := hc.split h
  refine ⟨n, ?_, hk⟩
  rw [node, hsplit, List.find?_append, List.find?_eq_none.mpr (by simpa using hpre)]
  simp

/-- The keys of the map are those of the list. -/
lemma Sound.isSome_map_iff (hc : c.Sound) :
    (c.map k).isSome ↔ k ∈ c.myList.map fun e => e.2.key := by
  rw [Option.isSome_iff_exists, List.mem_map]
  constructor
  · rintro ⟨it, h⟩
    obtain ⟨e, he, -, hk⟩ := (hc.index k it).mp h
    exact ⟨e, he, hk⟩
  · rintro ⟨e, he, hk⟩
    exact ⟨e.1, (hc.index k e.1).mpr ⟨e, he, rfl, hk⟩⟩

lemma map_fst_bindings (c : LruCache K V) :
    c.bindings.map Prod.fst = c.myList.map fun e => e.2.key := by
  simp [bindings, Function.comp_def]

variable [DecidableEq K]

lemma capacity_push (c : LruCache K V) (k : K) (v : V) : (c.push k v).capacity = c.capacity := by
  have hevict : c.evict.capacity = c.capacity := by
    unfold evict
    cases c.myList.getLast? <;> rfl
  unfold push
  cases c.map k with
  | some it => rfl
  | none =>
    by_cases hfull : c.full
    · simpa [hfull] using hevict
    · simp [hfull]

omit [DecidableEq K] in
lemma capacity_get [Inhabited V] (c : LruCache K V) (k : K) :
    (c.get k).2.capacity = c.capacity := by
  unfold get
  cases c.map k <;> rfl

omit [DecidableEq K] in
lemma mem_bound_iff {n : ℕ} : n ∈ c.bound ↔ c.capacity.1 ≠ -1 ∧ c.capacity.1 = n := by
  have hcap := c.capacity.2
  by_cases hno : c.capacity.1 = -1
  · simp [bound, hno]
  · simp only [bound, hno, if_false, Option.mem_def, Option.some.injEq, ne_eq, not_false_eq_true,
      true_and]
    omega

end LruCache

/-- A call of one of the two operations. -/
inductive LruCall (K V : Type*)
  | push (key : K) (value : V)
  | get (key : K)

/-- A cache and its history. -/
structure LruRun (K V : Type*) where
  cache : LruCache K V
  /-- The keys pushed, or got with a hit, the last one first. -/
  used : List K
  /-- The bindings pushed, the last one first. -/
  pushed : List (K × V)

namespace LruRun

/-- A new cache. -/
def start (capacity : Capacity) : LruRun K V := ⟨LruCache.init capacity, [], []⟩

variable [DecidableEq K] [Inhabited V]

/-- One call. -/
def call (s : LruRun K V) : LruCall K V → LruRun K V
  | .push k v => ⟨s.cache.push k v, k :: s.used, (k, v) :: s.pushed⟩
  | .get k =>
    let r := s.cache.get k
    ⟨r.2, if r.1.1 then k :: s.used else s.used, s.pushed⟩

/-- The calls of a run, in order. -/
def after (capacity : Capacity) (calls : List (LruCall K V)) : LruRun K V :=
  calls.foldl call (start capacity)

omit [Inhabited V] in
/-- The value a key was last pushed with. -/
def lastPushed (s : LruRun K V) (k : K) : Option V := RecencyList.lookup k s.pushed

omit [Inhabited V] in
/-- The cache holds what its history says. -/
structure Recalls (capacity : Capacity) (s : LruRun K V) : Prop where
  sound : s.cache.Sound
  capacity : s.cache.capacity = capacity
  holds : StackDistance.Holds s.cache.bound s.used s.cache.bindings
  values : ∀ b ∈ s.cache.bindings, s.lastPushed b.1 = some b.2
  used : ∀ b ∈ s.pushed, b.1 ∈ s.used

variable {capacity : Capacity} {s : LruRun K V} {k : K} {v : V}

omit [Inhabited V] in
lemma recalls_start (capacity : Capacity) : Recalls capacity (start capacity : LruRun K V) :=
  ⟨LruCache.sound_init capacity, rfl, StackDistance.holds_nil _, by
    simp [start, LruCache.init, LruCache.bindings], by simp [start]⟩

omit [Inhabited V] in
lemma Recalls.push (h : Recalls capacity s) (k : K) (v : V) :
    Recalls capacity ⟨s.cache.push k v, k :: s.used, (k, v) :: s.pushed⟩ := by
  have hbound : (s.cache.push k v).bound = s.cache.bound := by
    rw [LruCache.bound, LruCache.capacity_push, LruCache.bound]
  have hpos : ∀ c ∈ s.cache.bound, 1 ≤ c := by
    intro c hc
    obtain ⟨hno, heq⟩ := LruCache.mem_bound_iff.mp hc
    have := s.cache.capacity.2
    omega
  have hsound := h.sound.push k v
  refine ⟨hsound, (s.cache.capacity_push k v).trans h.capacity, ?_, fun b hb => ?_, fun b hb => ?_⟩
  · rw [hbound, h.sound.bindings_push]
    exact h.holds.put hpos k v
  · by_cases hk : b.1 = k
    · -- The list has one binding for the key, and that is the new one.
      have hself : (k, v) ∈ (s.cache.push k v).bindings := by
        rw [h.sound.bindings_push]
        exact RecencyList.mem_put_self
      have hv : v = b.2 := hsound.keyed.eq_of_mem hself (hk ▸ hb)
      simp [lastPushed, RecencyList.lookup, hk, hv]
    · rw [h.sound.bindings_push] at hb
      rcases RecencyList.mem_of_mem_put hb with rfl | hb
      · exact absurd rfl hk
      · have hold := h.values b hb
        simpa [lastPushed, RecencyList.lookup, Ne.symm hk] using hold
  · rcases List.mem_cons.mp hb with rfl | hb
    · exact List.mem_cons_self
    · exact List.mem_cons_of_mem k (h.used b hb)

lemma Recalls.get (h : Recalls capacity s) (k : K) : Recalls capacity (s.call (.get k)) := by
  have hbound : (s.cache.get k).2.bound = s.cache.bound := by
    rw [LruCache.bound, LruCache.capacity_get, LruCache.bound]
  refine ⟨h.sound.get k, (s.cache.capacity_get k).trans h.capacity, ?_, fun b hb => ?_,
    fun b hb => ?_⟩
  · simp only [call, hbound, h.sound.bindings_get, h.sound.get_value]
    cases hlook : RecencyList.lookup k s.cache.bindings with
    | none => exact h.holds.touch_of_none hlook
    | some v => exact h.holds.touch hlook
  · simp only [call, h.sound.bindings_get] at hb
    exact h.values b (RecencyList.mem_of_mem_touch hb)
  · simp only [call]
    split_ifs
    · exact List.mem_cons_of_mem k (h.used b hb)
    · exact h.used b hb

lemma Recalls.call (h : Recalls capacity s) : ∀ c, Recalls capacity (s.call c)
  | .push k v => h.push k v
  | .get k => h.get k

/-- Every run keeps the invariant. -/
lemma recalls_after (capacity : Capacity) (calls : List (LruCall K V)) :
    Recalls capacity (after capacity calls) := by
  have hrun : ∀ (calls : List (LruCall K V)) (s : LruRun K V), Recalls capacity s →
      Recalls capacity (calls.foldl LruRun.call s) := by
    intro calls
    induction calls with
    | nil => exact fun s hs => hs
    | cons c calls ih => exact fun s hs => ih _ (hs.call c)
  exact hrun calls _ (recalls_start capacity)

omit [Inhabited V] in
lemma Recalls.mem_bound (h : Recalls capacity s) (hno : capacity.1 ≠ -1) :
    capacity.1.toNat ∈ s.cache.bound := by
  have hpos : 1 ≤ capacity.1 := capacity.2.resolve_left hno
  rw [LruCache.mem_bound_iff, h.capacity]
  omega

omit [Inhabited V] in
/-- Whether a key is bound: fewer other keys than the capacity were used since it was. -/
lemma Recalls.mem_iff (h : Recalls capacity s) : k ∈ s.cache.bindings.map Prod.fst ↔
    k ∈ s.used ∧ (capacity.1 ≠ -1 → (StackDistance.since k s.used).card < capacity.1) := by
  rw [h.holds.mem_iff]
  refine and_congr_right fun _ => ⟨fun hlt hno => ?_, fun hlt c hc => ?_⟩
  · have := hlt _ (h.mem_bound hno)
    omega
  · obtain ⟨hno, heq⟩ := LruCache.mem_bound_iff.mp hc
    rw [h.capacity] at hno heq
    have := hlt hno
    omega

omit [Inhabited V] in
/-- What a key is bound to. -/
theorem Recalls.lookup_eq_some_iff (h : Recalls capacity s) :
    RecencyList.lookup k s.cache.bindings = some v ↔ s.lastPushed k = some v ∧
      (capacity.1 ≠ -1 → (StackDistance.since k s.used).card < capacity.1) := by
  rw [RecencyList.lookup_eq_some_iff h.sound.keyed]
  constructor
  · intro hb
    exact ⟨h.values _ hb, (h.mem_iff.mp (List.mem_map_of_mem hb)).2⟩
  · rintro ⟨hv, hlt⟩
    have hused : k ∈ s.used := h.used _ (RecencyList.mem_of_lookup hv)
    obtain ⟨b, hb, rfl⟩ := List.mem_map.mp (h.mem_iff.mpr ⟨hused, hlt⟩)
    have heq : b.2 = v := Option.some.inj ((h.values b hb).symm.trans hv)
    exact heq ▸ hb

/-- What `get` returns. -/
lemma Recalls.get_value (h : Recalls capacity s) (k : K) :
    (∀ v, (s.cache.get k).1 = (true, v) ↔ s.lastPushed k = some v ∧
      (capacity.1 ≠ -1 → (StackDistance.since k s.used).card < capacity.1)) ∧
    ((∀ v, (s.cache.get k).1 ≠ (true, v)) → (s.cache.get k).1 = (false, default)) := by
  rw [h.sound.get_value]
  refine ⟨fun v => ?_, fun hnot => ?_⟩
  · rw [← h.lookup_eq_some_iff]
    cases RecencyList.lookup k s.cache.bindings <;> simp
  · cases hlook : RecencyList.lookup k s.cache.bindings with
    | none => rfl
    | some v => exact absurd (by rw [hlook]; rfl) (hnot v)

omit [Inhabited V] in
lemma Recalls.length_le (h : Recalls capacity s) (hno : capacity.1 ≠ -1) :
    (s.cache.myList.length : ℤ) ≤ capacity.1 := by
  have hpos : 1 ≤ capacity.1 := capacity.2.resolve_left hno
  have hlen := h.holds.length_le (h.mem_bound hno)
  rw [LruCache.bindings, List.length_map] at hlen
  omega

/-- **An `LRUCache` is an LRU cache.**  After every sequence of `push` and `get` on a new cache the
map and the list agree and the capacity is kept, and `get` finds exactly the keys that were pushed
and after whose last use fewer other keys than the capacity were used. -/
theorem answers (capacity : Capacity) (calls : List (LruCall K V)) :
    let s := after capacity calls
    (s.cache.myList.map fun e => e.2.key).Nodup ∧
    (∀ k, (s.cache.map k).isSome ↔ k ∈ s.cache.myList.map fun e => e.2.key) ∧
    (∀ k it, s.cache.map k = some it → ∃ n, s.cache.node it = some n ∧ n.key = k) ∧
    (capacity.1 ≠ -1 → (s.cache.myList.length : ℤ) ≤ capacity.1) ∧
    ∀ k, (∀ v, (s.cache.get k).1 = (true, v) ↔ s.lastPushed k = some v ∧
        (capacity.1 ≠ -1 → (StackDistance.since k s.used).card < capacity.1)) ∧
      ((∀ v, (s.cache.get k).1 ≠ (true, v)) → (s.cache.get k).1 = (false, default)) := by
  have h := recalls_after capacity calls
  exact ⟨LruCache.map_fst_bindings _ ▸ h.sound.keyed, fun k => h.sound.isSome_map_iff,
    fun k it => h.sound.node_key, h.length_le, h.get_value⟩

end LruRun

end CoroutineGateway
