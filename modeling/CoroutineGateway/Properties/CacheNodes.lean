import CoroutineGateway.Properties.CacheCapacity

/-!
# The nodes of the cache

`JwtCache::clear` and `set_capacity` assign a temporary to `m_cache`.  `LRUCache` has a destructor
that frees its nodes, but the assignment is the implicit one: it overwrites the list, and frees no
node of it.  What the temporary's destructor frees are the nodes of an empty list.

The nodes that are neither freed nor in the list are counted by `NodeState.leaked`, which no call
makes smaller and which grows by the length of the list at each assignment (`leaked_step`).  So
every node is accounted for exactly in the runs that assign empty lists only, and those are the
ones without a `put_valid` in front of an assignment (`balanced_throughout_iff`).
-/

namespace CoroutineGateway

namespace LruCache

variable {K V : Type*} {c : LruCache K V}

/-- What `clear` does to the nodes. -/
lemma clear_eq (c : LruCache K V) : c.clear =
    { c with
      map := fun _ => none
      deallocated := c.deallocated + c.myList.length
      myList := [] } := by
  have hloop : ∀ (l : List (ℕ × LruNode K V)) (d : LruCache K V), d.myList = l →
      popFront^[l.length] d =
        { d with deallocated := d.deallocated + l.length, myList := [] } := by
    intro l
    induction l with
    | nil =>
      rintro d hd
      rw [List.length_nil, Function.iterate_zero_apply, Nat.add_zero, ← hd]
    | cons e l ih =>
      rintro d hd
      have hrest : d.popFront.myList = l := by rw [popFront, hd, List.tail_cons]
      rw [List.length_cons, Function.iterate_succ_apply, ih _ hrest]
      simp only [popFront, Nat.add_assoc, Nat.add_comm 1]
  exact hloop c.myList _ rfl

/-- Assigning a new cache is the copy assignment of the temporary. -/
lemma assign_eq (c : LruCache K V) (capacity : Capacity) :
    c.assign capacity = c.copyAssign (init capacity) := rfl

lemma length_splice (it : ℕ) (l : List (ℕ × LruNode K V)) : (splice it l).length = l.length := by
  unfold splice
  cases hfind : l.find? (·.1 = it) with
  | none => rfl
  | some e =>
    have hmem := List.mem_of_find?_eq_some hfind
    have hpos := List.length_pos_of_mem hmem
    have hlen := List.length_eraseP_of_mem hmem (List.find?_some hfind)
    rw [List.length_cons, hlen]
    exact Nat.sub_add_cancel hpos

/-- Nodes allocated and not freed, less those in the list. -/
def surplus (c : LruCache K V) : ℤ := c.allocated - c.deallocated - c.myList.length

lemma surplus_get [Inhabited V] (c : LruCache K V) (k : K) : (c.get k).2.surplus = c.surplus := by
  unfold get
  cases c.map k with
  | none => rfl
  | some it => simp only [surplus, length_splice]

variable [DecidableEq K]

lemma surplus_evict (c : LruCache K V) : c.evict.surplus = c.surplus := by
  unfold evict
  cases hlast : c.myList.getLast? with
  | none => rfl
  | some e =>
    have hpos : 0 < c.myList.length := by
      rw [List.length_pos_iff]
      rintro hnil
      rw [hnil] at hlast
      cases hlast
    simp only [surplus, List.length_dropLast]
    omega

/-- `push` allocates one node for one element, and frees the node it evicts. -/
lemma surplus_push (c : LruCache K V) (k : K) (v : V) : (c.push k v).surplus = c.surplus := by
  unfold push
  cases c.map k with
  | some it => simp only [surplus, List.length_modifyHead, length_splice]
  | none =>
    have hroom : (if c.full then c.evict else c).surplus = c.surplus := by
      split_ifs
      · exact surplus_evict c
      · rfl
    rw [← hroom]
    simp only [surplus, List.length_cons]
    omega

end LruCache

namespace JwtCache

/-- A call of a method of the cache. -/
inductive NodeCall where
  | use (u : Use)
  | clear
  | setCapacity (cap : Capacity)

/-- Is this `put_valid`? -/
def NodeCall.Puts : NodeCall → Prop
  | .use (.putValid _ _) => True
  | _ => False

/-- Is this one of the two methods that assign to `m_cache`? -/
def NodeCall.Assigns : NodeCall → Prop
  | .use _ => False
  | .clear => True
  | .setCapacity _ => True

instance : DecidablePred NodeCall.Puts
  | .use (.putValid _ _) => inferInstanceAs (Decidable True)
  | .use (.isValidCached _ _) => inferInstanceAs (Decidable False)
  | .clear => inferInstanceAs (Decidable False)
  | .setCapacity _ => inferInstanceAs (Decidable False)

instance : DecidablePred NodeCall.Assigns
  | .use _ => inferInstanceAs (Decidable False)
  | .clear => inferInstanceAs (Decidable True)
  | .setCapacity _ => inferInstanceAs (Decidable True)

/-- The cache, and the nodes that temporaries have allocated and freed. -/
structure NodeState where
  cache : JwtCache
  allocated : ℕ
  deallocated : ℕ

namespace NodeState

/-- The cache as it is created. -/
def start : NodeState := ⟨JwtCache.init, 0, 0⟩

/-- `m_cache = LRUCache<std::string, int64_t>(cap)`: a temporary is built, copied and destroyed. -/
def assignTemporary (s : NodeState) (cap : Capacity) : NodeState :=
  let temporary : LruCache Bytes ℤ := LruCache.init cap
  let cache := s.cache.copyAssign temporary
  let temporary := LruCache.clear temporary
  { cache
    allocated := s.allocated + temporary.allocated
    deallocated := s.deallocated + temporary.deallocated }

/-- The cache after a call. -/
def step (s : NodeState) : NodeCall → NodeState
  | .use u => { s with cache := s.cache.use u }
  | .clear => s.assignTemporary defaultCapacity
  | .setCapacity cap => s.assignTemporary cap

/-- The nodes allocated, and not freed, over all caches, less those in the list of `m_cache`. -/
def leaked (s : NodeState) : ℤ :=
  (s.cache.allocated + s.allocated : ℕ) - (s.cache.deallocated + s.deallocated : ℕ) -
    s.cache.myList.length

/-- Allocations less deallocations are the nodes in the list. -/
def Balanced (s : NodeState) : Prop :=
  ((s.cache.allocated + s.allocated : ℕ) : ℤ) - (s.cache.deallocated + s.deallocated : ℕ) =
    s.cache.myList.length

instance (s : NodeState) : Decidable s.Balanced := inferInstanceAs (Decidable (_ = _))

end NodeState

/-- The methods of the cache. -/
def nodeMachine : Machine NodeState NodeCall := ⟨fun s a => some (s.step a)⟩

variable {s : NodeState} {a : NodeCall} {calls : List NodeCall}

lemma surplus_use (c : JwtCache) (u : Use) : (c.use u).surplus = c.surplus := by
  cases u with
  | putValid token exp => exact c.surplus_push token exp
  | isValidCached token now =>
    show (c.isValidCached token now).2.surplus = c.surplus
    rw [isValidCached_snd]
    exact c.surplus_get token

namespace NodeState

lemma cache_assignTemporary (s : NodeState) (cap : Capacity) :
    (s.assignTemporary cap).cache = s.cache.assign cap :=
  (s.cache.assign_eq cap).symm

lemma leaked_eq (s : NodeState) : s.leaked = s.cache.surplus + s.allocated - s.deallocated := by
  rw [leaked, LruCache.surplus]
  omega

/-- The temporary has nothing to free. -/
lemma leaked_assignTemporary (s : NodeState) (cap : Capacity) :
    (s.assignTemporary cap).leaked = s.leaked + s.cache.myList.length := by
  have hsurplus : (s.cache.assign cap).surplus = s.cache.surplus + s.cache.myList.length := by
    simp only [LruCache.surplus, LruCache.assign, List.length_nil]
    omega
  have hcounts : (s.assignTemporary cap).allocated = s.allocated ∧
      (s.assignTemporary cap).deallocated = s.deallocated := by
    rw [assignTemporary, LruCache.clear_eq]
    exact ⟨rfl, rfl⟩
  rw [leaked_eq, leaked_eq, cache_assignTemporary, hsurplus, hcounts.1, hcounts.2]
  omega

/-- An assignment leaks the nodes of the list, and nothing else does. -/
theorem leaked_step (s : NodeState) (a : NodeCall) :
    (s.step a).leaked = s.leaked + if a.Assigns then (s.cache.myList.length : ℤ) else 0 := by
  cases a with
  | use u =>
    rw [if_neg (show ¬ NodeCall.Assigns (.use u) from id), leaked_eq, leaked_eq, add_zero]
    show (s.cache.use u).surplus + s.allocated - s.deallocated = _
    rw [surplus_use]
  | clear => exact s.leaked_assignTemporary defaultCapacity
  | setCapacity cap => exact s.leaked_assignTemporary cap

lemma balanced_iff : s.Balanced ↔ s.leaked = 0 := by
  rw [Balanced, leaked]
  omega

/-! ## The list -/

lemma sound_step (hs : s.cache.Sound) (a : NodeCall) : (s.step a).cache.Sound := by
  cases a with
  | use u => exact sound_use hs u
  | clear => exact LruCache.sound_assign defaultCapacity
  | setCapacity cap => exact LruCache.sound_assign cap

/-- The list is not empty after a `put_valid`, and until the next assignment. -/
lemma myList_step_ne_nil_iff (hs : s.cache.Sound) : (s.step a).cache.myList ≠ [] ↔
    a.Puts ∨ s.cache.myList ≠ [] ∧ ¬ a.Assigns := by
  have hbindings : ∀ c : JwtCache, c.myList ≠ [] ↔ c.bindings ≠ [] := fun c => by
    simp [LruCache.bindings]
  cases a with
  | use u =>
    cases u with
    | putValid token exp =>
      have hmem : (token, exp) ∈ (s.cache.putValid token exp).bindings := by
        rw [bindings_putValid hs]
        exact RecencyList.mem_put_self
      exact iff_of_true ((hbindings _).mpr (List.ne_nil_of_mem hmem)) (.inl trivial)
    | isValidCached token now =>
      have hperm := (tokens_isValidCached hs token now).length_eq
      rw [tokens, tokens, List.length_map, List.length_map, ← length_myList,
        ← length_myList] at hperm
      simp only [NodeCall.Puts, NodeCall.Assigns, false_or, not_false_eq_true, and_true,
        ← List.length_pos_iff]
      rw [← hperm]
      rfl
  | clear => exact iff_of_false (fun h => h rfl) (by simp [NodeCall.Puts, NodeCall.Assigns])
  | setCapacity cap =>
    exact iff_of_false (fun h => h rfl) (by simp [NodeCall.Puts, NodeCall.Assigns])

/-- The runs that assign to empty lists only, by their calls. -/
lemma guarded_iff (hs : s.cache.Sound) :
    nodeMachine.Guarded (fun s a => a.Assigns → s.cache.myList = []) s calls ↔
      (s.cache.myList ≠ [] → ∀ a ∈ calls, ¬ a.Assigns) ∧
        calls.Pairwise fun a b => a.Puts → ¬ b.Assigns := by
  induction calls generalizing s with
  | nil => simp [Machine.Guarded]
  | cons a calls ih =>
    have hrest := ih (sound_step hs a)
    rw [myList_step_ne_nil_iff hs] at hrest
    have hguarded : nodeMachine.Guarded (fun s a => a.Assigns → s.cache.myList = []) s
        (a :: calls) ↔ (a.Assigns → s.cache.myList = []) ∧
          nodeMachine.Guarded (fun s a => a.Assigns → s.cache.myList = []) (s.step a) calls :=
      and_congr_right fun _ => ⟨fun h => h _ rfl, fun h s' hs' => Option.some.inj hs' ▸ h⟩
    rw [hguarded, hrest, List.pairwise_cons, List.forall_mem_cons]
    constructor
    · rintro ⟨hself, hlater, hpairs⟩
      refine ⟨fun hne => ?_, fun b hb hputs => hlater (.inl hputs) b hb, hpairs⟩
      have hnot : ¬ a.Assigns := fun h => hne (hself h)
      exact ⟨hnot, hlater (.inr ⟨hne, hnot⟩)⟩
    · rintro ⟨hlist, hputs, hpairs⟩
      refine ⟨fun h => ?_, ?_, hpairs⟩
      · by_contra hne
        exact (hlist hne).1 h
      · rintro (hp | ⟨hne, -⟩) b hb
        · exact hputs b hb hp
        · exact (hlist hne).2 b hb

end NodeState

/-- **Nodes are released**: in every state of a run the nodes that are allocated and not freed are
those in the list of `m_cache`, exactly if no `clear` and no `set_capacity` comes after a
`put_valid`. -/
theorem balanced_throughout_iff (calls : List NodeCall) :
    nodeMachine.Throughout NodeState.Balanced NodeState.start calls ↔
      calls.Pairwise fun a b => a.Puts → ¬ b.Assigns := by
  have hsound : NodeState.start.cache.Sound := LruCache.sound_init defaultCapacity
  have hrun : ∃ s, nodeMachine.run NodeState.start calls = some s := by
    induction calls using List.reverseRecOn with
    | nil => exact ⟨_, rfl⟩
    | append_singleton calls a ih =>
      obtain ⟨s, hs⟩ := ih
      exact ⟨s.step a, nodeMachine.run_append hs rfl⟩
  obtain ⟨s, hrun⟩ := hrun
  have hexact := Machine.throughout_iff_guarded (M := nodeMachine)
    (I := fun s => s.leaked = 0) (P := NodeState.Balanced)
    (G := fun s a => a.Assigns → s.cache.myList = [])
    (fun s a s' hs hG hstep => ?_) (fun s hs => NodeState.balanced_iff.mpr hs)
    (fun s a s' hs hG hstep hbalanced => ?_) (show NodeState.start.leaked = 0 from rfl) hrun
  · rw [hexact, NodeState.guarded_iff hsound]
    exact and_iff_right fun hne => absurd rfl hne
  · obtain rfl : s.step a = s' := Option.some.inj hstep
    rw [NodeState.leaked_step, hs, zero_add]
    split_ifs with hassigns
    · rw [hG hassigns]
      rfl
    · rfl
  · obtain rfl : s.step a = s' := Option.some.inj hstep
    obtain ⟨hassigns, hne⟩ := Classical.not_imp.mp hG
    rw [NodeState.balanced_iff, NodeState.leaked_step, hs, zero_add, if_pos hassigns] at hbalanced
    exact hne (List.length_eq_zero_iff.mp (by exact_mod_cast hbalanced))

/-- One token is cached, and a load clears the cache: its node is neither freed nor in the list. -/
theorem clear_leaks : ¬ nodeMachine.Throughout NodeState.Balanced NodeState.start
    [.use (.putValid (ascii "token") 100), .clear] := by
  intro h
  exact absurd (h.last rfl) (by decide +kernel)

end JwtCache

end CoroutineGateway
