import CoroutineGateway.Framework.Machine
import CoroutineGateway.Properties.FindCacheStore
import Mathlib.Algebra.Group.Int.Defs

/-!
# Runs of a find cache

Any sequence of `push`, `pop`, `update` and `find` on a `FindCache` gives the answers that the same
operations of a `KeyedList` give, and leaves the nodes of the list that those leave, exactly as
long as positions fit in an `int` where they are looked at (`refines_iff`).  With less than `2 ^ 31`
bytes of memory they always do (`refines_of_size`).
-/

namespace CoroutineGateway

variable {T : Type*} [DecidableEq T]

/-! ## The keyed list as a specification -/

/-- What `find` should answer. -/
def FindCacheAnswer.ofFound : Option (ℕ × T) → FindCacheAnswer T
  | none => .found ⟨fEnd, none⟩
  | some (i, v) => .found ⟨i, some v⟩

/-- What a call should answer and leave. -/
def KeyedList.call (l : KeyedList T T) : FindCacheCall T → FindCacheAnswer T × KeyedList T T
  | .push key value _ => (.done (l.push key value).1, (l.push key value).2)
  | .pop key value => (.done (l.pop key value).1, (l.pop key value).2)
  | .update key value => (.done (l.update key value).1, (l.update key value).2)
  | .find key => (.ofFound (l.find key), l)

/-- The positions that a call looks at are those that its counter gives. -/
def KeyedList.InRange (l : KeyedList T T) : FindCacheCall T → Prop
  | .push key _ _ => ∀ i v, l.find key = some (i, v) → i % 2 ^ 32 ≠ 2 ^ 32 - 1
  | .find key => ∀ i v, l.find key = some (i, v) → i < 2 ^ 31
  | _ => True

/-! ## Runs -/

/-- A cache and a list that get the same calls, with what they have answered.  A call of the cache
that does not come back has no answer. -/
structure StoreRun (T : Type*) where
  cache : FindCache T
  list : KeyedList T T
  answers : List (Option (FindCacheAnswer T))
  expected : List (Option (FindCacheAnswer T))

namespace StoreRun

/-- Before the first call. -/
def start (aider : ℕ) : StoreRun T := ⟨.init aider, .empty, [], []⟩

/-- One call.  `allocate` returns a node that is not in use. -/
def step (s : StoreRun T) (a : FindCacheCall T) : Option (StoreRun T) :=
  if s.cache.allocatable a then
    let answer := s.cache.call a
    some
      { cache := (answer.map Prod.snd).getD s.cache
        list := (s.list.call a).2
        answers := s.answers ++ [answer.map Prod.fst]
        expected := s.expected ++ [some (s.list.call a).1] }
  else none

end StoreRun

/-- The runs of a cache. -/
def storeMachine (T : Type*) [DecidableEq T] : Machine (StoreRun T) (FindCacheCall T) where
  step := StoreRun.step

namespace StoreRun

variable {s s' : StoreRun T} {a : FindCacheCall T}

/-- The cache stores the list, and has answered as the list. -/
structure Refines (s : StoreRun T) : Prop where
  stores : s.cache.Stores s.list
  answers_eq : s.answers = s.expected

/-- What a call adds. -/
lemma of_step (hstep : s.step a = some s') : s.cache.allocatable a = true ∧
    s'.cache = ((s.cache.call a).map Prod.snd).getD s.cache ∧ s'.list = (s.list.call a).2 ∧
    s'.answers = s.answers ++ [(s.cache.call a).map Prod.fst] ∧
    s'.expected = s.expected ++ [some (s.list.call a).1] := by
  rw [step] at hstep
  split_ifs at hstep with ha
  obtain rfl := Option.some.inj hstep
  exact ⟨ha, rfl, rfl, rfl, rfl⟩

/-- With positions in range the cache answers as the list. -/
lemma call_eq (h : s.cache.Stores s.list) (ha : s.cache.allocatable a = true)
    (hrange : s.list.InRange a) :
    ∃ c', s.cache.call a = some ((s.list.call a).1, c') ∧ c'.Stores (s.list.call a).2 := by
  cases a with
  | push key value newnode =>
    obtain ⟨hnew0, hnew⟩ := (Bool.and_eq_true _ _).mp ha
    have hend : ∀ i v, s.list.find key = some (i, v) → asInt i ≠ fEnd := fun i v hi hend =>
      hrange i v hi ((asInt_eq_fEnd_iff i).mp hend)
    obtain ⟨c', hpush, hc'⟩ := h.push_eq value (of_decide_eq_true hnew0)
      (Option.isNone_iff_eq_none.mp hnew) hend
    exact ⟨c', by rw [FindCache.call, hpush]; rfl, hc'⟩
  | pop key value =>
    obtain ⟨c', hpop, hc'⟩ := h.pop_eq key value
    exact ⟨c', by rw [FindCache.call, hpop]; rfl, hc'⟩
  | update key value =>
    obtain ⟨c', hupdate, hc'⟩ := h.update_eq key value
    exact ⟨c', by rw [FindCache.call, hupdate]; rfl, hc'⟩
  | find key =>
    refine ⟨s.cache, ?_, h⟩
    rw [FindCache.call, h.find_eq key, Option.map_some, KeyedList.call]
    cases hl : s.list.find key with
    | none => rfl
    | some r =>
      obtain ⟨i, v⟩ := r
      rw [FindCache.foundFrom, Nat.zero_add, (asInt_eq_self_iff i).mpr (hrange i v hl)]
      rfl

lemma Refines.step (h : s.Refines) (hrange : s.list.InRange a) (hstep : s.step a = some s') :
    s'.Refines := by
  obtain ⟨ha, hcache, hlist, hanswers, hexpected⟩ := of_step hstep
  obtain ⟨c', hcall, hc'⟩ := call_eq h.stores ha hrange
  rw [hcall] at hcache hanswers
  refine ⟨?_, ?_⟩
  · rw [hcache, hlist]
    exact hc'
  · rw [hanswers, hexpected, h.answers_eq]
    rfl

/-- A position out of range gives a wrong answer. -/
lemma call_ne (h : s.cache.Stores s.list) (ha : s.cache.allocatable a = true)
    (hrange : ¬ s.list.InRange a) :
    (s.cache.call a).map Prod.fst ≠ some (s.list.call a).1 := by
  cases a with
  | push key value newnode =>
    obtain ⟨-, hnew⟩ := (Bool.and_eq_true _ _).mp ha
    obtain ⟨i, v, hi, hend⟩ : ∃ i v, s.list.find key = some (i, v) ∧ i % 2 ^ 32 = 2 ^ 32 - 1 := by
      by_contra hnone
      exact hrange fun i v hi hend => hnone ⟨i, v, hi, hend⟩
    have hfind := h.find_eq key
    have hindex : (FindCache.foundFrom 0 (some (i, v))).index = fEnd := by
      rw [FindCache.index_foundFrom_some, Nat.zero_add]
      exact (asInt_eq_fEnd_iff i).mpr hend
    obtain ⟨cells, hc, -⟩ := h
    obtain ⟨aider, haider⟩ := hc.nodes_cells.aider_node
    rw [hi] at hfind
    rw [FindCache.call, FindCache.push_eq_linkedIn value haider (Option.isNone_iff_eq_none.mp hnew)
      hfind hindex, KeyedList.call, KeyedList.push, dif_pos (KeyedList.mem_keys_of_find hi)]
    intro heq
    have hdone : true = false := FindCacheAnswer.done.inj (Option.some.inj heq)
    cases hdone
  | pop key value => exact absurd trivial hrange
  | update key value => exact absurd trivial hrange
  | find key =>
    obtain ⟨i, v, hi, hout⟩ : ∃ i v, s.list.find key = some (i, v) ∧ 2 ^ 31 ≤ i := by
      by_contra hnone
      exact hrange fun i v hi => Nat.lt_of_not_le fun hout => hnone ⟨i, v, hi, hout⟩
    rw [FindCache.call, h.find_eq key, Option.map_some, KeyedList.call, hi, FindCache.foundFrom,
      Nat.zero_add]
    intro heq
    have hback : (⟨asInt i, some v⟩ : BackNode T) = ⟨i, some v⟩ :=
      FindCacheAnswer.found.inj (Option.some.inj heq)
    exact absurd ((asInt_eq_self_iff i).mp (BackNode.mk.inj hback).1) (Nat.not_lt.mpr hout)

lemma Refines.breaks (h : s.Refines) (hrange : ¬ s.list.InRange a) (hstep : s.step a = some s') :
    ¬ s'.Refines := by
  obtain ⟨ha, -, -, hanswers, hexpected⟩ := of_step hstep
  intro h'
  have heq := h'.answers_eq
  rw [hanswers, hexpected, h.answers_eq] at heq
  exact call_ne h.stores ha hrange (List.singleton_inj.mp (List.append_cancel_left heq))

omit [DecidableEq T] in
lemma start_refines {aider : ℕ} (h : aider ≠ 0) : (start aider : StoreRun T).Refines :=
  ⟨FindCache.init_stores h, rfl⟩

/-- Throughout a run the cache stores what the list holds and answers as the list does, exactly if
the positions that the calls look at are in range. -/
theorem refines_iff {aider : ℕ} (haider : aider ≠ 0) {calls : List (FindCacheCall T)}
    (hrun : (storeMachine T).run (start aider) calls = some s) :
    (storeMachine T).Throughout Refines (start aider) calls ↔
      (storeMachine T).Guarded (fun s a => s.list.InRange a) (start aider) calls :=
  Machine.throughout_iff_guarded (fun _ _ _ hs hrange => hs.step hrange) (fun _ hs => hs)
    (fun _ _ _ hs hrange => hs.breaks hrange) (start_refines haider) hrun

/-! ## Lists that fit in memory -/

/-- The positions in a list are at most its length, and so they fit in an `int` if that does. -/
lemma Refines.inRange (h : s.Refines) (hsize : s.cache.size < 2 ^ 31) (a : FindCacheCall T) :
    s.list.InRange a := by
  have hlength : s.list.pairs.length < 2 ^ 31 := by
    obtain ⟨cells, hc, hpairs⟩ := h.stores
    have hcells := hc.size_eq
    rw [← hpairs, List.length_map]
    omega
  have hpos : ∀ key i v, s.list.find key = some (i, v) → i < 2 ^ 31 := by
    intro key i v hi
    obtain ⟨hpos, hget⟩ := KeyedList.find_eq_some_iff.mp hi
    have hlt := (List.getElem?_eq_some_iff.mp hget).1
    omega
  cases a with
  | push key value newnode =>
    intro i v hi
    have hlt := hpos key i v hi
    omega
  | pop key value => exact trivial
  | update key value => exact trivial
  | find key => exact hpos key

/-- **A keyed store.**  Throughout a run whose list stays below `2 ^ 31` nodes the cache stores what
the list holds and answers as the list does; and of the list, a pair that is put in front and taken
out again leaves no trace.  `main` sets `RLIMIT_AS` to less than `2 ^ 31` bytes, so that no more
nodes than that can be allocated. -/
theorem refines_of_size {aider : ℕ} (haider : aider ≠ 0) {calls : List (FindCacheCall T)}
    (hrun : (storeMachine T).run (start aider) calls = some s)
    (hsize : (storeMachine T).Guarded (fun s _ => s.cache.size < 2 ^ 31) (start aider) calls) :
    (storeMachine T).Throughout Refines (start aider) calls ∧
      ∀ (l : KeyedList T T) key value, (l.push key value).1 = true →
        (l.push key value).2.pop key value = (true, l) := by
  refine ⟨(refines_iff haider hrun).mpr ?_, fun _ _ _ => KeyedList.pop_push⟩
  exact hsize.imp (I := Refines) (fun _ a _ hs hsize => hs.step (hs.inRange hsize a))
    (fun _ a hs hsize => hs.inRange hsize a) (start_refines haider)

/-- Two pairs are put in, one is found and given another value, and one is taken out. -/
def sampleCalls : List (FindCacheCall ℕ) :=
  [.push 5 50 2, .push 6 60 3, .find 5, .update 5 51, .pop 6 60, .push 7 70 3]

theorem refines_of_size_sample : ∃ s, (storeMachine ℕ).run (start 1) sampleCalls = some s ∧
    (storeMachine ℕ).Throughout Refines (start 1) sampleCalls := by
  have hsome : ((storeMachine ℕ).run (start 1) sampleCalls).isSome = true := by
    decide +kernel
  obtain ⟨s, hs⟩ := Option.isSome_iff_exists.mp hsome
  refine ⟨s, hs, (refines_of_size Nat.one_ne_zero hs ?_).1⟩
  repeat refine ⟨by decide, fun t ht => ?_⟩; obtain rfl := Option.some.inj ht
  trivial

end StoreRun

end CoroutineGateway
