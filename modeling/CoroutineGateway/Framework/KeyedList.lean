import Mathlib.Data.List.Nodup

/-!
# Lists with keys

A store of values under keys that remembers the order in which the keys came: a list of pairs, no
two of them with the same key.  A pair is put in front (`push`), taken out wherever it is (`pop`),
given another value (`update`) and found with its position, counted from one (`find`).

`find_eq_some_iff` and `find_eq_none_iff` say what is found; a pair that is put in front and taken
out again leaves no trace (`pop_push`).
-/

namespace CoroutineGateway

/-- Pairs of a key and a value, with keys that are pairwise distinct. -/
structure KeyedList (K V : Type*) where
  pairs : List (K × V)
  keyed : (pairs.map Prod.fst).Nodup

namespace KeyedList

variable {K V : Type*}

@[ext] lemma ext {l l' : KeyedList K V} (h : l.pairs = l'.pairs) : l = l' := by
  cases l
  cases l'
  cases h
  rfl

/-- Nothing stored. -/
def empty : KeyedList K V := ⟨[], List.nodup_nil⟩

/-- The keys, in order. -/
def keys (l : KeyedList K V) : List K := l.pairs.map Prod.fst

variable [DecidableEq K]

/-- Another value for a key. -/
def setValue (k : K) (v : V) (pairs : List (K × V)) : List (K × V) :=
  pairs.map fun e => if e.1 = k then (k, v) else e

lemma map_fst_setValue (k : K) (v : V) (pairs : List (K × V)) :
    (setValue k v pairs).map Prod.fst = pairs.map Prod.fst := by
  rw [setValue, List.map_map]
  refine List.map_congr_left fun e _ => ?_
  by_cases he : e.1 = k
  · simp [he]
  · simp [he]

lemma setValue_of_notMem {k : K} {v : V} {pairs : List (K × V)} (h : k ∉ pairs.map Prod.fst) :
    setValue k v pairs = pairs := by
  rw [setValue]
  refine (List.map_congr_left fun e he => ?_).trans (List.map_id _)
  have hne : e.1 ≠ k := fun hek => h (hek ▸ List.mem_map_of_mem he)
  rw [if_neg hne]
  rfl

lemma setValue_middle {k : K} {v w : V} {pre post : List (K × V)}
    (h : ((pre ++ (k, w) :: post).map Prod.fst).Nodup) :
    setValue k v (pre ++ (k, w) :: post) = pre ++ (k, v) :: post := by
  rw [List.map_append, List.map_cons] at h
  obtain ⟨-, hpost, hpre⟩ := List.nodup_append.mp h
  have hpost' : k ∉ post.map Prod.fst := (List.nodup_cons.mp hpost).1
  have hpre' : k ∉ pre.map Prod.fst := fun hk => hpre k hk k (List.mem_cons_self ..) rfl
  have hcons : setValue k v ((k, w) :: post) = (k, v) :: setValue k v post := by
    rw [setValue, List.map_cons, if_pos rfl]
    rfl
  have happend : setValue k v (pre ++ (k, w) :: post) =
      setValue k v pre ++ setValue k v ((k, w) :: post) := List.map_append
  rw [happend, hcons, setValue_of_notMem hpre', setValue_of_notMem hpost']

/-- The position and the value of a key in a list of pairs. -/
def findIn (k : K) : List (K × V) → Option (ℕ × V)
  | [] => none
  | e :: pairs => if e.1 = k then some (1, e.2) else (findIn k pairs).map fun r => (r.1 + 1, r.2)

/-- The position and the value of a key. -/
def find (k : K) (l : KeyedList K V) : Option (ℕ × V) := findIn k l.pairs

/-- Put a pair in front, if its key is new. -/
def push (k : K) (v : V) (l : KeyedList K V) : Bool × KeyedList K V :=
  if h : k ∈ l.keys then (false, l)
  else (true, ⟨(k, v) :: l.pairs, List.nodup_cons.mpr ⟨h, l.keyed⟩⟩)

/-- Take a pair out. -/
def pop [DecidableEq V] (k : K) (v : V) (l : KeyedList K V) : Bool × KeyedList K V :=
  if (k, v) ∈ l.pairs then
    (true, ⟨l.pairs.erase (k, v), l.keyed.sublist (List.erase_sublist.map Prod.fst)⟩)
  else (false, l)

/-- Give a key another value. -/
def update (k : K) (v : V) (l : KeyedList K V) : Bool × KeyedList K V :=
  if k ∈ l.keys then
    (true, ⟨setValue k v l.pairs, by rw [map_fst_setValue]; exact l.keyed⟩)
  else (false, l)

variable {k : K} {v : V} {l : KeyedList K V} {pairs : List (K × V)} {i : ℕ}

/-! ## Finding -/

lemma findIn_eq_none_iff : findIn k pairs = none ↔ k ∉ pairs.map Prod.fst := by
  induction pairs with
  | nil => simp [findIn]
  | cons e pairs ih =>
    rw [findIn]
    by_cases he : e.1 = k
    · simp [he]
    · simp [he, ih, Ne.symm he]

/-- What is found is there, at that position. -/
lemma getElem_of_findIn (h : findIn k pairs = some (i, v)) :
    0 < i ∧ pairs[i - 1]? = some (k, v) := by
  induction pairs generalizing i with
  | nil => cases h
  | cons e pairs ih =>
    rw [findIn] at h
    split_ifs at h with he
    · obtain ⟨rfl, rfl⟩ := Prod.mk.inj (Option.some.inj h)
      refine ⟨Nat.one_pos, ?_⟩
      rw [← he]
      rfl
    · obtain ⟨⟨j, w⟩, hj, hjw⟩ := Option.map_eq_some_iff.mp h
      obtain ⟨rfl, rfl⟩ := Prod.mk.inj hjw
      obtain ⟨hpos, hget⟩ := ih hj
      refine ⟨Nat.succ_pos j, ?_⟩
      obtain ⟨n, rfl⟩ := Nat.exists_eq_add_one.mpr hpos
      exact hget

lemma findIn_of_getElem (hkeyed : (pairs.map Prod.fst).Nodup) (h : pairs[i]? = some (k, v)) :
    findIn k pairs = some (i + 1, v) := by
  induction pairs generalizing i with
  | nil => cases h
  | cons e pairs ih =>
    obtain ⟨he, hkeyed⟩ := List.nodup_cons.mp hkeyed
    rw [findIn]
    cases i with
    | zero =>
      obtain rfl : e = (k, v) := Option.some.inj h
      rw [if_pos rfl]
    | succ i =>
      have hmem : (k, v) ∈ pairs := List.mem_of_getElem? h
      have hek : e.1 ≠ k := fun hek => he (hek ▸ List.mem_map_of_mem hmem)
      rw [if_neg hek, ih hkeyed h]
      rfl

lemma find_eq_none_iff : l.find k = none ↔ k ∉ l.keys := findIn_eq_none_iff

/-- The position and the value of a key are found. -/
theorem find_eq_some_iff : l.find k = some (i, v) ↔ 0 < i ∧ l.pairs[i - 1]? = some (k, v) := by
  refine ⟨getElem_of_findIn, fun ⟨hpos, hget⟩ => ?_⟩
  rw [find, findIn_of_getElem l.keyed hget, Nat.sub_add_cancel hpos]

/-- What is found is there. -/
lemma mem_keys_of_find (h : l.find k = some (i, v)) : k ∈ l.keys := by
  by_contra hk
  rw [find_eq_none_iff.mpr hk] at h
  cases h

/-! ## Putting in front and taking out -/

variable [DecidableEq V]

/-- What is put in front can be taken out again. -/
theorem pop_push (h : (l.push k v).1 = true) : (l.push k v).2.pop k v = (true, l) := by
  rw [push] at h ⊢
  split_ifs at h ⊢ with hk
  rw [pop, if_pos (List.mem_cons_self ..)]
  refine Prod.ext rfl (KeyedList.ext ?_)
  exact List.erase_cons_head ..

end KeyedList

end CoroutineGateway
