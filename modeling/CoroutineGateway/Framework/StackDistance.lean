import CoroutineGateway.Framework.RecencyList
import Mathlib.Data.Finset.Card
import Mathlib.Data.Finset.Insert
import Mathlib.Data.List.Basic
import Mathlib.Data.List.TakeWhile

/-!
# Stack distance

What a least-recently-used cache holds, from the history of its uses alone.  A history is the list
of the keys that were used, the last one first.

* `order us` are the keys of a history in the order of their last use, and `since k us` the set of
  the keys used after the last use of `k`; `mem_take_order_iff` connects them: `k` is among the
  first `c` of the one exactly if it was used and fewer than `c` keys are in the other.
* `Holds` says that the keys of a recency list are the first of `order us`, as many as its bound
  allows.  A use of a key it holds keeps it (`Holds.touch`), and so does binding a key
  (`Holds.put`), if the bound is positive.
-/

namespace CoroutineGateway

namespace StackDistance

variable {K V : Type*} [DecidableEq K]

/-- The keys in the order of their last use, the last one first. -/
def order : List K → List K
  | [] => []
  | k :: us => k :: (order us).erase k

/-- The keys used since `k` was last used. -/
def since (k : K) (us : List K) : Finset K := (us.takeWhile (· ≠ k)).toFinset

variable {k a : K} {us l : List K} {c : ℕ}

lemma mem_order : k ∈ order us ↔ k ∈ us := by
  induction us with
  | nil => rfl
  | cons a us ih =>
    by_cases hk : k = a
    · simp [order, hk]
    · simp [order, hk, List.mem_erase_of_ne hk, ih]

lemma nodup_order (us : List K) : (order us).Nodup := by
  induction us with
  | nil => exact List.nodup_nil
  | cons a us ih => exact List.nodup_cons.mpr ⟨ih.not_mem_erase, ih.erase a⟩

/-! ## The distance of a key -/

lemma takeWhile_erase (ha : a ≠ k) (l : List K) :
    (l.erase a).takeWhile (· ≠ k) = (l.takeWhile (· ≠ k)).erase a := by
  induction l with
  | nil => rfl
  | cons b l ih =>
    by_cases hba : b = a
    · subst hba
      simp [ha]
    · by_cases hbk : b = k
      · simp [hbk, Ne.symm ha]
      · simpa [hba, hbk] using ih

/-- The keys ahead of `k` are those used since. -/
lemma toFinset_takeWhile_order (k : K) (us : List K) :
    ((order us).takeWhile (· ≠ k)).toFinset = since k us := by
  induction us with
  | nil => rfl
  | cons a us ih =>
    by_cases ha : a = k
    · simp [order, since, ha]
    · have hcons : since k (a :: us) = insert a (since k us) := by simp [since, ha]
      have horder : (order (a :: us)).takeWhile (· ≠ k) =
          a :: ((order us).takeWhile (· ≠ k)).erase a := by
        simpa [order, ha] using takeWhile_erase ha (order us)
      rw [hcons, horder, ← ih, List.toFinset_cons]
      ext x
      by_cases hx : x = a
      · simp [hx]
      · simp [hx, List.mem_erase_of_ne hx]

lemma length_takeWhile_ne (h : k ∈ l) : (l.takeWhile (· ≠ k)).length = l.idxOf k := by
  induction l with
  | nil => cases h
  | cons a l ih =>
    by_cases ha : a = k
    · simp [ha]
    · have hk : k ∈ l := (List.mem_cons.mp h).resolve_left (Ne.symm ha)
      simp only [ha, ne_eq, not_false_eq_true, decide_true, List.takeWhile_cons_of_pos,
        List.length_cons, List.idxOf_cons_ne l ha]
      exact congrArg Nat.succ (ih hk)

lemma idxOf_order (h : k ∈ us) : (order us).idxOf k = (since k us).card := by
  have hnodup : ((order us).takeWhile (· ≠ k)).Nodup :=
    (nodup_order us).sublist (List.takeWhile_sublist _)
  rw [← length_takeWhile_ne (mem_order.mpr h), ← toFinset_takeWhile_order,
    List.toFinset_card_of_nodup hnodup]

/-- A key is among the first `c` exactly if fewer than `c` keys were used since. -/
theorem mem_take_order_iff : k ∈ (order us).take c ↔ k ∈ us ∧ (since k us).card < c := by
  constructor
  · intro h
    have hk : k ∈ us := mem_order.mp (List.mem_of_mem_take h)
    rw [List.mem_take_iff_idxOf_lt (mem_order.mpr hk), idxOf_order hk] at h
    exact ⟨hk, h⟩
  · rintro ⟨hk, hlt⟩
    rw [List.mem_take_iff_idxOf_lt (mem_order.mpr hk), idxOf_order hk]
    exact hlt

/-! ## The first keys after a use -/

/-- The first elements, as many as the bound allows. -/
def cut (bound : Option ℕ) (l : List K) : List K := bound.elim l (l.take ·)

lemma mem_cut_order_iff {bound : Option ℕ} : k ∈ cut bound (order us) ↔
    k ∈ us ∧ ∀ c ∈ bound, (since k us).card < c := by
  cases bound with
  | none => simp [cut, mem_order]
  | some c => simp [cut, mem_take_order_iff]

/-- Taking out one of the first elements lets the rest of them move up. -/
lemma take_erase_of_mem (h : k ∈ l.take (c + 1)) :
    (l.take (c + 1)).erase k = (l.erase k).take c := by
  induction l generalizing c with
  | nil => cases h
  | cons a l ih =>
    by_cases ha : a = k
    · subst ha
      simp
    · have hk : k ∈ l.take c := (List.mem_cons.mp h).resolve_left (Ne.symm ha)
      cases c with
      | zero => simp at hk
      | succ c => simp [ha, ih hk]

lemma take_erase_of_notMem (h : k ∉ l.take c) : (l.erase k).take c = l.take c := by
  induction l generalizing c with
  | nil => rfl
  | cons a l ih =>
    cases c with
    | zero => rfl
    | succ c =>
      obtain ⟨ha, hk⟩ := not_or.mp fun h' => h (List.mem_cons.mpr h')
      simp [Ne.symm ha, ih hk]

/-- A use of a key among the first. -/
lemma cons_erase_cut {bound : Option ℕ} (h : k ∈ cut bound l) :
    k :: (cut bound l).erase k = cut bound (k :: l.erase k) := by
  cases bound with
  | none => rfl
  | some c =>
    cases c with
    | zero => simp [cut] at h
    | succ c => exact congrArg (k :: ·) (take_erase_of_mem h)

/-- A use of a key that is not among the first: the last of them has to go if there are as many as
the bound allows. -/
lemma cons_dropLast_cut {bound : Option ℕ} (hpos : ∀ c ∈ bound, 1 ≤ c) (h : k ∉ cut bound l) :
    k :: (if ∃ c ∈ bound, c ≤ (cut bound l).length then (cut bound l).dropLast else cut bound l) =
      cut bound (k :: l.erase k) := by
  cases bound with
  | none =>
    have hl : k ∉ l := h
    simp [cut, List.erase_of_not_mem hl]
  | some c =>
    obtain ⟨n, rfl⟩ := Nat.exists_eq_add_of_le' (hpos c rfl)
    have hn : k ∉ l.take n := fun h' => h (List.take_subset_take_left l (Nat.le_succ n) h')
    refine congrArg (k :: ·) (Eq.trans ?_ (take_erase_of_notMem hn).symm)
    simp only [cut, Option.elim_some, Option.mem_def, Option.some.injEq, exists_eq_left']
    split_ifs with hlen
    · have hlen' : min (n + 1) l.length - 1 = n := by
        rw [List.length_take] at hlen
        omega
      rw [List.dropLast_eq_take, List.length_take, hlen', List.take_take,
        Nat.min_eq_left (Nat.le_succ n)]
    · have hle : l.length ≤ n := by
        rw [List.length_take] at hlen
        omega
      rw [List.take_of_length_le hle, List.take_of_length_le (Nat.le_succ_of_le hle)]

/-! ## What a recency list holds -/

/-- The keys of the list are the last ones used, as many as the bound allows. -/
def Holds (bound : Option ℕ) (us : List K) (l : List (K × V)) : Prop :=
  l.map Prod.fst = cut bound (order us)

variable {bound : Option ℕ} {bs : List (K × V)} {v : V}

lemma holds_nil (bound : Option ℕ) : Holds bound ([] : List K) ([] : List (K × V)) := by
  cases bound <;> simp [Holds, cut, order]

/-- The keys of the list: those that fewer other keys than the bound were used after. -/
theorem Holds.mem_iff (h : Holds bound us bs) :
    k ∈ bs.map Prod.fst ↔ k ∈ us ∧ ∀ c ∈ bound, (since k us).card < c := by
  rw [h, mem_cut_order_iff]

omit [DecidableEq K] in
lemma length_cut_le (hc : c ∈ bound) (l : List K) : (cut bound l).length ≤ c := by
  cases hc
  exact List.length_take_le c l

lemma Holds.length_le (h : Holds bound us bs) (hc : c ∈ bound) : bs.length ≤ c := by
  have hlen : (bs.map Prod.fst).length = bs.length := List.length_map Prod.fst
  rw [← hlen, h]
  exact length_cut_le hc _

/-- A use of a key that is bound. -/
theorem Holds.touch (h : Holds bound us bs) (hk : RecencyList.lookup k bs = some v) :
    Holds bound (k :: us) (RecencyList.touch k bs) := by
  have hmem : k ∈ cut bound (order us) := h ▸ List.mem_map_of_mem (RecencyList.mem_of_lookup hk)
  have hkeys : (RecencyList.touch k bs).map Prod.fst = k :: (bs.map Prod.fst).erase k := by
    simp [RecencyList.touch, hk, RecencyList.map_fst_erase]
  exact hkeys.trans (h ▸ cons_erase_cut hmem)

/-- A key that is not bound has no use, and stays as it is. -/
lemma Holds.touch_of_none (h : Holds bound us bs) (hk : RecencyList.lookup k bs = none) :
    Holds bound us (RecencyList.touch k bs) := by
  rw [RecencyList.touch, hk]
  exact h

/-- Binding a key is a use of it. -/
theorem Holds.put (h : Holds bound us bs) (hpos : ∀ c ∈ bound, 1 ≤ c) (k : K) (v : V) :
    Holds bound (k :: us) (RecencyList.put bound k v bs) := by
  cases hlook : RecencyList.lookup k bs with
  | some w =>
    have hmem : k ∈ cut bound (order us) :=
      h ▸ List.mem_map_of_mem (RecencyList.mem_of_lookup hlook)
    have hkeys : (RecencyList.put bound k v bs).map Prod.fst = k :: (bs.map Prod.fst).erase k := by
      simp [RecencyList.put, hlook, RecencyList.map_fst_erase]
    exact hkeys.trans (h ▸ cons_erase_cut hmem)
  | none =>
    have hnot : k ∉ cut bound (order us) := by
      rw [← h]
      rintro hk
      obtain ⟨b, hb, hbk⟩ := List.mem_map.mp hk
      exact RecencyList.lookup_eq_none_iff.mp hlook b hb hbk
    have hroom : (RecencyList.makeRoom bound bs).map Prod.fst =
        if ∃ c ∈ bound, c ≤ (bs.map Prod.fst).length then (bs.map Prod.fst).dropLast
        else bs.map Prod.fst := by
      simp only [RecencyList.makeRoom, List.length_map]
      split_ifs <;> simp [List.map_dropLast]
    have hkeys : (RecencyList.put bound k v bs).map Prod.fst =
        k :: (RecencyList.makeRoom bound bs).map Prod.fst := by
      simp [RecencyList.put, hlook]
    rw [Holds, hkeys, hroom, h]
    exact cons_dropLast_cut hpos hnot

end StackDistance

end CoroutineGateway
