import Mathlib.Data.List.Basic
import Mathlib.Data.List.Pairwise
import Mathlib.Order.Lattice

/-!
# Ordered sets under a key comparator

`std::set<T, Comparator>` for a comparator that compares a *key* of the elements.  The set is
the list of its elements in iteration order.  Two elements with the same key are *equivalent*
for the set even when they are different objects: `find` returns whichever equivalent element
is stored, and `insert` stores nothing when one is there already.

The elements are thought of as pointers, so the key function belongs to the caller and may
change over time; `ascending_congr` says that only the keys of the elements concerned matter.
-/

namespace CoroutineGateway.OrderedSet

variable {α κ : Type*} [LinearOrder κ]

/-- The iteration order of the set: keys strictly ascending. -/
def Ascending (key : α → κ) (l : List α) : Prop := l.Pairwise fun a b => key a < key b

/-- `std::set::find`: the first element not less than the key, unless it is greater. -/
def find (key : α → κ) (k : κ) : List α → Option α
  | [] => none
  | e :: l => if key e < k then find key k l else if k < key e then none else some e

/-- `std::set::insert`: the set afterwards, and the element the returned iterator points to. -/
def insert (key : α → κ) (x : α) : List α → List α × α
  | [] => ([x], x)
  | e :: l =>
    if key e < key x then (e :: (insert key x l).1, (insert key x l).2)
    else if key x < key e then (x :: e :: l, x)
    else (e :: l, e)

variable {key : α → κ}

/-! ## `Ascending` -/

lemma Ascending.nodup {l : List α} (h : Ascending key l) : l.Nodup :=
  List.Pairwise.imp (fun hlt heq => absurd hlt (by simp [heq])) h

lemma Ascending.sublist {l l' : List α} (h : Ascending key l) (hsub : List.Sublist l' l) :
    Ascending key l' :=
  List.Pairwise.sublist hsub h

/-- Only the keys of the stored elements matter. -/
lemma ascending_congr {key' : α → κ} {l : List α} (hk : ∀ e ∈ l, key' e = key e) :
    Ascending key' l ↔ Ascending key l :=
  List.Pairwise.iff_of_mem fun {a b} ha hb => by rw [hk a ha, hk b hb]

/-- The key identifies a stored element. -/
lemma Ascending.eq_of_key_eq {l : List α} (h : Ascending key l) {a b : α} (ha : a ∈ l)
    (hb : b ∈ l) (hab : key a = key b) : a = b := by
  induction l with
  | nil => exact absurd ha (by simp)
  | cons e l ih =>
    obtain ⟨he, hl⟩ := List.pairwise_cons.mp h
    rcases List.mem_cons.mp ha with rfl | ha' <;> rcases List.mem_cons.mp hb with rfl | hb'
    · rfl
    · exact absurd (he b hb') (by simp [hab])
    · exact absurd (he a ha') (by simp [hab])
    · exact ih hl ha' hb'

/-! ## `find` -/

/-- In a well-ordered set `find` returns exactly the stored element with that key. -/
lemma find_eq_some_iff {l : List α} (h : Ascending key l) {k : κ} {e : α} :
    find key k l = some e ↔ e ∈ l ∧ key e = k := by
  induction l with
  | nil => simp [find]
  | cons a l ih =>
    obtain ⟨ha, hl⟩ := List.pairwise_cons.mp h
    rw [find]
    split_ifs with h1 h2
    · rw [ih hl, List.mem_cons]
      constructor
      · rintro ⟨hm, hk⟩
        exact ⟨.inr hm, hk⟩
      · rintro ⟨rfl | hm, hk⟩
        · exact absurd h1 (by simp [hk])
        · exact ⟨hm, hk⟩
    · constructor
      · intro hc
        exact absurd hc (by simp)
      · rintro ⟨hm, hk⟩
        rcases List.mem_cons.mp hm with rfl | hm'
        · exact absurd h2 (by simp [hk])
        · exact absurd (lt_trans h2 (ha e hm')) (by simp [hk])
    · have hak : key a = k := le_antisymm (not_lt.mp h2) (not_lt.mp h1)
      constructor
      · intro hs
        obtain rfl : a = e := Option.some.inj hs
        exact ⟨List.mem_cons_self .., hak⟩
      · rintro ⟨hm, hk⟩
        rw [h.eq_of_key_eq (List.mem_cons_self ..) hm (hak.trans hk.symm)]

/-! ## `insert` -/

/-- A stored element was there before or is the new one. -/
lemma mem_of_mem_insert {x y : α} {l : List α} (h : y ∈ (insert key x l).1) :
    y = x ∨ y ∈ l := by
  induction l with
  | nil => exact .inl (by simpa [insert] using h)
  | cons e l ih =>
    rw [insert] at h
    split_ifs at h with h1 h2
    · rcases List.mem_cons.mp h with rfl | h'
      · exact .inr (List.mem_cons_self ..)
      · exact (ih h').imp_right (List.mem_cons_of_mem _)
    · simpa using h
    · exact .inr h

lemma subset_insert (x : α) (l : List α) : l ⊆ (insert key x l).1 := by
  induction l with
  | nil => simp
  | cons e l ih =>
    rw [insert]
    split_ifs with h1 h2
    · exact List.cons_subset_cons _ ih
    · exact List.subset_cons_self ..
    · exact List.Subset.refl _

/-- Without a tie the new element enters the set. -/
lemma mem_insert_self {x : α} {l : List α} (hfree : ∀ e ∈ l, key e ≠ key x) :
    x ∈ (insert key x l).1 := by
  induction l with
  | nil => simp [insert]
  | cons e l ih =>
    rw [insert]
    split_ifs with h1 h2
    · exact List.mem_cons_of_mem _ (ih fun a ha => hfree a (List.mem_cons_of_mem _ ha))
    · exact List.mem_cons_self ..
    · exact absurd (le_antisymm (not_lt.mp h2) (not_lt.mp h1)) (hfree e (List.mem_cons_self ..))

lemma mem_insert_iff {x y : α} {l : List α} (hfree : ∀ e ∈ l, key e ≠ key x) :
    y ∈ (insert key x l).1 ↔ y = x ∨ y ∈ l := by
  refine ⟨mem_of_mem_insert, ?_⟩
  rintro (rfl | hm)
  · exact mem_insert_self hfree
  · exact subset_insert x l hm

/-- With a tie nothing is stored. -/
lemma insert_of_tie {x e : α} {l : List α} (h : Ascending key l) (he : e ∈ l)
    (hk : key e = key x) : (insert key x l).1 = l := by
  induction l with
  | nil => exact absurd he (by simp)
  | cons a l ih =>
    obtain ⟨ha, hl⟩ := List.pairwise_cons.mp h
    rw [insert]
    split_ifs with h1 h2
    · rcases List.mem_cons.mp he with rfl | he'
      · exact absurd h1 (by simp [hk])
      · rw [ih hl he']
    · rcases List.mem_cons.mp he with rfl | he'
      · exact absurd h2 (by simp [hk])
      · exact absurd (lt_trans h2 (ha e he')) (by simp [hk])
    · rfl

/-- An element that fails the test leaves the elements that pass it as they are. -/
lemma filter_insert_of_not {p : α → Bool} {x : α} (hx : p x = false) (l : List α) :
    (insert key x l).1.filter p = l.filter p := by
  induction l with
  | nil => simp [insert, hx]
  | cons e l ih =>
    rw [insert]
    split_ifs with h1 h2
    · simp only [List.filter_cons, ih]
    · rw [List.filter_cons_of_neg (by simp [hx])]
    · rfl

/-- The order survives an insertion, with or without a tie. -/
lemma Ascending.insert {l : List α} (h : Ascending key l) (x : α) :
    Ascending key (insert key x l).1 := by
  induction l with
  | nil => exact List.pairwise_singleton _ _
  | cons e l ih =>
    obtain ⟨he, hl⟩ := List.pairwise_cons.mp h
    rw [OrderedSet.insert]
    split_ifs with h1 h2
    · refine List.pairwise_cons.mpr ⟨fun b hb => ?_, ih hl⟩
      rcases mem_of_mem_insert hb with rfl | hb'
      · exact h1
      · exact he b hb'
    · refine List.pairwise_cons.mpr ⟨fun b hb => ?_, h⟩
      rcases List.mem_cons.mp hb with rfl | hb'
      · exact h2
      · exact lt_trans h2 (he b hb')
    · exact h

end CoroutineGateway.OrderedSet
