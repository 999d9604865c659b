import Mathlib.Data.List.Basic
import Mathlib.Logic.Function.Basic

/-!
# Vectors of optional entries

A vector that grows when a place behind its end is needed, read as a partial map: a place without
an entry and a place behind the end are the same.  Resizing to no less than the length keeps the map
(`entry_resize`), and writing a place inside the vector updates it there (`entry_set`).
-/

namespace CoroutineGateway

namespace SlotTable

variable {α : Type*} {l : List (Option α)} {i n : ℕ}

/-- The entry at a place. -/
def entry (l : List (Option α)) (i : ℕ) : Option α := l[i]?.join

/-- A vector with another number of places; the new ones are empty. -/
def resize (l : List (Option α)) (n : ℕ) : List (Option α) :=
  l.take n ++ List.replicate (n - l.length) none

lemma entry_of_length_le (h : l.length ≤ i) : entry l i = none := by
  rw [entry, List.getElem?_eq_none h]
  rfl

lemma length_resize (l : List (Option α)) (n : ℕ) : (resize l n).length = n := by
  rw [resize, List.length_append, List.length_take, List.length_replicate]
  omega

lemma entry_replicate (n : ℕ) : entry (List.replicate n (none : Option α)) = fun _ => none := by
  funext i
  rw [entry, List.getElem?_replicate]
  split_ifs <;> rfl

/-- Growing keeps the entries. -/
theorem entry_resize (h : l.length ≤ n) : entry (resize l n) = entry l := by
  funext i
  rw [entry, resize, List.take_of_length_le h]
  by_cases hi : i < l.length
  · rw [List.getElem?_append_left hi, entry]
  · have hnone := congrFun (entry_replicate (α := α) (n - l.length)) (i - l.length)
    rw [List.getElem?_append_right (Nat.not_lt.mp hi), entry_of_length_le (Nat.not_lt.mp hi)]
    exact hnone

/-- Writing a place updates the map. -/
theorem entry_set (h : i < l.length) (a : Option α) :
    entry (l.set i a) = Function.update (entry l) i a := by
  funext j
  by_cases hj : j = i
  · subst hj
    rw [Function.update_self, entry, List.getElem?_set_self h]
    rfl
  · rw [Function.update_of_ne hj, entry, List.getElem?_set_ne (Ne.symm hj), entry]

end SlotTable

end CoroutineGateway
