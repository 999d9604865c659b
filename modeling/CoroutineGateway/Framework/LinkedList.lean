import Mathlib.Data.List.Nodup
import Mathlib.Logic.Function.Basic

/-!
# Lists linked by pointers

A list in memory is a first pointer and a function that leads from each node to the next one.
`Linked next p l q` says that from `p` it leads through the nodes `l` and arrives at `q`; with a
null pointer for `q` this is the whole list, otherwise a segment of one.

A list that ends determines its nodes (`Linked.unique`), so it cannot come back to one of them
(`Linked.nodup`).  What the list does not go through can be changed without changing the list
(`Linked.congr`).
-/

namespace CoroutineGateway

variable {P : Type*} {next next' : P → P} {p q x : P} {l l' : List P}

/-- `next` leads from `p` through the nodes `l` to `q`. -/
def Linked (next : P → P) : P → List P → P → Prop
  | p, [], q => p = q
  | p, x :: l, q => p = x ∧ Linked next (next x) l q

@[simp] lemma linked_nil : Linked next p [] q ↔ p = q := Iff.rfl

@[simp] lemma linked_cons : Linked next p (x :: l) q ↔ p = x ∧ Linked next (next x) l q := Iff.rfl

lemma linked_append : Linked next p (l ++ l') q ↔ ∃ r, Linked next p l r ∧ Linked next r l' q := by
  induction l generalizing p with
  | nil => simp
  | cons x l ih => simp [ih, and_assoc]

/-- The nodes are what `next` says of them. -/
lemma Linked.congr (h : Linked next p l q) (heq : ∀ x ∈ l, next' x = next x) :
    Linked next' p l q := by
  induction l generalizing p with
  | nil => exact h
  | cons x l ih =>
    refine ⟨h.1, ?_⟩
    rw [heq x (List.mem_cons_self ..)]
    exact ih h.2 fun y hy => heq y (List.mem_cons_of_mem x hy)

lemma Linked.update [DecidableEq P] {y : P} (h : Linked next p l q) (hx : x ∉ l) :
    Linked (Function.update next x y) p l q := by
  refine h.congr fun z hz => ?_
  rw [Function.update_of_ne (ne_of_mem_of_not_mem hz hx)]

/-- A list that ends determines its nodes. -/
theorem Linked.unique (h : Linked next p l q) (h' : Linked next p l' q) (hq : q ∉ l)
    (hq' : q ∉ l') : l = l' := by
  induction l generalizing p l' with
  | nil =>
    obtain rfl : p = q := h
    cases l' with
    | nil => rfl
    | cons y l' => exact absurd (h'.1 ▸ List.mem_cons_self ..) hq'
  | cons x l ih =>
    obtain ⟨rfl, h⟩ := h
    cases l' with
    | nil =>
      obtain rfl : p = q := h'
      exact absurd (List.mem_cons_self ..) hq
    | cons y l' =>
      obtain ⟨rfl, h'⟩ := h'
      rw [ih h h' (List.not_mem_of_not_mem_cons hq) (List.not_mem_of_not_mem_cons hq')]

/-- A list from where it ends has no nodes. -/
lemma Linked.eq_nil (h : Linked next q l q) (hq : q ∉ l) : l = [] :=
  h.unique rfl hq List.not_mem_nil

/-- A list that ends does not come back. -/
theorem Linked.nodup (h : Linked next p l q) (hq : q ∉ l) : l.Nodup := by
  induction l generalizing p with
  | nil => exact List.nodup_nil
  | cons x l ih =>
    have hql : q ∉ l := List.not_mem_of_not_mem_cons hq
    refine List.nodup_cons.mpr ⟨fun hx => ?_, ih h.2 hql⟩
    -- the nodes after the second visit of `x` would be those after the first
    obtain ⟨a, b, rfl⟩ := List.append_of_mem hx
    obtain ⟨r, -, hr⟩ := linked_append.mp h.2
    have hqb : q ∉ b := fun hb => hql (List.mem_append_right _ (List.mem_cons_of_mem _ hb))
    have heq := h.2.unique hr.2 hql hqb
    have hlen := congrArg List.length heq
    simp only [List.length_append, List.length_cons] at hlen
    omega

/-- What is true of the nodes and of the end is true of the beginning. -/
@[elab_as_elim]
lemma Linked.begins {motive : P → Prop} (h : Linked next p l q) (hl : ∀ x ∈ l, motive x)
    (hq : motive q) : motive p := by
  cases l with
  | nil => exact h ▸ hq
  | cons y l => exact h.1 ▸ hl y (List.mem_cons_self ..)

/-- A list begins in its first part. -/
lemma Linked.mem_of_append (h : Linked next p (l ++ l') q) (hl : l ≠ []) : p ∈ l := by
  cases l with
  | nil => exact absurd rfl hl
  | cons y l => exact h.1 ▸ List.mem_cons_self ..

/-- A node is taken out by leading the one before it to the one behind it. -/
theorem Linked.unlink [DecidableEq P] {y : P} {rest : List P}
    (h : Linked next p (l ++ x :: y :: rest) q) (hnodup : (l ++ x :: y :: rest).Nodup) :
    Linked (Function.update next x (next y)) p (l ++ x :: rest) q := by
  obtain ⟨r, hl, rfl, hxy, hrest⟩ := linked_append.mp h
  obtain ⟨-, hxrest, hdisjoint⟩ := List.nodup_append.mp hnodup
  have hxl : r ∉ l := fun hr => hdisjoint r hr r (List.mem_cons_self ..) rfl
  have hx : r ∉ rest := fun hr =>
    (List.nodup_cons.mp hxrest).1 (List.mem_cons_of_mem y hr)
  refine linked_append.mpr ⟨r, hl.update hxl, rfl, ?_⟩
  rw [Function.update_self]
  exact hrest.update hx

end CoroutineGateway
