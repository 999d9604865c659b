import CoroutineGateway.Construction.FindCache
import CoroutineGateway.Framework.LinkedList

/-!
# The nodes of a find cache

`FindCache.Nodes` says what a list in memory is: the auxiliary node leads through the nodes of the
list to the null pointer, and each of them is there and holds its pair.  It says nothing of `head`
and `size_`, so it also holds between the assignments of an operation.

Three edits keep it: a node is put in front (`Nodes.linkIn`), the node behind another one is taken
out and given back (`Nodes.unlink`), and a node is given another value (`Nodes.setValue`).
-/

namespace CoroutineGateway

namespace FindCache

variable {T : Type*}

/-! ## Links -/

/-- Where a node leads. -/
def next (node : ℕ → Option (FindNode T)) (p : ℕ) : ℕ := ((node p).map FindNode.next).getD 0

variable {node : ℕ → Option (FindNode T)} {p : ℕ}

lemma next_of_node {n : FindNode T} (h : node p = some n) : next node p = n.next := by
  rw [next, h]
  rfl

lemma next_update (n : Option (FindNode T)) :
    next (Function.update node p n) =
      Function.update (next node) p ((n.map FindNode.next).getD 0) := by
  funext a
  rw [next]
  by_cases ha : a = p
  · rw [ha, Function.update_self, Function.update_self]
  · rw [Function.update_of_ne ha, Function.update_of_ne ha, next]

/-! ## The list in memory -/

/-- The list behind the node at `aider`: the addresses of its nodes, with what they hold. -/
structure Nodes (node : ℕ → Option (FindNode T)) (aider : ℕ) (cells : List (ℕ × T × T)) : Prop where
  linked : Linked (next node) aider (aider :: cells.map Prod.fst) 0
  zero_notMem : 0 ∉ aider :: cells.map Prod.fst
  aider_node : ∃ n, node aider = some n
  cell_node : ∀ x ∈ cells, node x.1 = some ⟨some x.2, next node x.1⟩

namespace Nodes

variable {aider : ℕ} {cells pre post : List (ℕ × T × T)}

lemma nodup (h : Nodes node aider cells) : (aider :: cells.map Prod.fst).Nodup :=
  h.linked.nodup h.zero_notMem

/-- Where there are links, there are nodes. -/
lemma node_of_mem (h : Nodes node aider cells) {a : ℕ} (ha : a ∈ aider :: cells.map Prod.fst) :
    ∃ n, node a = some n := by
  rcases List.mem_cons.mp ha with rfl | ha
  · exact h.aider_node
  · obtain ⟨x, hx, rfl⟩ := List.mem_map.mp ha
    exact ⟨_, h.cell_node x hx⟩

lemma notMem_of_none (h : Nodes node aider cells) {a : ℕ} (ha : node a = none) :
    a ∉ aider :: cells.map Prod.fst := by
  intro hmem
  obtain ⟨n, hn⟩ := h.node_of_mem hmem
  exact absurd (hn.symm.trans ha) (Option.some_ne_none n)

lemma next_nil (h : Nodes node aider []) : next node aider = 0 := h.linked.2

lemma next_cons {x : ℕ × T × T} (h : Nodes node aider (x :: cells)) : next node aider = x.1 :=
  h.linked.2.1

lemma ne_zero {x : ℕ × T × T} (h : Nodes node aider (x :: cells)) : x.1 ≠ 0 :=
  fun h0 => h.zero_notMem (h0 ▸ List.mem_cons_of_mem _ (List.mem_cons_self ..))

lemma head_node {x : ℕ × T × T} (h : Nodes node aider (x :: cells)) :
    node x.1 = some ⟨some x.2, next node x.1⟩ :=
  h.cell_node x (List.mem_cons_self ..)

/-- The first node takes the part of the auxiliary one for the rest of the list. -/
lemma tail {x : ℕ × T × T} (h : Nodes node aider (x :: cells)) : Nodes node x.1 cells where
  linked := ⟨rfl, h.linked.2.2⟩
  zero_notMem := List.not_mem_of_not_mem_cons h.zero_notMem
  aider_node := ⟨_, h.head_node⟩
  cell_node y hy := h.cell_node y (List.mem_cons_of_mem x hy)

/-- Nodes that hold what they held, with the links of a list, are the list. -/
lemma of_linked {node' : ℕ → Option (FindNode T)} {cells' : List (ℕ × T × T)}
    (hlinked : Linked (next node') aider (aider :: cells'.map Prod.fst) 0)
    (h0 : 0 ∉ aider :: cells'.map Prod.fst) (haider : ∃ n, node' aider = some n)
    (hcells : ∀ x ∈ cells', ∃ q, node' x.1 = some ⟨some x.2, q⟩) : Nodes node' aider cells' where
  linked := hlinked
  zero_notMem := h0
  aider_node := haider
  cell_node x hx := by
    obtain ⟨q, hq⟩ := hcells x hx
    rw [next_of_node hq]
    exact hq

/-! ### Putting a node in front -/

lemma linkIn (h : Nodes node aider cells) {newnode : ℕ} (hnew0 : newnode ≠ 0)
    (hnew : node newnode = none) (e : T × T) (n : FindNode T) :
    Nodes (Function.update (Function.update node newnode (some ⟨some e, next node aider⟩)) aider
      (some { n with next := newnode })) aider ((newnode, e) :: cells) := by
  obtain ⟨hne, hnew'⟩ := List.ne_and_not_mem_of_not_mem_cons (h.notMem_of_none hnew)
  obtain ⟨h0, h0'⟩ := List.ne_and_not_mem_of_not_mem_cons h.zero_notMem
  obtain ⟨haider, -⟩ := List.nodup_cons.mp h.nodup
  refine of_linked ⟨rfl, ?_⟩ ?_ ⟨_, Function.update_self ..⟩ fun x hx => ?_
  · rw [next_update, next_update]
    refine ⟨Function.update_self .., ?_⟩
    rw [Function.update_of_ne hne, Function.update_self]
    exact (h.linked.2.update hnew').update haider
  · exact List.not_mem_cons_of_ne_of_not_mem h0
      (List.not_mem_cons_of_ne_of_not_mem hnew0.symm h0')
  · rcases List.mem_cons.mp hx with rfl | hx
    · rw [Function.update_of_ne hne, Function.update_self]
      exact ⟨_, rfl⟩
    · have hx' : x.1 ∈ cells.map Prod.fst := List.mem_map_of_mem hx
      rw [Function.update_of_ne (ne_of_mem_of_not_mem hx' haider),
        Function.update_of_ne (ne_of_mem_of_not_mem hx' hnew')]
      exact ⟨_, h.cell_node x hx⟩

/-! ### Taking a node out -/

/-- The addresses up to `last`, and those behind it. -/
lemma path_append {last : ℕ} {front : List ℕ}
    (hfront : aider :: pre.map Prod.fst = front ++ [last]) (rest : List (ℕ × T × T)) :
    aider :: (pre ++ rest).map Prod.fst = front ++ last :: rest.map Prod.fst := by
  rw [List.map_append, ← List.cons_append, hfront, List.append_assoc]
  rfl

/-- The node behind `last` is taken out. -/
lemma unlink {x last : ℕ} {e : T × T} {front : List ℕ} {n : FindNode T}
    (h : Nodes node aider (pre ++ (x, e) :: post))
    (hfront : aider :: pre.map Prod.fst = front ++ [last]) (hn : node last = some n) :
    Nodes (Function.update (Function.update node last (some { n with next := next node x })) x none)
      aider (pre ++ post) := by
  have hpath : aider :: (pre ++ (x, e) :: post).map Prod.fst =
      front ++ last :: x :: post.map Prod.fst := path_append hfront _
  have hpath' := path_append hfront post
  have hlinked := h.linked
  have hnodup := h.nodup
  have h0 := h.zero_notMem
  rw [hpath] at hlinked hnodup h0
  have hx : x ∉ front ++ last :: post.map Prod.fst := by
    rw [List.append_cons] at hnodup ⊢
    exact (List.nodup_cons.mp (List.nodup_middle.mp hnodup)).1
  have hne : ∀ a ∈ aider :: (pre ++ post).map Prod.fst, a ≠ x := by
    intro a ha
    rw [hpath'] at ha
    exact ne_of_mem_of_not_mem ha hx
  -- the nodes that stay hold what they held
  have hstay : ∀ a pair q, a ≠ x → node a = some ⟨pair, q⟩ → ∃ q',
      Function.update (Function.update node last (some { n with next := next node x })) x none a =
        some ⟨pair, q'⟩ := by
    intro a pair q hax ha
    rw [Function.update_of_ne hax]
    by_cases hal : a = last
    · obtain rfl := hal
      obtain rfl := Option.some.inj (ha.symm.trans hn)
      exact ⟨_, Function.update_self ..⟩
    · exact ⟨q, by rw [Function.update_of_ne hal, ha]⟩
  refine of_linked ?_ ?_ ?_ fun y hy => ?_
  · rw [next_update, next_update, hpath']
    exact (hlinked.unlink hnodup).update hx
  · rw [hpath']
    intro h0'
    rw [List.append_cons] at h0 h0'
    rcases List.mem_append.mp h0' with h0' | h0'
    · exact h0 (List.mem_append_left _ h0')
    · exact h0 (List.mem_append_right _ (List.mem_cons_of_mem x h0'))
  · obtain ⟨⟨pair, q⟩, haider⟩ := h.aider_node
    obtain ⟨q', hq'⟩ := hstay aider pair q (hne _ (List.mem_cons_self ..)) haider
    exact ⟨_, hq'⟩
  · have hycell : y ∈ pre ++ (x, e) :: post := by
      rcases List.mem_append.mp hy with hy | hy
      · exact List.mem_append_left _ hy
      · exact List.mem_append_right _ (List.mem_cons_of_mem _ hy)
    exact hstay y.1 _ _ (hne _ (List.mem_cons_of_mem _ (List.mem_map_of_mem hy)))
      (h.cell_node y hycell)

/-- The auxiliary node leads past the one that was taken out, or where it led before. -/
lemma unlink_head {x last : ℕ} {e : T × T} {front : List ℕ} (n : FindNode T)
    (h : Nodes node aider (pre ++ (x, e) :: post))
    (hfront : aider :: pre.map Prod.fst = front ++ [last]) :
    (if next node aider = x then next node x else next node aider) =
      next (Function.update (Function.update node last (some { n with next := next node x })) x
        none) aider := by
  have hpath : aider :: (pre ++ (x, e) :: post).map Prod.fst =
      front ++ [last] ++ x :: post.map Prod.fst :=
    (path_append hfront _).trans (List.append_cons ..)
  have hlinked := h.linked
  have hnodup := h.nodup
  rw [hpath] at hlinked hnodup
  obtain ⟨hx, hnodup⟩ := List.nodup_cons.mp (List.nodup_middle.mp hnodup)
  have hne : aider ≠ x := by
    refine ne_of_mem_of_not_mem ?_ hx
    rw [← hfront]
    exact List.mem_append_left _ (List.mem_cons_self ..)
  rw [next_update, next_update, Function.update_of_ne hne]
  cases front with
  | nil =>
    obtain ⟨rfl, hlast, -⟩ := hlinked
    rw [if_pos hlast, Function.update_self]
    rfl
  | cons a front =>
    obtain ⟨rfl, hlinked⟩ := hlinked
    have hhead : next node aider ∈ front ++ [last] :=
      Linked.mem_of_append (l := front ++ [last]) hlinked (List.append_ne_nil_of_right_ne_nil _
        (List.cons_ne_nil _ _))
    have hhead' : next node aider ≠ x :=
      ne_of_mem_of_not_mem (List.mem_append_left _ (List.mem_cons_of_mem _ hhead)) hx
    have haider : aider ≠ last := by
      rintro rfl
      exact (List.nodup_cons.mp (List.nodup_append.mp hnodup).1).1
        (List.mem_append_right _ (List.mem_singleton_self _))
    rw [if_neg hhead', Function.update_of_ne haider]

/-! ### Another value -/

lemma setValue {x : ℕ} {k w : T} (h : Nodes node aider (pre ++ (x, k, w) :: post)) (v : T) :
    Nodes (Function.update node x (some ⟨some (k, v), next node x⟩)) aider
        (pre ++ (x, k, v) :: post) ∧
      next (Function.update node x (some ⟨some (k, v), next node x⟩)) = next node := by
  have hnext : next (Function.update node x (some ⟨some (k, v), next node x⟩)) = next node := by
    rw [next_update]
    exact Function.update_eq_self x _
  have haddresses : (pre ++ (x, k, v) :: post).map Prod.fst =
      (pre ++ (x, k, w) :: post).map Prod.fst := by
    rw [List.map_append, List.map_append]
    rfl
  obtain ⟨haider, hnodup⟩ := List.nodup_cons.mp h.nodup
  rw [List.map_append, List.map_cons] at hnodup haider
  have hx := (List.nodup_cons.mp (List.nodup_middle.mp hnodup)).1
  have hstay : ∀ y, y ∈ pre ∨ y ∈ post →
      ∃ q, Function.update node x (some ⟨some (k, v), next node x⟩) y.1 = some ⟨some y.2, q⟩ := by
    intro y hy
    have hmem : y.1 ∈ pre.map Prod.fst ++ post.map Prod.fst :=
      List.mem_append.mpr (hy.imp List.mem_map_of_mem List.mem_map_of_mem)
    rw [Function.update_of_ne (ne_of_mem_of_not_mem hmem hx)]
    exact ⟨_, h.cell_node y (List.mem_append.mpr (hy.imp_right (List.mem_cons_of_mem _)))⟩
  refine ⟨of_linked ?_ ?_ ?_ fun y hy => ?_, hnext⟩
  · rw [hnext, haddresses]
    exact h.linked
  · rw [haddresses]
    exact h.zero_notMem
  · obtain ⟨n, hn⟩ := h.aider_node
    have hne : x ≠ aider :=
      ne_of_mem_of_not_mem (List.mem_append_right _ (List.mem_cons_self ..)) haider
    exact ⟨n, by rw [Function.update_of_ne hne.symm, hn]⟩
  · rcases List.mem_append.mp hy with hy | hy
    · exact hstay y (.inl hy)
    · rcases List.mem_cons.mp hy with rfl | hy
      · exact ⟨_, Function.update_self ..⟩
      · exact hstay y (.inr hy)

end Nodes

end FindCache

end CoroutineGateway
