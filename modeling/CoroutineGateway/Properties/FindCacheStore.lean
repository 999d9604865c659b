import CoroutineGateway.Framework.KeyedList
import CoroutineGateway.Properties.FindCacheNodes

/-!
# The find cache as a keyed store

`FindCache` is a list with keys: `push`, `pop`, `update` and `find` do to the nodes what the
operations of the same names do to a `KeyedList`, and give the same answers.  What they rely on is
`FindCache.Represents`: the nodes are those of the list, and `head` is where the auxiliary node
leads.

Positions are counted in an `int`.  So `find` gives the position as far as an `int` can count, and
`push` recognizes a key unless its position looks like `f_end`.
-/

namespace CoroutineGateway

open KeyedList

variable {T : Type*}

/-! ## The `int` of a position -/

lemma asInt_asInt_add (x y : ℤ) : asInt (asInt x + y) = asInt (x + y) := by
  unfold asInt
  exact Int.bmod_add_bmod

lemma asInt_eq_self_iff (i : ℕ) : asInt i = i ↔ i < 2 ^ 31 := by
  unfold asInt
  refine ⟨fun h => ?_, fun h => Int.bmod_eq_of_le (by omega) (by omega)⟩
  have hlt : Int.bmod i (2 ^ 32) < _ := Int.bmod_lt (by omega)
  omega

lemma asInt_eq_fEnd_iff (i : ℕ) : asInt i = fEnd ↔ i % 2 ^ 32 = 2 ^ 32 - 1 := by
  unfold asInt fEnd
  rw [Int.bmod_eq_iff (by omega)]
  omega

namespace FindCache

/-- The cache has the nodes of a list, and knows its beginning and its length. -/
structure Represents (c : FindCache T) (cells : List (ℕ × T × T)) : Prop where
  nodes_cells : Nodes c.node c.aider cells
  head_eq : c.head = next c.node c.aider
  size_eq : c.size = cells.length
  nodes_eq : c.nodes = cells.length + 1

/-- A cache and what it stores. -/
def Stores (c : FindCache T) (l : KeyedList T T) : Prop :=
  ∃ cells, c.Represents cells ∧ cells.map Prod.snd = l.pairs

variable {c : FindCache T} {cells : List (ℕ × T × T)} {l : KeyedList T T} {p : ℕ}

lemma init_stores {aider : ℕ} (h : aider ≠ 0) : (init aider : FindCache T).Stores .empty := by
  have hnode : (init aider : FindCache T).node aider = some ⟨none, 0⟩ := Function.update_self ..
  have hnext := next_of_node hnode
  have hnodes : Nodes (init aider : FindCache T).node aider [] :=
    { linked := ⟨rfl, hnext⟩
      zero_notMem := fun h0 => h (List.mem_singleton.mp h0).symm
      aider_node := ⟨_, hnode⟩
      cell_node := fun _ hx => nomatch hx }
  exact ⟨[], ⟨hnodes, hnext.symm, rfl, rfl⟩, rfl⟩

lemma Represents.length_le (h : c.Represents cells) : cells.length ≤ c.nodes := by
  rw [h.nodes_eq]
  exact Nat.le_succ _

/-- The operations begin where the auxiliary node leads. -/
lemma Represents.bind_aider {β : Type*} (h : c.Represents cells) (f : ℕ → Option β) :
    (c.node c.aider).bind (fun aider => f aider.next) = f (next c.node c.aider) := by
  obtain ⟨aider, haider⟩ := h.nodes_cells.aider_node
  rw [next_of_node haider, haider, Option.bind_some]

/-- Where there is a node, the bound leaves a step for it. -/
lemma exists_bound {x : ℕ × T × T} {bound : ℕ} (h : (x :: cells).length ≤ bound) :
    ∃ b, bound = b + 1 ∧ cells.length ≤ b := by
  obtain ⟨b, rfl⟩ := Nat.exists_eq_add_one.mpr (Nat.lt_of_lt_of_le (Nat.succ_pos _) h)
  exact ⟨b, rfl, Nat.le_of_succ_le_succ h⟩

/-! ## `find` -/

/-- The answer of `find` where the first node looked at has the position `n + 1`. -/
def foundFrom (n : ℕ) : Option (ℕ × T) → BackNode T
  | none => ⟨fEnd, none⟩
  | some (i, v) => ⟨asInt (n + i : ℕ), some v⟩

lemma index_foundFrom_some (n i : ℕ) (v : T) :
    (foundFrom n (some (i, v))).index = asInt (n + i : ℕ) := by
  rw [foundFrom]

lemma index_foundFrom_none (n : ℕ) : (foundFrom n (none : Option (ℕ × T))).index = fEnd := by
  rw [foundFrom]

variable [DecidableEq T] {key value : T}

lemma findLoop_null (bound : ℕ) (index : ℤ) :
    c.findLoop key bound 0 index = some ⟨fEnd, none⟩ := by
  unfold findLoop
  exact if_pos rfl

lemma findLoop_node {bound q : ℕ} {e : T × T} {index : ℤ} (hp : p ≠ 0)
    (h : c.node p = some ⟨some e, q⟩) :
    c.findLoop key (bound + 1) p index =
      if e.1 = key then some ⟨index, some e.2⟩
      else c.findLoop key bound q (asInt (index + 1)) := by
  conv_lhs => unfold findLoop
  rw [if_neg hp, h]

/-- The loop of `find` from the node behind `aider` on, which has the position `n + 1`. -/
lemma findLoop_eq {bound aider : ℕ} (n : ℕ) (h : Nodes c.node aider cells)
    (hbound : cells.length ≤ bound) :
    c.findLoop key bound (next c.node aider) (asInt (n + 1 : ℕ)) =
      some (foundFrom n (findIn key (cells.map Prod.snd))) := by
  induction cells generalizing bound aider n with
  | nil =>
    rw [h.next_nil]
    exact findLoop_null _ _
  | cons x cells ih =>
    obtain ⟨b, rfl, hb⟩ := exists_bound hbound
    rw [h.next_cons, findLoop_node h.ne_zero h.head_node, List.map_cons, findIn]
    by_cases hkey : x.2.1 = key
    · rw [if_pos hkey, if_pos hkey]
      rfl
    · have hindex : asInt (asInt (n + 1 : ℕ) + 1) = asInt (n + 1 + 1 : ℕ) :=
        asInt_asInt_add _ _
      rw [if_neg hkey, if_neg hkey, hindex, ih (n + 1) h.tail hb]
      cases findIn key (cells.map Prod.snd) with
      | none => rfl
      | some r => rw [Option.map_some, foundFrom, foundFrom, Nat.succ_add_eq_add_succ]

/-- `find` gives the position, as far as an `int` can count, and the value. -/
lemma Stores.find_eq (h : c.Stores l) (key : T) : c.find key = some (foundFrom 0 (l.find key)) := by
  obtain ⟨cells, hc, hpairs⟩ := h
  have hone : asInt (0 + 1 : ℕ) = 1 := (asInt_eq_self_iff 1).mpr (by omega)
  have hloop : c.findLoop key c.nodes (next c.node c.aider) (asInt (0 + 1 : ℕ)) =
      some (foundFrom 0 (findIn key (cells.map Prod.snd))) :=
    findLoop_eq 0 hc.nodes_cells hc.length_le
  rw [hone, hpairs] at hloop
  exact (hc.bind_aider fun p => c.findLoop key c.nodes p 1).trans hloop

/-! ## `push` -/

omit [DecidableEq T] in
lemma setNext_eq {q : ℕ} {n : FindNode T} (h : c.node p = some n) :
    c.setNext p q =
      some { c with node := Function.update c.node p (some { n with next := q }) } := by
  rw [setNext, h]
  rfl

/-- The cache after a node has been put in front. -/
def linkedIn (c : FindCache T) (aider : FindNode T) (key value : T) (newnode : ℕ) :
    FindCache T where
  node := Function.update (Function.update c.node newnode (some ⟨some (key, value), c.head⟩))
    c.aider (some { aider with next := newnode })
  nodes := c.nodes + 1
  head := newnode
  aider := c.aider
  size := c.size + 1

lemma push_eq_linkedIn (value : T) {aider : FindNode T} (haider : c.node c.aider = some aider)
    {newnode : ℕ} (hnew : c.node newnode = none) {back : BackNode T}
    (hback : c.find key = some back) (hend : back.index = fEnd) :
    c.push key value newnode = some (true, c.linkedIn aider key value newnode) := by
  have hne : c.aider ≠ newnode := by
    rintro rfl
    exact absurd (haider.symm.trans hnew) (Option.some_ne_none aider)
  have hhead : (c.allocate newnode (some (key, value))).setNext newnode
      (c.allocate newnode (some (key, value))).head = some { c with
        node := Function.update c.node newnode (some ⟨some (key, value), c.head⟩)
        nodes := c.nodes + 1 } := by
    rw [setNext_eq (show (c.allocate newnode _).node newnode = some ⟨some (key, value), 0⟩ from
      Function.update_self ..)]
    simp only [allocate, Function.update_idem]
  have hlast : (Function.update c.node newnode (some ⟨some (key, value), c.head⟩)) c.aider =
      some aider := by
    rw [Function.update_of_ne hne, haider]
  rw [push, hback]
  simp only [Option.bind_eq_bind, Option.bind_some, hend, ne_eq, not_true_eq_false, if_false]
  rw [hhead, Option.bind_some, setNext_eq hlast]
  rfl

lemma push_eq_of_found {back : BackNode T} (hback : c.find key = some back)
    (hend : back.index ≠ fEnd) (newnode : ℕ) : c.push key value newnode = some (false, c) := by
  rw [push, hback]
  simp only [Option.bind_eq_bind, Option.bind_some, ne_eq, hend, not_false_eq_true, if_true]
  rfl

omit [DecidableEq T] in
lemma Represents.linkedIn (h : c.Represents cells) (aider : FindNode T) {newnode : ℕ}
    (hnew0 : newnode ≠ 0) (hnew : c.node newnode = none) (key value : T) :
    (c.linkedIn aider key value newnode).Represents ((newnode, key, value) :: cells) := by
  have hnodes := h.nodes_cells.linkIn hnew0 hnew (key, value) aider
  rw [← h.head_eq] at hnodes
  exact ⟨hnodes, hnodes.next_cons.symm, congrArg (· + 1) h.size_eq, congrArg (· + 1) h.nodes_eq⟩

/-- `push` fails if the key is there, unless its position passes for `f_end`. -/
lemma Stores.push_eq (h : c.Stores l) (value : T) {newnode : ℕ} (hnew0 : newnode ≠ 0)
    (hnew : c.node newnode = none) (hend : ∀ i v, l.find key = some (i, v) → asInt i ≠ fEnd) :
    ∃ c', c.push key value newnode = some ((l.push key value).1, c') ∧
      c'.Stores (l.push key value).2 := by
  have hfind := h.find_eq key
  obtain ⟨cells, hc, hpairs⟩ := h
  obtain ⟨aider, haider⟩ := hc.nodes_cells.aider_node
  rw [KeyedList.push]
  cases hl : l.find key with
  | none =>
    rw [dif_neg (find_eq_none_iff.mp hl)]
    rw [hl] at hfind
    refine ⟨_, push_eq_linkedIn value haider hnew hfind (index_foundFrom_none 0), _,
      hc.linkedIn aider hnew0 hnew key value, ?_⟩
    show (key, value) :: cells.map Prod.snd = (key, value) :: l.pairs
    rw [hpairs]
  | some r =>
    obtain ⟨i, v⟩ := r
    rw [dif_pos (mem_keys_of_find hl)]
    rw [hl] at hfind
    refine ⟨c, push_eq_of_found hfind ?_ newnode, cells, hc, hpairs⟩
    rw [index_foundFrom_some, Nat.zero_add]
    exact hend i v hl

/-! ## `pop` -/

omit [DecidableEq T] in
/-- The cache after the node at `x` behind the one at `last` has been taken out. -/
lemma unlink_eq {x last q : ℕ} {n : FindNode T} (hlast : c.node last = some n) :
    c.unlink x last q = some
      { node := Function.update (Function.update c.node last (some { n with next := q })) x none
        nodes := c.nodes - 1
        head := if c.head = x then q else c.head
        aider := c.aider
        size := c.size - 1 } := by
  have hnode : Function.update c.node last (some { n with next := q }) last =
      some { n with next := q } := Function.update_self ..
  rw [unlink, setNext_eq hlast]
  simp only [Option.bind_eq_bind, Option.bind_some, hnode]
  by_cases hhead : c.head = x
  · rw [if_pos hhead, if_pos hhead]
    rfl
  · rw [if_neg hhead, if_neg hhead]
    rfl

omit [DecidableEq T] in
lemma Represents.unlink {pre post : List (ℕ × T × T)} {x last : ℕ} {e : T × T} {front : List ℕ}
    (h : c.Represents (pre ++ (x, e) :: post))
    (hfront : c.aider :: pre.map Prod.fst = front ++ [last]) :
    ∃ c', c.unlink x last (next c.node x) = some c' ∧ c'.Represents (pre ++ post) := by
  have hlength : (pre ++ (x, e) :: post).length = (pre ++ post).length + 1 := by
    rw [List.length_append, List.length_append]
    rfl
  have hlast : last ∈ c.aider :: (pre ++ (x, e) :: post).map Prod.fst := by
    rw [Nodes.path_append hfront]
    exact List.mem_append_right _ (List.mem_cons_self ..)
  obtain ⟨n, hn⟩ := h.nodes_cells.node_of_mem hlast
  refine ⟨_, unlink_eq hn, h.nodes_cells.unlink hfront hn, ?_, ?_, ?_⟩
  · rw [h.head_eq]
    exact h.nodes_cells.unlink_head n hfront
  · have hsize := h.size_eq
    show c.size - 1 = (pre ++ post).length
    omega
  · have hnodes := h.nodes_eq
    show c.nodes - 1 = (pre ++ post).length + 1
    omega

lemma popLoop_null (bound last : ℕ) : c.popLoop key value bound 0 last = some (false, c) := by
  unfold popLoop
  exact if_pos rfl

lemma popLoop_node {bound q last : ℕ} {e : T × T} {n : FindNode T} (hp : p ≠ 0)
    (h : c.node p = some ⟨some e, q⟩) (hlast : c.node last = some n) :
    c.popLoop key value (bound + 1) p last =
      if e.1 = key ∧ e.2 = value then (c.unlink p last q).map fun c => (true, c)
      else c.popLoop key value bound q n.next := by
  conv_lhs => unfold popLoop
  rw [if_neg hp, h, hlast]

/-- The loop of `pop` finds the first node with the pair, and the node before it. -/
lemma popLoop_eq (key value : T) {bound last : ℕ} (h : Nodes c.node last cells)
    (hbound : cells.length ≤ bound) :
    (key, value) ∉ cells.map Prod.snd ∧
        c.popLoop key value bound (next c.node last) last = some (false, c) ∨
      ∃ pre x post front last', cells = pre ++ (x, key, value) :: post ∧
        (key, value) ∉ pre.map Prod.snd ∧ last :: pre.map Prod.fst = front ++ [last'] ∧
        c.popLoop key value bound (next c.node last) last =
          (c.unlink x last' (next c.node x)).map fun c => (true, c) := by
  induction cells generalizing bound last with
  | nil =>
    refine .inl ⟨List.not_mem_nil, ?_⟩
    rw [h.next_nil]
    exact popLoop_null _ _
  | cons x cells ih =>
    obtain ⟨n, hn⟩ := h.aider_node
    obtain ⟨b, rfl, hb⟩ := exists_bound hbound
    rw [h.next_cons, popLoop_node h.ne_zero h.head_node hn, ← next_of_node hn, h.next_cons]
    by_cases hpair : x.2.1 = key ∧ x.2.2 = value
    · refine .inr ⟨[], x.1, cells, [], last, ?_, List.not_mem_nil, rfl, if_pos hpair⟩
      rw [List.nil_append, ← hpair.1, ← hpair.2]
    · have hne : (key, value) ≠ x.2 := fun heq => hpair (by rw [← heq]; exact ⟨rfl, rfl⟩)
      rw [if_neg hpair]
      rcases ih h.tail hb with
        ⟨hmem, hloop⟩ | ⟨pre, y, post, front, last', hcells, hmem, hfront, hloop⟩
      · exact .inl ⟨List.not_mem_cons_of_ne_of_not_mem hne hmem, hloop⟩
      · exact .inr ⟨x :: pre, y, post, last :: front, last', congrArg (x :: ·) hcells,
          List.not_mem_cons_of_ne_of_not_mem hne hmem, congrArg (last :: ·) hfront, hloop⟩

/-- `pop` takes out the pair, and nothing else. -/
lemma Stores.pop_eq (h : c.Stores l) (key value : T) :
    ∃ c', c.pop key value = some ((l.pop key value).1, c') ∧ c'.Stores (l.pop key value).2 := by
  obtain ⟨cells, hc, hpairs⟩ := h
  have hpop : c.pop key value = c.popLoop key value c.nodes (next c.node c.aider) c.aider :=
    hc.bind_aider fun p => c.popLoop key value c.nodes p c.aider
  rw [hpop, KeyedList.pop]
  rcases popLoop_eq key value hc.nodes_cells hc.length_le with
    ⟨hmem, hloop⟩ | ⟨pre, x, post, front, last, rfl, hmem, hfront, hloop⟩
  · rw [hpairs] at hmem
    rw [if_neg hmem]
    exact ⟨c, hloop, cells, hc, hpairs⟩
  · have hin : (key, value) ∈ l.pairs := by
      rw [← hpairs]
      exact List.mem_map.mpr ⟨_, List.mem_append_right _ (List.mem_cons_self ..), rfl⟩
    obtain ⟨c', hunlink, hc'⟩ := hc.unlink hfront
    rw [if_pos hin]
    refine ⟨c', ?_, pre ++ post, hc', ?_⟩
    · rw [hloop, hunlink]
      rfl
    · show (pre ++ post).map Prod.snd = l.pairs.erase (key, value)
      rw [← hpairs, List.map_append, List.map_append, List.erase_append_right _ hmem,
        List.map_cons, List.erase_cons_head]

/-! ## `update` -/

lemma updateLoop_null (bound : ℕ) : c.updateLoop key value bound 0 = some (false, c) := by
  unfold updateLoop
  exact if_pos rfl

lemma updateLoop_node {bound q : ℕ} {e : T × T} (hp : p ≠ 0) (h : c.node p = some ⟨some e, q⟩) :
    c.updateLoop key value (bound + 1) p =
      if e.1 = key then
        some (true, { c with node := Function.update c.node p (some ⟨some (e.1, value), q⟩) })
      else c.updateLoop key value bound q := by
  conv_lhs => unfold updateLoop
  rw [if_neg hp, h]

/-- The loop of `update` finds the first node with the key. -/
lemma updateLoop_eq (key value : T) {bound aider : ℕ} (h : Nodes c.node aider cells)
    (hbound : cells.length ≤ bound) :
    (∀ x ∈ cells, x.2.1 ≠ key) ∧
        c.updateLoop key value bound (next c.node aider) = some (false, c) ∨
      ∃ pre x w post, cells = pre ++ (x, key, w) :: post ∧
        c.updateLoop key value bound (next c.node aider) = some (true, { c with
          node := Function.update c.node x (some ⟨some (key, value), next c.node x⟩) }) := by
  induction cells generalizing bound aider with
  | nil =>
    rw [h.next_nil]
    exact .inl ⟨fun x hx => (nomatch hx), updateLoop_null _⟩
  | cons x cells ih =>
    obtain ⟨b, rfl, hb⟩ := exists_bound hbound
    rw [h.next_cons, updateLoop_node h.ne_zero h.head_node]
    by_cases hkey : x.2.1 = key
    · refine .inr ⟨[], x.1, x.2.2, cells, ?_, ?_⟩
      · rw [List.nil_append, ← hkey]
      · rw [if_pos hkey, hkey]
    · rw [if_neg hkey]
      rcases ih h.tail hb with
        ⟨hnone, hloop⟩ | ⟨pre, y, w, post, hcells, hloop⟩
      · exact .inl ⟨List.forall_mem_cons.mpr ⟨hkey, hnone⟩, hloop⟩
      · exact .inr ⟨x :: pre, y, w, post, congrArg (x :: ·) hcells, hloop⟩

/-- `update` gives the key another value, and changes nothing else. -/
lemma Stores.update_eq (h : c.Stores l) (key value : T) :
    ∃ c', c.update key value = some ((l.update key value).1, c') ∧
      c'.Stores (l.update key value).2 := by
  obtain ⟨cells, hc, hpairs⟩ := h
  have hupdate : c.update key value = c.updateLoop key value c.nodes (next c.node c.aider) :=
    hc.bind_aider (c.updateLoop key value c.nodes)
  rw [hupdate, KeyedList.update]
  rcases updateLoop_eq key value hc.nodes_cells hc.length_le with
    ⟨hnone, hloop⟩ | ⟨pre, x, w, post, rfl, hloop⟩
  · have hkey : key ∉ l.keys := by
      rw [keys, ← hpairs, List.map_map]
      intro hmem
      obtain ⟨x, hx, hxkey⟩ := List.mem_map.mp hmem
      exact hnone x hx hxkey
    rw [if_neg hkey]
    exact ⟨c, hloop, cells, hc, hpairs⟩
  · have hpairs' : l.pairs = pre.map Prod.snd ++ (key, w) :: post.map Prod.snd := by
      rw [← hpairs, List.map_append, List.map_cons]
    have hkey : key ∈ l.keys := by
      rw [keys, hpairs', List.map_append]
      exact List.mem_append_right _ (List.mem_cons_self ..)
    have hlength : (pre ++ (x, key, value) :: post).length =
        (pre ++ (x, key, w) :: post).length := by
      rw [List.length_append, List.length_append]
      rfl
    have hkeyed := l.keyed
    obtain ⟨hnodes, hnext⟩ := hc.nodes_cells.setValue value
    rw [if_pos hkey]
    refine ⟨_, hloop, pre ++ (x, key, value) :: post, ⟨hnodes, ?_, ?_, ?_⟩, ?_⟩
    · exact hc.head_eq.trans (congrFun hnext c.aider).symm
    · rw [hlength]
      exact hc.size_eq
    · rw [hlength]
      exact hc.nodes_eq
    · show _ = KeyedList.setValue key value l.pairs
      rw [hpairs'] at hkeyed ⊢
      rw [setValue_middle hkeyed, List.map_append, List.map_cons]

/-! ## `clear` -/

omit [DecidableEq T] in
lemma clearLoop_null (bound : ℕ) : clearLoop bound c 0 = some c := by
  unfold clearLoop
  exact if_pos rfl

omit [DecidableEq T] in
lemma clearLoop_node {bound : ℕ} {m n : FindNode T} (hp : p ≠ 0) (h : c.node p = some m)
    (hn : c.node c.aider = some n) :
    clearLoop (bound + 1) c p = clearLoop bound { c with
      node :=
        Function.update (Function.update c.node c.aider (some { n with next := m.next })) p none
      nodes := c.nodes - 1 } m.next := by
  conv_lhs => unfold clearLoop
  rw [if_neg hp, h]
  dsimp only
  rw [setNext_eq hn]
  rfl

omit [DecidableEq T] in
/-- The loop of `clear` gives back all nodes but the auxiliary one. -/
lemma clearLoop_eq {bound : ℕ} (h : Nodes c.node c.aider cells)
    (hnodes : c.nodes = cells.length + 1) (hbound : cells.length ≤ bound) :
    ∃ c', clearLoop bound c (next c.node c.aider) = some c' ∧ c'.aider = c.aider ∧
      c'.nodes = 1 := by
  induction cells generalizing c bound with
  | nil =>
    rw [h.next_nil]
    exact ⟨c, clearLoop_null bound, rfl, hnodes⟩
  | cons x cells ih =>
    obtain ⟨n, hn⟩ := h.aider_node
    obtain ⟨b, rfl, hb⟩ := exists_bound hbound
    have hcells : Nodes c.node c.aider ([] ++ (x.1, x.2) :: cells) := h
    have hfront : c.aider :: ([] : List (ℕ × T × T)).map Prod.fst = [] ++ [c.aider] := rfl
    have hnext := hcells.unlink_head n hfront
    rw [if_pos h.next_cons] at hnext
    have hcount : c.nodes - 1 = cells.length + 1 := by
      rw [hnodes]
      rfl
    obtain ⟨c', hloop, hend⟩ := ih (c := { c with
      node := Function.update (Function.update c.node c.aider
        (some { n with next := next c.node x.1 })) x.1 none
      nodes := c.nodes - 1 }) (hcells.unlink hfront hn) hcount hb
    refine ⟨c', ?_, hend⟩
    rw [h.next_cons, clearLoop_node h.ne_zero h.head_node hn]
    exact (congrArg (clearLoop b _) hnext).trans hloop

omit [DecidableEq T] in
/-- `clear` comes to an end and gives back every node. -/
theorem Stores.clear_eq (h : c.Stores l) : ∃ c', c.clear = some c' ∧ c'.nodes = 0 := by
  obtain ⟨cells, hc, -⟩ := h
  obtain ⟨n, hn⟩ := hc.nodes_cells.aider_node
  obtain ⟨c', hloop, -, hone⟩ := clearLoop_eq hc.nodes_cells hc.nodes_eq hc.length_le
  refine ⟨c'.deallocate c'.aider, ?_, congrArg (· - 1) hone⟩
  rw [next_of_node hn] at hloop
  rw [clear, hn]
  simp only [Option.bind_eq_bind, Option.bind_some, hloop]
  rfl

end FindCache

end CoroutineGateway
