import Mathlib.Data.Int.Order.Basic
import Mathlib.Logic.Function.Basic
import Mathlib.Algebra.Group.Nat.Defs

/-!
# The find cache

`FindCache` (`my_stl/my_stl.hpp`), a singly linked list behind an auxiliary node.  Nodes are named
by their addresses, with 0 for a null pointer.  The allocator is a parameter of the class, so the
address of a new node is an argument of `push`, used where the source calls `allocate`; a node that
was given back is there no more.

A loop that reads a node which is not there, or that takes more steps than there are nodes and so
never ends, gives `none`.  The `int` that counts positions has 32 bits and wraps around, as in the
compiled code; `size_`, a `long long`, counts nodes, of which there is no such number.
-/

namespace CoroutineGateway

/-- `FindNode` -/
structure FindNode (T : Type*) where
  /-- `key` and `value`, which the constructor without arguments does not set. -/
  pair : Option (T × T)
  next : ℕ

/-- `BackNode` -/
structure BackNode (T : Type*) where
  index : ℤ
  /-- Not set where nothing is found. -/
  passwd : Option T
  deriving DecidableEq

/-- A number in an `int`. -/
@[irreducible] def asInt (x : ℤ) : ℤ := Int.bmod x (2 ^ 32)

/-- `f_end` -/
def fEnd : ℤ := -1

/-- `FindCache`, with the nodes of its allocator. -/
structure FindCache (T : Type*) where
  node : ℕ → Option (FindNode T)
  /-- How many nodes there are. -/
  nodes : ℕ
  head : ℕ
  aider : ℕ
  /-- `size_` -/
  size : ℤ

namespace FindCache

variable {T : Type*}

/-! ## Nodes -/

/-- `allocate` returning `p`, and `construct`. -/
def allocate (c : FindCache T) (p : ℕ) (pair : Option (T × T)) : FindCache T :=
  { c with node := Function.update c.node p (some ⟨pair, 0⟩), nodes := c.nodes + 1 }

/-- `destroy` and `deallocate` -/
def deallocate (c : FindCache T) (p : ℕ) : FindCache T :=
  { c with node := Function.update c.node p none, nodes := c.nodes - 1 }

/-- `p->next = q` -/
def setNext (c : FindCache T) (p q : ℕ) : Option (FindCache T) :=
  (c.node p).map fun n => { c with node := Function.update c.node p (some { n with next := q }) }

/-! ## Operations -/

/-- `FindCache()`, the auxiliary node being at `aider`. -/
def init (aider : ℕ) : FindCache T :=
  allocate ⟨fun _ => none, 0, 0, aider, 0⟩ aider none

variable [DecidableEq T]

/-- The loop of `find`. -/
def findLoop (c : FindCache T) (key : T) : ℕ → ℕ → ℤ → Option (BackNode T)
  | bound, temp, index =>
    if temp = 0 then some ⟨fEnd, none⟩
    else
      match bound, c.node temp with
      | bound + 1, some ⟨some (k, v), next⟩ =>
        if k = key then some ⟨index, some v⟩
        else findLoop c key bound next (asInt (index + 1))
      | _, _ => none

/-- `find` -/
def find (c : FindCache T) (key : T) : Option (BackNode T) :=
  (c.node c.aider).bind fun aider => c.findLoop key c.nodes aider.next 1

/-- `push`; `newnode` is what `allocate` returns. -/
def push (c : FindCache T) (key value : T) (newnode : ℕ) : Option (Bool × FindCache T) := do
  let back ← c.find key
  if back.index ≠ fEnd then return (false, c)
  let c := c.allocate newnode (some (key, value))
  let c ← c.setNext newnode c.head
  let c ← c.setNext c.aider newnode
  return (true, { c with head := newnode, size := c.size + 1 })

/-- What `pop` does with the node it is looking for. -/
def unlink (c : FindCache T) (temp lastTemp next : ℕ) : Option (FindCache T) := do
  let c ← c.setNext lastTemp next
  let c := { c with size := c.size - 1 }
  let last ← c.node lastTemp
  let c := if c.head = temp then { c with head := last.next } else c
  return c.deallocate temp

/-- The loop of `pop`. -/
def popLoop (c : FindCache T) (key value : T) : ℕ → ℕ → ℕ → Option (Bool × FindCache T)
  | bound, temp, lastTemp =>
    if temp = 0 then some (false, c)
    else
      match bound, c.node temp, c.node lastTemp with
      | bound + 1, some ⟨some (k, v), next⟩, some last =>
        if k = key ∧ v = value then (c.unlink temp lastTemp next).map fun c => (true, c)
        else popLoop c key value bound next last.next
      | _, _, _ => none

/-- `pop` -/
def pop (c : FindCache T) (key value : T) : Option (Bool × FindCache T) :=
  (c.node c.aider).bind fun aider => c.popLoop key value c.nodes aider.next c.aider

/-- The loop of `update`. -/
def updateLoop (c : FindCache T) (key value : T) : ℕ → ℕ → Option (Bool × FindCache T)
  | bound, temp =>
    if temp = 0 then some (false, c)
    else
      match bound, c.node temp with
      | bound + 1, some ⟨some (k, _), next⟩ =>
        if k = key then
          some (true,
            { c with node := Function.update c.node temp (some ⟨some (k, value), next⟩) })
        else updateLoop c key value bound next
      | _, _ => none

/-- `update` -/
def update (c : FindCache T) (key value : T) : Option (Bool × FindCache T) :=
  (c.node c.aider).bind fun aider => c.updateLoop key value c.nodes aider.next

omit [DecidableEq T] in
/-- The loop of `clear`, without what it prints. -/
def clearLoop : ℕ → FindCache T → ℕ → Option (FindCache T)
  | bound, c, temp =>
    if temp = 0 then some c
    else
      match bound, c.node temp with
      | bound + 1, some n =>
        (c.setNext c.aider n.next).bind fun c => clearLoop bound (c.deallocate temp) n.next
      | _, _ => none

omit [DecidableEq T] in
/-- `clear`, which the destructor calls. -/
def clear (c : FindCache T) : Option (FindCache T) := do
  let aider ← c.node c.aider
  let c ← clearLoop c.nodes c aider.next
  return c.deallocate c.aider

end FindCache

/-! ## Calls -/

/-- A call of an operation. -/
inductive FindCacheCall (T : Type*) where
  | push (key value : T) (newnode : ℕ)
  | pop (key value : T)
  | update (key value : T)
  | find (key : T)

/-- What a call returns. -/
inductive FindCacheAnswer (T : Type*) where
  | done (ok : Bool)
  | found (back : BackNode T)
  deriving DecidableEq

namespace FindCache

variable {T : Type*} [DecidableEq T]

/-- A call, with what it returns. -/
def call (c : FindCache T) : FindCacheCall T → Option (FindCacheAnswer T × FindCache T)
  | .push key value newnode => (c.push key value newnode).map fun r => (.done r.1, r.2)
  | .pop key value => (c.pop key value).map fun r => (.done r.1, r.2)
  | .update key value => (c.update key value).map fun r => (.done r.1, r.2)
  | .find key => (c.find key).map fun back => (.found back, c)

omit [DecidableEq T] in
/-- Whether `allocate` can return what the call gets: the address of no node. -/
def allocatable (c : FindCache T) : FindCacheCall T → Bool
  | .push _ _ newnode => newnode ≠ 0 && (c.node newnode).isNone
  | _ => true

end FindCache

end CoroutineGateway
