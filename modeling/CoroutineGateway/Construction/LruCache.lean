import CoroutineGateway.Framework.Text
import Mathlib.Logic.Function.Basic

/-!
# The LRU cache and the cache of verified tokens

`LRUCache` (`my_stl/my_stl.hpp`) and `JwtCache` (`util/jwt_cache.cpp`).  An `LRUCache` is a
`std::list` of pointers to nodes together with an `unordered_map` from keys to iterators of that
list.  A node and the list element that points to it live and die together, so one number names
both: the count of nodes allocated before it.
-/

namespace CoroutineGateway

/-- `LruNode` -/
structure LruNode (K V : Type*) where
  key : K
  value : V

/-- A capacity: `-1` for no bound, or at least one.  With any other one `push` reads the last
element of an empty list, or the comparison with `size()` wraps around. -/
abbrev Capacity := {c : ℤ // c = -1 ∨ 1 ≤ c}

/-- `LRUCache` -/
structure LruCache (K V : Type*) where
  capacity : Capacity
  map : K → Option ℕ
  /-- `my_list`: each element's iterator and the node it points to. -/
  myList : List (ℕ × LruNode K V)
  /-- How many nodes `allocator_` has allocated and deallocated for this object. -/
  allocated : ℕ
  deallocated : ℕ

namespace LruCache

variable {K V : Type*}

/-- `LRUCache(int capacity)` -/
def init (capacity : Capacity) : LruCache K V where
  capacity
  map _ := none
  myList := []
  allocated := 0
  deallocated := 0

/-- `c = LRUCache(capacity)`, the implicit copy assignment: the members are overwritten with
those of the empty temporary, and the nodes of the old list are not looked at. -/
def assign (c : LruCache K V) (capacity : Capacity) : LruCache K V :=
  { c with capacity, map := fun _ => none, myList := [] }

/-- `c = other`, member by member; an allocator has no state to assign. -/
def copyAssign (c other : LruCache K V) : LruCache K V :=
  { c with capacity := other.capacity, map := other.map, myList := other.myList }

/-- One iteration of the loop in `clear`. -/
def popFront (c : LruCache K V) : LruCache K V :=
  { c with deallocated := c.deallocated + 1, myList := c.myList.tail }

/-- `clear`, which is the destructor. -/
def clear (c : LruCache K V) : LruCache K V :=
  popFront^[c.myList.length] { c with map := fun _ => none }

/-- `my_list.splice(my_list.begin(), my_list, it)` -/
def splice (it : ℕ) (l : List (ℕ × LruNode K V)) : List (ℕ × LruNode K V) :=
  match l.find? (·.1 = it) with
  | some e => e :: l.eraseP (·.1 = it)
  | none => l

/-- `capacity != -1 && my_list.size() >= capacity` -/
def full (c : LruCache K V) : Bool := c.capacity.1 ≠ -1 ∧ c.capacity.1 ≤ c.myList.length

/-- The eviction in `push`. -/
def evict [DecidableEq K] (c : LruCache K V) : LruCache K V :=
  match c.myList.getLast? with
  | some e =>
    { c with
      map := Function.update c.map e.2.key none
      deallocated := c.deallocated + 1
      myList := c.myList.dropLast }
  | none => c

/-- `push` -/
def push [DecidableEq K] (c : LruCache K V) (key : K) (value : V) : LruCache K V :=
  match c.map key with
  | some it =>
    { c with myList := (splice it c.myList).modifyHead fun e => (e.1, { e.2 with value }) }
  | none =>
    let c := if c.full then c.evict else c
    { c with
      allocated := c.allocated + 1
      myList := (c.allocated, { key, value }) :: c.myList
      map := Function.update c.map key (some c.allocated) }

/-- `get`; `default` is `U{}`. -/
def get [Inhabited V] (c : LruCache K V) (key : K) : (Bool × V) × LruCache K V :=
  match c.map key with
  | none => ((false, default), c)
  | some it =>
    let l := splice it c.myList
    ((true, (l.head?.map (·.2.value)).getD default), { c with myList := l })

end LruCache

/-- `JwtCache`: its `m_cache`, from tokens to expiry times. -/
abbrev JwtCache := LruCache Bytes ℤ

namespace JwtCache

/-- The capacity a cache is created with, and gets back when it is cleared. -/
def defaultCapacity : Capacity := ⟨10000, .inr (by decide)⟩

/-- `JwtCache()` -/
def init : JwtCache := LruCache.init defaultCapacity

/-- `is_valid_cached` -/
def isValidCached (c : JwtCache) (token : Bytes) (nowSec : ℤ) : Bool × JwtCache :=
  let p := c.get token
  if p.1.1 then (p.1.2 > nowSec, p.2) else (false, p.2)

/-- `put_valid` -/
def putValid (c : JwtCache) (token : Bytes) (expSec : ℤ) : JwtCache := c.push token expSec

/-- `clear` -/
def clear (c : JwtCache) : JwtCache := c.assign defaultCapacity

/-- `set_capacity` -/
def setCapacity (c : JwtCache) (cap : Capacity) : JwtCache := c.assign cap

end JwtCache

end CoroutineGateway
