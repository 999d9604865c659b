import CoroutineGateway.Properties.ConfigFile

/-!
# Loads that fail

`load_from_file` works on local variables and commits them at its end, so that a file it rejects
changes no setting and no route.  The cache of verified tokens is the exception: a
`jwt_cache_capacity` line goes straight to the singleton, before anything is known about the rest
of the file.

`failedLoad_unchanged_iff` says exactly when a load that fails changes nothing, and
`capacityLine_empties_cache` shows one that empties the cache.
-/

namespace CoroutineGateway

namespace GatewayConfig

variable {A : Type*} {cfg cfg' : GatewayConfig A} {cache cache' : JwtCache}

/-- The settings, the routes and the blacklist are the same, and so are the entries of the cache,
their order and its capacity. -/
structure Unchanged (cfg : GatewayConfig A) (cache : JwtCache) (cfg' : GatewayConfig A)
    (cache' : JwtCache) : Prop where
  config : cfg' = cfg
  myList : cache'.myList = cache.myList
  map : cache'.map = cache.map
  capacity : cache'.capacity = cache.capacity

/-- The capacities the `jwt_cache_capacity` lines of a file give. -/
def capacities (text : Bytes) : List Capacity :=
  (argsOf .jwtCacheCapacity (fileLines text)).filterMap parseCapacity

/-- The file cannot be read, or has a default route, or no `jwt_cache_capacity` line with a
positive number, or the cache is empty already and the last such line gives the capacity it
has. -/
def LeavesCache (cache : JwtCache) (file : Option Bytes) : Prop :=
  ∀ text ∈ file, usable (fileLines text) = true ∨ capacities text = [] ∨
    (cache.myList = [] ∧ cache.map = fun _ => none) ∧
      (capacities text).getLast? = some cache.capacity

lemma cache_readFile (text : Bytes) : (cfg.readFile cache text).cache =
    (capacities text).getLast?.elim cache cache.setCapacity := rfl

lemma unchanged_refl : Unchanged cfg cache cfg cache := ⟨rfl, rfl, rfl, rfl⟩

/-- A new capacity changes nothing exactly when the cache is empty and has it already. -/
lemma unchanged_setCapacity_iff (cap : Capacity) :
    Unchanged cfg cache cfg (cache.setCapacity cap) ↔
      (cache.myList = [] ∧ cache.map = fun _ => none) ∧ cap = cache.capacity := by
  constructor
  · rintro ⟨-, hlist, hmap, hcap⟩
    exact ⟨⟨hlist.symm, hmap.symm⟩, hcap⟩
  · rintro ⟨⟨hlist, hmap⟩, hcap⟩
    exact ⟨rfl, hlist.symm, hmap.symm, hcap⟩

/-- What the lines of a file do to the cache. -/
lemma unchanged_readFile_iff (text : Bytes) :
    Unchanged cfg cache cfg (cfg.readFile cache text).cache ↔ capacities text = [] ∨
      (cache.myList = [] ∧ cache.map = fun _ => none) ∧
        (capacities text).getLast? = some cache.capacity := by
  rw [cache_readFile]
  cases hlast : (capacities text).getLast? with
  | none =>
    have hnil : capacities text = [] := List.getLast?_eq_none_iff.mp hlast
    simp [hnil, unchanged_refl]
  | some cap =>
    have hne : capacities text ≠ [] := by
      rintro hnil
      simp [hnil] at hlast
    rw [Option.elim_some, unchanged_setCapacity_iff]
    simp [hne]

/-- **Failed loads.**  A load that fails changes nothing, for all that the file holds, exactly when
the file leaves the cache alone. -/
theorem failedLoad_unchanged_iff (cfg : GatewayConfig A) (cache : JwtCache)
    (lookup : Bytes → Option A) (path : Bytes) (file : Option Bytes) :
    ((cfg.loadFromFile cache lookup path file).1 = false →
        Unchanged cfg cache (cfg.loadFromFile cache lookup path file).2.1
          (cfg.loadFromFile cache lookup path file).2.2) ↔
      LeavesCache cache file := by
  cases file with
  | none => simp [loadFromFile, unchanged_refl, LeavesCache]
  | some text =>
    rw [loadFromFile_eq]
    by_cases husable : usable (fileLines text) = true
    · simp [husable, LeavesCache]
    · simp only [husable, if_false, Bool.false_eq_true, forall_const, unchanged_readFile_iff,
        LeavesCache, Option.mem_some_iff, forall_eq', false_or]

/-- A cache that holds one token. -/
def oneToken : JwtCache := JwtCache.init.putValid (ascii "token") 100

/-- A file that sets the capacity of the cache and has no default route. -/
def noDefaultRoute : Bytes := ascii "jwt_cache_capacity 500\nroute /api 10.0.0.1:80\n"

/-- The file is rejected, and the token is gone all the same. -/
theorem capacityLine_empties_cache :
    ¬ ∀ (cfg : GatewayConfig Bytes) (cache : JwtCache) (lookup : Bytes → Option Bytes)
      (path : Bytes) (file : Option Bytes), (cfg.loadFromFile cache lookup path file).1 = false →
        Unchanged cfg cache (cfg.loadFromFile cache lookup path file).2.1
          (cfg.loadFromFile cache lookup path file).2.2 := by
  intro hall
  have hfails : ((init : GatewayConfig Bytes).loadFromFile oneToken some (ascii "gateway.conf")
      (some noDefaultRoute)).1 = false := by decide +kernel
  have hlist := (hall _ _ _ _ _ hfails).myList
  exact absurd (congrArg List.length hlist) (by decide +kernel)

end GatewayConfig

end CoroutineGateway
