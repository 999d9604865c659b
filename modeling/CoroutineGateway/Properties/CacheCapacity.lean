import CoroutineGateway.Framework.Machine
import CoroutineGateway.Properties.FailedLoad
import CoroutineGateway.Properties.JwtCacheTransparency
import CoroutineGateway.Properties.LruHistory

/-!
# The capacity of the cache after a load

A `jwt_cache_capacity` line calls `set_capacity` while the file is being read.  At the end of a
load that succeeds `clear` builds the cache anew, with the capacity `10000` it is created with, so
that the line is without effect.

`capacityTakesEffect_iff` says of any empty cache which bound its uses keep to: the one in
its own `capacity` and no other, since it can be filled.  With it
`capacityTakesEffect_of_load_iff` says when a file gets the capacity it asks for.
-/

namespace CoroutineGateway

namespace JwtCache

/-- A call that uses the cache. -/
inductive Use where
  | putValid (token : Bytes) (expSec : ℤ)
  | isValidCached (token : Bytes) (nowSec : ℤ)

/-- The cache after a call. -/
def use (c : JwtCache) : Use → JwtCache
  | .putValid token expSec => c.putValid token expSec
  | .isValidCached token nowSec => (c.isValidCached token nowSec).2

/-- The cache, used. -/
def useMachine : Machine JwtCache Use := ⟨fun c u => some (c.use u)⟩

/-- The tokens in the cache. -/
def tokens (c : JwtCache) : List Bytes := c.bindings.map Prod.fst

/-- A call after which a token is no longer there. -/
def Evicts (c : JwtCache) (u : Use) : Prop := ∃ token ∈ c.tokens, token ∉ (c.use u).tokens

/-- At most `v` entries, and evictions at `v` only. -/
structure BoundedBy (v : ℤ) (c : JwtCache) : Prop where
  length_le : (c.myList.length : ℤ) ≤ v
  length_of_evicts : ∀ u, c.Evicts u → (c.myList.length : ℤ) = v

/-- The cache is bounded by `v` whatever it is used for. -/
def CapacityTakesEffect (v : ℤ) (c : JwtCache) : Prop :=
  ∀ uses, useMachine.Throughout (BoundedBy v) c uses

/-- A sound cache with room for `n` entries. -/
structure Roomy (n : ℕ) (c : JwtCache) : Prop where
  sound : c.Sound
  bound : c.bound = some n
  length_le : c.bindings.length ≤ n

variable {c c' : JwtCache} {n : ℕ} {v : ℤ} {u : Use} {token : Bytes} {exp : ℤ}

lemma length_myList (c : JwtCache) : c.myList.length = c.bindings.length :=
  (List.length_map _).symm

lemma bindings_putValid (hc : c.Sound) (token : Bytes) (exp : ℤ) :
    (c.putValid token exp).bindings = RecencyList.put c.bound token exp c.bindings :=
  hc.bindings_push token exp

lemma tokens_isValidCached (hc : c.Sound) (token : Bytes) (now : ℤ) :
    ((c.isValidCached token now).2.tokens).Perm c.tokens := by
  rw [isValidCached_snd, tokens, hc.bindings_get]
  exact RecencyList.perm_touch token c.bindings

/-! ## A use of the cache -/

lemma bound_use (c : JwtCache) (u : Use) : (c.use u).bound = c.bound := by
  have hcapacity : (c.use u).capacity = c.capacity := by
    cases u with
    | putValid token exp => exact c.capacity_push token exp
    | isValidCached token now =>
      show (c.isValidCached token now).2.capacity = c.capacity
      rw [isValidCached_snd, c.capacity_get]
  rw [LruCache.bound, hcapacity, LruCache.bound]

lemma sound_use (hc : c.Sound) (u : Use) : (c.use u).Sound := by
  cases u with
  | putValid token exp => exact hc.push token exp
  | isValidCached token now =>
    show (c.isValidCached token now).2.Sound
    rw [isValidCached_snd]
    exact hc.get token

/-- There is room for at least one entry. -/
lemma Roomy.pos (hc : c.Roomy n) : 1 ≤ n := by
  obtain ⟨hno, heq⟩ := LruCache.mem_bound_iff.mp hc.bound
  have hcap := c.capacity.2
  omega

/-- A use keeps to the room. -/
lemma Roomy.use (hc : c.Roomy n) (u : Use) : (c.use u).Roomy n := by
  refine ⟨sound_use hc.sound u, (bound_use c u).trans hc.bound, ?_⟩
  cases u with
  | putValid token exp =>
    show (c.putValid token exp).bindings.length ≤ n
    rw [bindings_putValid hc.sound, hc.bound]
    exact RecencyList.length_put_le hc.pos hc.length_le token exp
  | isValidCached token now =>
    have hperm := (tokens_isValidCached hc.sound token now).length_eq
    rw [tokens, tokens, List.length_map, List.length_map] at hperm
    exact hperm.trans_le hc.length_le

/-- A use evicts only when there is no room left. -/
lemma Roomy.length_of_evicts (hc : c.Roomy n) (h : c.Evicts u) : c.bindings.length = n := by
  obtain ⟨token, hmem, hgone⟩ := h
  refine le_antisymm hc.length_le ?_
  cases u with
  | putValid token' exp =>
    have hput : token ∉ (RecencyList.put (some n) token' exp c.bindings).map Prod.fst := by
      rw [← hc.bound, ← bindings_putValid hc.sound]
      exact hgone
    exact RecencyList.le_length_of_put_drops hmem hput
  | isValidCached token' now =>
    exact absurd ((tokens_isValidCached hc.sound token' now).mem_iff.mpr hmem) hgone

/-! ## Filling the cache -/

/-- The `i`-th of infinitely many tokens. -/
def nthToken (i : ℕ) : Bytes := List.replicate i 0

/-- The first `i` of them can be put, one after the other. -/
lemma Roomy.exists_filled (hc : c.Roomy n) (hempty : c.bindings = []) {i : ℕ} (hi : i ≤ n) :
    ∃ uses c', useMachine.run c uses = some c' ∧ c'.Roomy n ∧ c'.bindings.length = i ∧
      ∀ b ∈ c'.bindings, b.1.length < i := by
  induction i with
  | zero => exact ⟨[], c, rfl, hc, by rw [hempty, List.length_nil], by simp [hempty]⟩
  | succ i ih =>
    obtain ⟨uses, c', hrun, hroomy, hlen, htokens⟩ := ih (by omega)
    have hlook : RecencyList.lookup (nthToken i) c'.bindings = none := by
      refine RecencyList.lookup_eq_none_iff.mpr fun b hb heq => ?_
      have hlt := htokens b hb
      rw [heq, nthToken, List.length_replicate] at hlt
      exact lt_irrefl i hlt
    have hput : (c'.putValid (nthToken i) 0).bindings = (nthToken i, 0) :: c'.bindings := by
      rw [bindings_putValid hroomy.sound, hroomy.bound, RecencyList.put_of_fresh hlook,
        RecencyList.makeRoom_of_lt (by omega)]
    refine ⟨uses ++ [.putValid (nthToken i) 0], c'.putValid (nthToken i) 0,
      useMachine.run_append hrun rfl, hroomy.use (.putValid (nthToken i) 0), ?_, fun b hb => ?_⟩
    · rw [hput, List.length_cons, hlen]
    · rw [hput] at hb
      rcases List.mem_cons.mp hb with rfl | hb
      · simp [nthToken]
      · exact Nat.lt_succ_of_lt (htokens b hb)

/-- In a full cache the next token takes the place of another one. -/
lemma Roomy.exists_evicts (hc : c.Roomy n) (hlen : c.bindings.length = n)
    (htokens : ∀ b ∈ c.bindings, b.1.length < n) : ∃ u, c.Evicts u := by
  have hfresh : ∀ b ∈ c.bindings, b.1 ≠ nthToken n := by
    intro b hb heq
    have hlt := htokens b hb
    rw [heq, nthToken, List.length_replicate] at hlt
    exact lt_irrefl n hlt
  obtain ⟨token, hmem, hgone⟩ := RecencyList.exists_dropped_of_put hc.sound.keyed hc.pos hlen.ge
    hfresh (0 : ℤ)
  refine ⟨.putValid (nthToken n) 0, token, hmem, ?_⟩
  show token ∉ ((c.putValid (nthToken n) 0).bindings).map Prod.fst
  rwa [bindings_putValid hc.sound, hc.bound]

/-- An empty cache keeps to its own capacity and to no other bound. -/
theorem capacityTakesEffect_iff (hc : c.Roomy n) (hempty : c.bindings = []) :
    CapacityTakesEffect v c ↔ v = n := by
  constructor
  · intro h
    obtain ⟨uses, c', hrun, hroomy, hlen, htokens⟩ := hc.exists_filled hempty le_rfl
    obtain ⟨u, hevicts⟩ := hroomy.exists_evicts hlen htokens
    have heq := ((h uses).last hrun).length_of_evicts u hevicts
    rw [length_myList, hlen] at heq
    exact heq.symm
  · rintro rfl uses
    have hbounded : ∀ c' : JwtCache, c'.Roomy n → BoundedBy n c' := fun c' hroomy =>
      { length_le := by exact_mod_cast (length_myList c').le.trans hroomy.length_le
        length_of_evicts := fun u hevicts => by
          rw [length_myList, hroomy.length_of_evicts hevicts] }
    refine Machine.throughout_of_guarded (fun d u d' hroomy _ hstep => ?_) hbounded hc
      (Machine.guarded_true c uses)
    obtain rfl : d.use u = d' := Option.some.inj hstep
    exact hroomy.use u

/-- A cache that was just cleared. -/
lemma roomy_clear (c : JwtCache) : c.clear.Roomy 10000 where
  sound := LruCache.sound_assign defaultCapacity
  bound := by simp [LruCache.bound, clear, LruCache.assign, defaultCapacity]
  length_le := Nat.zero_le _

end JwtCache

namespace GatewayConfig

variable {A : Type*}

/-- **The configured capacity** takes effect exactly if it is the one the cache is created with. -/
theorem capacityTakesEffect_of_load_iff (cfg : GatewayConfig A) (cache : JwtCache)
    (lookup : Bytes → Option A) (path text : Bytes)
    (hload : (cfg.loadFromFile cache lookup path (some text)).1 = true) :
    ∀ cap ∈ (capacities text).getLast?,
      (JwtCache.CapacityTakesEffect cap.1 (cfg.loadFromFile cache lookup path (some text)).2.2 ↔
        cap.1 = 10000) := by
  have husable : usable (fileLines text) = true := by
    by_contra hnot
    rw [loadFromFile_eq, if_neg hnot] at hload
    cases hload
  have hcache : (cfg.loadFromFile cache lookup path (some text)).2.2 =
      (cfg.readFile cache text).cache.clear := by
    rw [loadFromFile_eq, if_pos husable]
    rfl
  intro cap _
  rw [hcache]
  exact JwtCache.capacityTakesEffect_iff (JwtCache.roomy_clear _) rfl

/-- A file that asks for room for 10000 tokens. -/
def defaultCapacityFile : Bytes := ascii "route / 10.0.0.1:80\njwt_cache_capacity 10000\n"

/-- It gets it. -/
theorem defaultCapacityFile_takesEffect :
    JwtCache.CapacityTakesEffect 10000 ((init : GatewayConfig Bytes).loadFromFile JwtCache.init some
      (ascii "gateway.conf") (some defaultCapacityFile)).2.2 := by
  have hload : ((init : GatewayConfig Bytes).loadFromFile JwtCache.init some (ascii "gateway.conf")
      (some defaultCapacityFile)).1 = true := by decide +kernel
  have hlast : (capacities defaultCapacityFile).getLast? = some ⟨10000, .inr (by decide)⟩ := by
    decide +kernel
  exact (capacityTakesEffect_of_load_iff _ _ _ _ _ hload _ hlast).mpr rfl

/-- A file that asks for room for two tokens. -/
def twoTokensFile : Bytes := ascii "route / 10.0.0.1:80\njwt_cache_capacity 2\n"

/-- The file is loaded, and the cache takes three. -/
theorem twoTokensFile_overfilled :
    ((init : GatewayConfig Bytes).loadFromFile JwtCache.init some (ascii "gateway.conf")
        (some twoTokensFile)).1 = true ∧
      (capacities twoTokensFile).getLast? = some ⟨2, .inr (by decide)⟩ ∧
      ¬ JwtCache.CapacityTakesEffect 2 ((init : GatewayConfig Bytes).loadFromFile JwtCache.init some
        (ascii "gateway.conf") (some twoTokensFile)).2.2 := by
  refine ⟨by decide +kernel, by decide +kernel, fun h => ?_⟩
  have hthree := (h [.putValid (ascii "a") 100, .putValid (ascii "b") 100,
    .putValid (ascii "c") 100]).last rfl
  exact absurd hthree.length_le (by decide +kernel)

end GatewayConfig

end CoroutineGateway
