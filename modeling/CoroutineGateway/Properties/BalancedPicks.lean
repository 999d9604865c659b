import CoroutineGateway.Framework.RoundRobin
import CoroutineGateway.Properties.Reload

/-!
# How evenly the router picks

`pick_upstream` numbers its picks with one counter for all routes and takes the target at that
number modulo the count of the route's targets.  A route that is called without interruption gets
its targets in turn.  Calls for other routes in between take numbers away, and if they always take
the same ones, so does the route: `alternating_unbalanced` has two routes called in turn, each
always at the same one of its two targets.

`balanced_of_load` is what remains: two targets of a route differ by at most one pick for every
stretch of calls for that route that no call for another route interrupts.
-/

namespace CoroutineGateway

namespace GatewayConfig

variable {A : Type*} {cfg cfg' : GatewayConfig A} {cache cache' : JwtCache}
  {lookup : Bytes → Option A} {path text : Bytes} {index : ℕ} {paths : List Bytes}

/-- The route of a path, and the position in its list of the target that `pick_upstream` picks. -/
def picked (cfg : GatewayConfig A) (index : ℕ) (path : Bytes) : Option (ℕ × ℕ) :=
  (cfg.matchRoute path).bind fun r =>
    (cfg.routes[r]?).map fun rc => (r, index % rc.targets.length)

/-- The picks of a sequence of calls. -/
def picks (cfg : GatewayConfig A) (lookup : Bytes → Option A) :
    ℕ → List Bytes → List (Option (ℕ × ℕ))
  | _, [] => []
  | index, path :: paths =>
    cfg.picked index path :: picks cfg lookup (cfg.pickUpstream lookup index path).2 paths

/-- The addresses that a sequence of calls returns. -/
def upstreams (cfg : GatewayConfig A) (lookup : Bytes → Option A) : ℕ → List Bytes → List (Option A)
  | _, [] => []
  | index, path :: paths =>
    (cfg.pickUpstream lookup index path).1 ::
      upstreams cfg lookup (cfg.pickUpstream lookup index path).2 paths

/-- The address of the target at a position. -/
def targetAddress (cfg : GatewayConfig A) (lookup : Bytes → Option A) (pick : ℕ × ℕ) : Option A :=
  (cfg.routes[pick.1]?).bind fun rc => (rc.targets[pick.2]?).bind lookup

/-- Two targets of a route differ by at most `slack r` picks. -/
def BalancedUpTo (cfg : GatewayConfig A) (lookup : Bytes → Option A) (index : ℕ)
    (paths : List Bytes) (slack : ℕ → ℕ) : Prop :=
  ∀ r rc, cfg.routes[r]? = some rc → ∀ i < rc.targets.length, ∀ j < rc.targets.length,
    (cfg.picks lookup index paths).count (some (r, i)) ≤
      (cfg.picks lookup index paths).count (some (r, j)) + slack r

/-! ## A loaded configuration -/

/-- What `pick_upstream` relies on: the pointers lead into `m_routes`, and every route has targets,
all of them resolved. -/
structure Resolved (cfg : GatewayConfig A) (lookup : Bytes → Option A) : Prop where
  routes : ∀ path r, cfg.matchRoute path = some r → ∃ rc, cfg.routes[r]? = some rc
  targets : ∀ rc ∈ cfg.routes, rc.targets ≠ []
  resolved : ∀ rc ∈ cfg.routes, rc.resolvedTargets.map some = rc.targets.map lookup

lemma filterMap_eq_of_isSome {l : List Bytes} (h : ∀ t ∈ l, lookup t ≠ none) :
    (l.filterMap lookup).map some = l.map lookup := by
  induction l with
  | nil => rfl
  | cons t l ih =>
    obtain ⟨a, ha⟩ := Option.ne_none_iff_exists'.mp (h t List.mem_cons_self)
    rw [List.filterMap_cons_some ha, List.map_cons, List.map_cons,
      ih fun t ht => h t (List.mem_cons_of_mem _ ht), ha]

/-- A load whose targets all resolve. -/
lemma resolved_of_load
    (hload : cfg.loadFromFile cache lookup path (some text) = (true, cfg', cache'))
    (hresolve : ∀ rc ∈ cfg'.routes, ∀ t ∈ rc.targets, lookup t ≠ none) : cfg'.Resolved lookup := by
  rw [loadFromFile_eq] at hload
  split_ifs at hload
  · obtain rfl : (cfg.commit lookup path (cfg.readFile cache text)).1 = cfg' :=
      congrArg (fun r => r.2.1) hload
    refine ⟨fun _ _ => exists_route_commit, fun rc hrc => (of_mem_routes_commit hrc).2.1,
      fun rc hrc => ?_⟩
    have hitems := hresolve rc hrc
    obtain ⟨rc₀, -, rfl⟩ := List.mem_map.mp hrc
    exact filterMap_eq_of_isSome hitems
  · cases (Prod.mk.inj hload).1

/-! ## One call -/

/-- A call takes the next number, and returns the address at the position it picks. -/
lemma Resolved.pickUpstream_of_some (h : cfg.Resolved lookup) {r : ℕ} {rc : RouteConfig A}
    (hr : cfg.matchRoute path = some r) (hrc : cfg.routes[r]? = some rc) (index : ℕ) :
    cfg.pickUpstream lookup index path =
      (cfg.targetAddress lookup (r, index % rc.targets.length), (index + 1) % 2 ^ 64) := by
  have hmem : rc ∈ cfg.routes := List.mem_of_getElem? hrc
  have hroute : cfg.routeOf path = some rc := by rw [routeOf, hr, Option.bind_some, hrc]
  have hresolved := h.resolved rc hmem
  have hlen : rc.resolvedTargets.length = rc.targets.length := by
    simpa using congrArg List.length hresolved
  have hne : rc.resolvedTargets ≠ [] := by
    rw [← List.length_pos_iff, hlen, List.length_pos_iff]
    exact h.targets rc hmem
  have hat : rc.resolvedTargets[index % rc.targets.length]? =
      (rc.targets[index % rc.targets.length]?).bind lookup := by
    have hget := congrArg (·[index % rc.targets.length]?) hresolved
    simp only [List.getElem?_map] at hget
    cases hres : rc.resolvedTargets[index % rc.targets.length]? <;>
      cases htar : rc.targets[index % rc.targets.length]? <;> simp_all
  simp only [pickUpstream, hroute, hne, h.targets rc hmem, false_and, if_false, ne_eq,
    not_false_eq_true, if_true, hlen, hat, targetAddress, hrc, Option.bind_some]

lemma pickUpstream_of_none (hr : cfg.matchRoute path = none) (index : ℕ) :
    cfg.pickUpstream lookup index path = (none, index) := by
  rw [pickUpstream, routeOf, hr]
  rfl

/-! ## A sequence of calls -/

/-- The addresses returned are those of the picks. -/
theorem Resolved.upstreams_eq (h : cfg.Resolved lookup) (index : ℕ) (paths : List Bytes) :
    cfg.upstreams lookup index paths =
      (cfg.picks lookup index paths).map (·.bind (cfg.targetAddress lookup)) := by
  induction paths generalizing index with
  | nil => rfl
  | cons path paths ih =>
    rw [upstreams, picks, List.map_cons, ih]
    cases hr : cfg.matchRoute path with
    | none => simp [pickUpstream_of_none hr, picked, hr]
    | some r =>
      obtain ⟨rc, hrc⟩ := h.routes path r hr
      simp [h.pickUpstream_of_some hr hrc, picked, hr, hrc]

/-- The picks of a target are its turns in the round robin of the routes. -/
lemma Resolved.count_picks (h : cfg.Resolved lookup) {r i : ℕ} {rc : RouteConfig A}
    (hrc : cfg.routes[r]? = some rc) (hfew : index + paths.length < 2 ^ 64) :
    (cfg.picks lookup index paths).count (some (r, i)) =
      RoundRobin.taken r rc.targets.length i index (paths.filterMap cfg.matchRoute) := by
  induction paths generalizing index with
  | nil => rfl
  | cons path paths ih =>
    rw [List.length_cons] at hfew
    cases hr : cfg.matchRoute path with
    | none =>
      have hpicked : cfg.picked index path = none := by simp [picked, hr]
      rw [picks, pickUpstream_of_none hr, List.filterMap_cons_none hr, hpicked,
        List.count_cons_of_ne (by simp), ih (by omega)]
    | some r' =>
      obtain ⟨rc', hrc'⟩ := h.routes path r' hr
      have hpicked : cfg.picked index path = some (r', index % rc'.targets.length) := by
        simp [picked, hr, hrc']
      have hnext : (index + 1) % 2 ^ 64 = index + 1 := Nat.mod_eq_of_lt (by omega)
      rw [picks, h.pickUpstream_of_some hr hrc', List.filterMap_cons_some hr, hpicked]
      simp only [hnext]
      by_cases hrr : r' = r
      · subst hrr
        obtain rfl : rc' = rc := Option.some.inj (hrc'.symm.trans hrc)
        rw [List.count_cons, ih (by omega), RoundRobin.taken_cons_self, RoundRobin.turn,
          Nat.add_comm]
        simp
      · rw [List.count_cons_of_ne (by simp [hrr]), ih (by omega), RoundRobin.taken_cons_of_ne hrr]

/-- **Balance.**  After a load whose targets all resolve, two targets of a route differ by at most
one pick for every stretch of calls for it that no call for another route interrupts. -/
theorem balanced_of_load
    (hload : cfg.loadFromFile cache lookup path (some text) = (true, cfg', cache'))
    (hresolve : ∀ rc ∈ cfg'.routes, ∀ t ∈ rc.targets, lookup t ≠ none)
    (hfew : index + paths.length < 2 ^ 64) :
    cfg'.upstreams lookup index paths =
        (cfg'.picks lookup index paths).map (·.bind (cfg'.targetAddress lookup)) ∧
      cfg'.BalancedUpTo lookup index paths
        (RoundRobin.stretches · (paths.filterMap cfg'.matchRoute)) := by
  have h := resolved_of_load hload hresolve
  refine ⟨h.upstreams_eq index paths, fun r rc hrc i hi j hj => ?_⟩
  rw [h.count_picks hrc hfew, h.count_picks hrc hfew]
  exact RoundRobin.taken_le hi hj r index _

/-- Two routes with two targets each. -/
def twoRoutes : Bytes :=
  ascii "route / 10.0.0.1:80,10.0.0.2:80\nroute /x 10.0.0.3:80,10.0.0.4:80\n"

/-- The configuration after loading them. -/
def twoRoutesLoad : Bool × GatewayConfig Bytes × JwtCache :=
  init.loadFromFile .init some (ascii "gateway.conf") (some twoRoutes)

lemma twoRoutesLoad_eq : twoRoutesLoad = (true, twoRoutesLoad.2.1, twoRoutesLoad.2.2) :=
  Prod.ext (by decide +kernel) rfl

theorem balanced_twoRoutes :
    RoundRobin.stretches 1 ([ascii "/x", ascii "/x", ascii "/"].filterMap
      twoRoutesLoad.2.1.matchRoute) = 1 ∧
    twoRoutesLoad.2.1.upstreams some 0 [ascii "/x", ascii "/x", ascii "/"] =
        (twoRoutesLoad.2.1.picks some 0 [ascii "/x", ascii "/x", ascii "/"]).map
          (·.bind (twoRoutesLoad.2.1.targetAddress some)) ∧
      twoRoutesLoad.2.1.BalancedUpTo some 0 [ascii "/x", ascii "/x", ascii "/"]
        (RoundRobin.stretches · ([ascii "/x", ascii "/x", ascii "/"].filterMap
          twoRoutesLoad.2.1.matchRoute)) :=
  ⟨by decide +kernel, balanced_of_load twoRoutesLoad_eq (fun _ _ _ _ => Option.some_ne_none _)
    (by decide)⟩

/-- Called in turn, two routes with two targets are each sent to the same target always. -/
theorem alternating_unbalanced :
    ¬ ∀ (cfg cfg' : GatewayConfig Bytes) (cache cache' : JwtCache) (lookup : Bytes → Option Bytes)
      (path text : Bytes) (paths : List Bytes),
      cfg.loadFromFile cache lookup path (some text) = (true, cfg', cache') →
      (∀ rc ∈ cfg'.routes, ∀ t ∈ rc.targets, lookup t ≠ none) → paths.length < 2 ^ 64 →
      cfg'.BalancedUpTo lookup 0 paths fun _ => 1 := by
  intro hall
  have h := hall _ _ _ _ _ _ _ [ascii "/x", ascii "/", ascii "/x"] twoRoutesLoad_eq
    (fun _ _ _ _ => Option.some_ne_none _) (by decide)
  have hroute : ∃ rc, twoRoutesLoad.2.1.routes[1]? = some rc ∧ rc.targets.length = 2 := by
    decide +kernel
  obtain ⟨rc, hrc, hlen⟩ := hroute
  have hle := h 1 rc hrc 0 (by omega) 1 (by omega)
  have hpicked : (twoRoutesLoad.2.1.picks some 0 [ascii "/x", ascii "/", ascii "/x"]) =
      [some (1, 0), some (0, 1), some (1, 0)] := by
    decide +kernel
  rw [hpicked] at hle
  exact absurd hle (by decide)

end GatewayConfig

end CoroutineGateway
