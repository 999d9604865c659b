import CoroutineGateway.Construction.GatewayConfig
import CoroutineGateway.Framework.PrefixTable

/-!
# Routing

The trie and the exact map that `build_trie` fills are two tables over `m_routes`, and
`match_route` is a lookup in the one and a longest-prefix lookup in the other:

* `TrieNode.routeAt` is the table a trie stands for; `routeAt_insert` and `longest_eq` are all
  that is used of the trie afterwards;
* `matchRoute_buildTrie` and `routeOf_buildTrie` compute the answer from the list of routes alone;
* `matchRoute_buildTrie_iff` compares it with the rule the configuration is written by: the last
  exact route for the path, else the last of the longest prefixes.
-/

namespace CoroutineGateway

open PrefixTable (lastIdx)

/-! ## Tries as tables -/

namespace TrieNode

/-- The route stored at a path below the node. -/
def routeAt : TrieNode → Bytes → Option ℕ
  | t, [] => t.route
  | t, c :: path => (t.children c).routeAt path

lemma routeAt_null (path : Bytes) : null.routeAt path = none := by
  induction path with
  | nil => rfl
  | cons c path ih => exact ih

/-- Inserting a route changes the table at its prefix. -/
lemma routeAt_insert (r : ℕ) (p q : Bytes) (t : TrieNode) :
    (insert r p t).routeAt q = if p = q then some r else t.routeAt q := by
  induction p generalizing t q with
  | nil => cases q <;> simp [insert, routeAt, route, children]
  | cons c p ih =>
    cases q with
    | nil => simp [insert, routeAt, route]
    | cons d q =>
      by_cases hd : d = c
      · subst hd
        simp [insert, routeAt, children, ih]
      · simp [insert, routeAt, children, hd, Ne.symm hd]

/-- The loop of `match_route` looks for the longest prefix. -/
lemma longest_eq (path : Bytes) (t : TrieNode) (best : Option ℕ) :
    longest path t best = (PrefixTable.longest t.routeAt path <|> best) := by
  induction path generalizing t best with
  | nil => rfl
  | cons c path ih =>
    have hbelow : (fun p => t.routeAt (c :: p)) = (t.children c).routeAt := rfl
    have hone : t.routeAt [c] = (t.children c).route := rfl
    rw [longest, PrefixTable.longest, hbelow, hone]
    cases t.children c with
    | null =>
      have hnone : PrefixTable.longest null.routeAt path = none :=
        PrefixTable.longest_eq_none_iff.mpr fun p _ _ => routeAt_null p
      simp [hnone, route]
    | node r children =>
      simp only [ih, route]
      cases PrefixTable.longest (node r children).routeAt path <;> cases r <;> rfl

end TrieNode

/-! ## The rule -/

namespace RouteConfig

variable {A : Type*}

/-- An exact route for the path. -/
def exactAt (path : Bytes) (r : RouteConfig A) : Bool := r.exact && r.pathPrefix = path

/-- A route for the paths with the prefix `p`. -/
def prefixAt (p : Bytes) (r : RouteConfig A) : Bool := !r.exact && r.pathPrefix = p

/-- A route for paths with a prefix that the path has. -/
def Applies (path : Bytes) (r : RouteConfig A) : Prop :=
  r.exact = false ∧ r.pathPrefix <+: path

/-- Of the routes that apply, one with the longest prefix. -/
def Longest (routes : List (RouteConfig A)) (path : Bytes) (r : RouteConfig A) : Prop :=
  r.Applies path ∧ ∀ q ∈ routes, q.Applies path → q.pathPrefix.length ≤ r.pathPrefix.length

/-- The route at a position is the last of the routes with a property. -/
def LastWith (P : RouteConfig A → Prop) (routes : List (RouteConfig A)) (i : ℕ) : Prop :=
  (∃ r, routes[i]? = some r ∧ P r) ∧ ∀ j r, i < j → routes[j]? = some r → ¬ P r

/-- What a table of routes means for a path. -/
inductive Routed (routes : List (RouteConfig A)) (path : Bytes) : Option ℕ → Prop where
  /-- The last exact route for the path. -/
  | exact {i : ℕ} (h : LastWith (fun r => r.exact = true ∧ r.pathPrefix = path) routes i) :
      Routed routes path (some i)
  /-- Without one, the last of the routes with the longest prefix. -/
  | longest {i : ℕ} (hexact : ∀ r ∈ routes, ¬ (r.exact = true ∧ r.pathPrefix = path))
      (h : LastWith (Longest routes path) routes i) : Routed routes path (some i)
  /-- No route at all. -/
  | none (hexact : ∀ r ∈ routes, ¬ (r.exact = true ∧ r.pathPrefix = path))
      (h : ∀ r ∈ routes, ¬ r.Applies path) : Routed routes path none

variable {routes : List (RouteConfig A)} {path : Bytes} {r q : RouteConfig A} {o o' : Option ℕ}

lemma exactAt_iff : r.exactAt path = true ↔ r.exact = true ∧ r.pathPrefix = path := by
  simp [exactAt]

lemma prefixAt_iff : r.prefixAt path = true ↔ r.exact = false ∧ r.pathPrefix = path := by
  simp [prefixAt]

lemma LastWith.mem {P : RouteConfig A → Prop} {i : ℕ} (h : LastWith P routes i) :
    ∃ r ∈ routes, P r := by
  obtain ⟨⟨r, hr, hP⟩, -⟩ := h
  exact ⟨r, List.mem_of_getElem? hr, hP⟩

lemma LastWith.unique {P : RouteConfig A → Prop} {i j : ℕ} (h : LastWith P routes i)
    (h' : LastWith P routes j) : i = j := by
  obtain ⟨⟨r, hr, hP⟩, hlast⟩ := h
  obtain ⟨⟨r', hr', hP'⟩, hlast'⟩ := h'
  rcases Nat.lt_trichotomy i j with hlt | heq | hlt
  · exact absurd hP' (hlast j r' hlt hr')
  · exact heq
  · exact absurd hP (hlast' i r hlt hr)

/-- The rule determines the route. -/
theorem Routed.unique (h : Routed routes path o) (h' : Routed routes path o') : o = o' := by
  cases h with
  | exact h =>
    obtain ⟨r, hr, hexact⟩ := h.mem
    cases h' with
    | exact h' => rw [h.unique h']
    | longest hnone | none hnone => exact absurd hexact (hnone r hr)
  | longest hnone h =>
    obtain ⟨r, hr, hlong⟩ := h.mem
    cases h' with
    | exact h' =>
      obtain ⟨q, hq, hexact⟩ := h'.mem
      exact absurd hexact (hnone q hq)
    | longest _ h' => rw [h.unique h']
    | none _ h' => exact absurd hlong.1 (h' r hr)
  | none hnone h =>
    cases h' with
    | exact h' =>
      obtain ⟨q, hq, hexact⟩ := h'.mem
      exact absurd hexact (hnone q hq)
    | longest _ h' =>
      obtain ⟨q, hq, hlong⟩ := h'.mem
      exact absurd hlong.1 (h q hq)
    | none => rfl

lemma Applies.eq_of_length (h : r.Applies path) (h' : q.Applies path)
    (hlen : r.pathPrefix.length = q.pathPrefix.length) : r.pathPrefix = q.pathPrefix :=
  (List.prefix_of_prefix_length_le h.2 h'.2 hlen.le).eq_of_length hlen

/-- The two lookups find the route of the rule. -/
theorem routed_lastIdx (hne : ∀ r ∈ routes, r.pathPrefix ≠ []) : Routed routes path
    (lastIdx (exactAt path) routes <|>
      PrefixTable.longest (fun p => lastIdx (prefixAt p) routes) path) := by
  have hat : ∀ {q : RouteConfig A}, q ∈ routes → q.exact = false →
      lastIdx (prefixAt q.pathPrefix) routes ≠ none := by
    intro q hq hexact hnone
    have := PrefixTable.lastIdx_eq_none_iff.mp hnone q hq
    exact absurd (prefixAt_iff.mpr ⟨hexact, rfl⟩) (by simp [this])
  cases hexact : lastIdx (exactAt path) routes with
  | some i =>
    obtain ⟨⟨r, hr, hP⟩, hlast⟩ := PrefixTable.lastIdx_eq_some_iff.mp hexact
    refine .exact ⟨⟨r, hr, exactAt_iff.mp hP⟩, fun j q hj hq h => ?_⟩
    exact absurd (exactAt_iff.mpr h) (by simp [hlast j q hj hq])
  | none =>
    have hnone : ∀ r ∈ routes, ¬ (r.exact = true ∧ r.pathPrefix = path) := by
      intro r hr h
      exact absurd (exactAt_iff.mpr h) (by simp [PrefixTable.lastIdx_eq_none_iff.mp hexact r hr])
    simp only [Option.orElse_eq_orElse, Option.orElse_none]
    cases hlong : PrefixTable.longest (fun p => lastIdx (prefixAt p) routes) path with
    | none =>
      refine .none hnone fun r hr h => hat hr h.1 ?_
      exact PrefixTable.longest_eq_none_iff.mp hlong _ (hne r hr) h.2
    | some i =>
      obtain ⟨p, -, hp, hi, hbeyond⟩ := PrefixTable.longest_eq_some_iff.mp hlong
      obtain ⟨⟨r, hr, hP⟩, hlast⟩ := PrefixTable.lastIdx_eq_some_iff.mp hi
      obtain ⟨hpre, rfl⟩ := prefixAt_iff.mp hP
      have hmax : ∀ q ∈ routes, q.Applies path →
          q.pathPrefix.length ≤ r.pathPrefix.length := by
        intro q hq h
        by_contra hlt
        exact hat hq h.1 (hbeyond _ h.2 (by omega))
      refine .longest hnone ⟨⟨r, hr, ⟨hpre, hp⟩, hmax⟩, fun j q hj hq h => ?_⟩
      -- another route with a prefix of the same length has the same prefix
      have hlen : q.pathPrefix.length = r.pathPrefix.length :=
        le_antisymm (hmax q (List.mem_of_getElem? hq) h.1)
          (h.2 r (List.mem_of_getElem? hr) ⟨hpre, hp⟩)
      have heq := h.1.eq_of_length ⟨hpre, hp⟩ hlen
      exact absurd (prefixAt_iff.mpr ⟨h.1.1, heq⟩) (by simp [hlast j q hj hq])

end RouteConfig

/-! ## `match_route` -/

namespace GatewayConfig

open RouteConfig

variable {A : Type*} (cfg : GatewayConfig A)

lemma foldl_addRoute (routes : List (RouteConfig A)) :
    let t := routes.zipIdx.foldl addRoute (.node none fun _ => .null, fun _ => none)
    (∀ p, t.1.routeAt p = lastIdx (prefixAt p) routes) ∧
      ∀ path, t.2 path = lastIdx (exactAt path) routes := by
  induction routes using List.reverseRecOn with
  | nil =>
    refine ⟨fun p => ?_, fun _ => rfl⟩
    cases p with
    | nil => rfl
    | cons c p => exact TrieNode.routeAt_null p
  | append_singleton routes r ih =>
    simp only [List.zipIdx_append, List.zipIdx_singleton, Nat.zero_add, List.foldl_append,
      List.foldl_cons, List.foldl_nil, PrefixTable.lastIdx_concat]
    generalize routes.zipIdx.foldl addRoute _ = t at ih ⊢
    obtain ⟨htrie, hmap⟩ := ih
    constructor
    · intro p
      by_cases hexact : r.exact = true
      · simp [addRoute, hexact, htrie, prefixAt]
      · simp [addRoute, hexact, htrie, prefixAt, TrieNode.routeAt_insert]
    · intro path
      by_cases hexact : r.exact = true
      · by_cases hpath : r.pathPrefix = path
        · simp [addRoute, hexact, exactAt, hpath]
        · simp [addRoute, hexact, exactAt, hpath, Function.update_of_ne (Ne.symm hpath), hmap]
      · simp [addRoute, hexact, hmap, exactAt]

lemma routeAt_buildTrie (p : Bytes) :
    cfg.buildTrie.trieRoot.routeAt p = lastIdx (prefixAt p) cfg.routes :=
  (foldl_addRoute cfg.routes).1 p

lemma exactMap_buildTrie (path : Bytes) :
    cfg.buildTrie.exactMap path = lastIdx (exactAt path) cfg.routes :=
  (foldl_addRoute cfg.routes).2 path

/-- The pointer `match_route` returns, computed from `m_routes`. -/
theorem matchRoute_buildTrie (path : Bytes) : cfg.buildTrie.matchRoute path =
    (lastIdx (exactAt path) cfg.routes <|>
      PrefixTable.longest (fun p => lastIdx (prefixAt p) cfg.routes) path) := by
  have htable : cfg.buildTrie.trieRoot.routeAt = fun p => lastIdx (prefixAt p) cfg.routes :=
    funext fun p => routeAt_buildTrie cfg p
  rw [matchRoute, exactMap_buildTrie, TrieNode.longest_eq, htable]
  cases lastIdx (exactAt path) cfg.routes <;> simp

/-- The route `match_route` points to, computed from `m_routes`. -/
theorem routeOf_buildTrie (path : Bytes) : cfg.buildTrie.routeOf path =
    ((cfg.routes.filter (exactAt path)).getLast? <|>
      PrefixTable.longest (fun p => (cfg.routes.filter (prefixAt p)).getLast?) path) := by
  have hlast : ∀ {P : RouteConfig A → Bool} {i : ℕ}, lastIdx P cfg.routes = some i →
      cfg.routes[i]? ≠ none := by
    intro P i hi
    obtain ⟨⟨r, hr, -⟩, -⟩ := PrefixTable.lastIdx_eq_some_iff.mp hi
    simp [hr]
  simp only [← PrefixTable.lastIdx_bind_getElem]
  rw [← PrefixTable.longest_bind fun p i hi => hlast hi, routeOf, matchRoute_buildTrie]
  change Option.bind _ (cfg.routes[·]?) = _
  cases hexact : lastIdx (exactAt path) cfg.routes with
  | none => simp
  | some i =>
    obtain ⟨r, hr⟩ := Option.ne_none_iff_exists'.mp (hlast hexact)
    simp [hr]

/-- **Routing is the rule.**  After `build_trie`, `match_route` returns the last exact route for
the path; without one, the last of the routes with the longest prefix of the path; and a null
pointer exactly when there is no such route either. -/
theorem matchRoute_buildTrie_iff (hne : ∀ r ∈ cfg.routes, r.pathPrefix ≠ []) (path : Bytes)
    (o : Option ℕ) : cfg.buildTrie.matchRoute path = o ↔ Routed cfg.routes path o := by
  have hrule : Routed cfg.routes path (cfg.buildTrie.matchRoute path) := by
    rw [matchRoute_buildTrie]
    exact routed_lastIdx hne
  constructor
  · rintro rfl
    exact hrule
  · exact fun h => hrule.unique h

/-- Two nested prefixes, the longer one twice, and an exact route, with a byte above 127. -/
def nestedRoutes : List (RouteConfig Bytes) :=
  [⟨ascii "/api", [ascii "10.0.0.1:80"], [], false, []⟩,
    ⟨ascii "/", [ascii "10.0.0.2:80"], [], false, []⟩,
    ⟨ascii "/api" ++ [200], [ascii "10.0.0.3:80"], [], true, []⟩,
    ⟨ascii "/api", [ascii "10.0.0.4:80"], [], false, []⟩]

/-- A configuration with these routes. -/
def nestedConfig : GatewayConfig Bytes :=
  { (init : GatewayConfig Bytes) with routes := nestedRoutes }

theorem matchRoute_nestedConfig :
    nestedConfig.buildTrie.matchRoute (ascii "/api" ++ [200, 47]) = some 3 ∧
      Routed nestedRoutes (ascii "/api" ++ [200, 47]) (some 3) := by
  have hmatch : nestedConfig.buildTrie.matchRoute (ascii "/api" ++ [200, 47]) = some 3 := by
    decide +kernel
  have hne : ∀ r ∈ nestedConfig.routes, r.pathPrefix ≠ [] := by decide +kernel
  exact ⟨hmatch, (matchRoute_buildTrie_iff nestedConfig hne _ _).mp hmatch⟩

end GatewayConfig

end CoroutineGateway
