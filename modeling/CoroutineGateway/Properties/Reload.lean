import CoroutineGateway.Framework.Machine
import CoroutineGateway.Properties.ConfigFile
import CoroutineGateway.Properties.Routing

/-!
# The gateway across reloads

`ReloadSystem` is a configuration under any sequence of `load_from_file` and `reload` calls, with
the text of the file that was last loaded for the record.  `Routable` says what a loaded
configuration is good for: every path that starts with a slash has a route with a target, no
pointer of the trie or of the exact map leads out of `m_routes`, and every route has the token
that the file gives it.  A commit establishes it (`routable_commit`) and a load that fails changes
nothing it speaks of, so that it holds from the first success on (`routable_of_run`).
-/

namespace CoroutineGateway

namespace GatewayConfig

open RouteConfig

variable {A : Type*} {cfg : GatewayConfig A} {cache : JwtCache} {lookup : Bytes → Option A}
  {path text : Bytes}

/-- What holds of a configuration whose routes come from the file. -/
structure Routable (cfg : GatewayConfig A) (text : Bytes) : Prop where
  /-- Every path has a route with a target. -/
  matched : ∀ path, path.head? = some 47 → ∃ i r, cfg.matchRoute path = some i ∧
    cfg.routes[i]? = some r ∧ r.targets ≠ [] ∧ ∀ t ∈ r.targets, t ≠ []
  /-- The pointers in the trie lead to the prefix routes of `m_routes`. -/
  trie : ∀ p i, cfg.trieRoot.routeAt p = some i →
    ∃ r, cfg.routes[i]? = some r ∧ r.exact = false ∧ r.pathPrefix = p
  /-- The pointers in the map lead to the exact routes of `m_routes`. -/
  exactMap : ∀ path i, cfg.exactMap path = some i →
    ∃ r, cfg.routes[i]? = some r ∧ r.exact = true ∧ r.pathPrefix = path
  /-- A route has the last token the file gives for its path. -/
  tokens : ∀ r ∈ cfg.routes,
    r.requiredToken = (lastToken (argsOf .token (fileLines text)) r.pathPrefix).getD []

/-! ## A commit -/

/-- What the lines of the file and the last loop of `load_from_file` make of every route. -/
lemma of_mem_routes_commit {r : RouteConfig A}
    (h : r ∈ (cfg.commit lookup path (cfg.readFile cache text)).1.routes) :
    r.pathPrefix ≠ [] ∧ r.targets ≠ [] ∧ (∀ t ∈ r.targets, t ≠ []) ∧
      r.requiredToken = (lastToken (argsOf .token (fileLines text)) r.pathPrefix).getD [] := by
  obtain ⟨r₀, hr₀, rfl⟩ := List.mem_map.mp h
  have hline : r₀ ∈ (fileLines text).filterMap parseRouteLine := hr₀
  obtain ⟨line, -, hparse⟩ := List.mem_filterMap.mp hline
  obtain ⟨exact, hexact⟩ := parseRouteLine_some hparse
  obtain ⟨hpath, hne, hitems, -, htoken⟩ := parseRoute_some hexact
  refine ⟨hpath, hne, hitems, ?_⟩
  simp [readFile, Draft.reading, draft, htoken]

/-- A usable file has a route for every path that starts with a slash. -/
lemma exists_default (h : usable (fileLines text) = true) (hpath : path.head? = some 47)
    (file : Bytes) :
    ∃ r ∈ (cfg.commit lookup file (cfg.readFile cache text)).1.routes, r.Applies path := by
  rw [← Draft.hasDefault_reading (d := cfg.draft cache) rfl] at h
  obtain ⟨r, hr, hdefault⟩ := List.any_eq_true.mp h
  obtain ⟨hexact, hpre⟩ : r.exact = false ∧ r.pathPrefix = ascii "/" := by simpa using hdefault
  refine ⟨_, List.mem_map_of_mem hr, hexact, ?_⟩
  obtain ⟨rest, rfl⟩ : ∃ rest, path = 47 :: rest := by
    cases path with
    | nil => cases hpath
    | cons c rest => exact ⟨rest, by rw [Option.some.inj hpath]⟩
  exact ⟨rest, by rw [hpre]; rfl⟩

/-- What `match_route` returns after a commit leads into `m_routes`. -/
lemma exists_route_commit {i : ℕ} {file : Bytes}
    (hi : (cfg.commit lookup file (cfg.readFile cache text)).1.matchRoute path = some i) :
    ∃ r, (cfg.commit lookup file (cfg.readFile cache text)).1.routes[i]? = some r := by
  set cfg' := (cfg.commit lookup file (cfg.readFile cache text)).1 with hcfg'
  have hne : ∀ r ∈ cfg'.routes, r.pathPrefix ≠ [] := fun r hr => (of_mem_routes_commit hr).1
  have hrule := (matchRoute_buildTrie_iff cfg' hne path _).mp rfl
  have hbuilt : cfg'.buildTrie = cfg' := rfl
  rw [hbuilt, hi] at hrule
  cases hrule with
  | exact h | longest _ h =>
    obtain ⟨⟨r, hr, -⟩, -⟩ := h
    exact ⟨r, hr⟩

/-- **A commit makes the gateway routable.** -/
theorem routable_commit (h : usable (fileLines text) = true) (cfg : GatewayConfig A)
    (cache : JwtCache) (lookup : Bytes → Option A) (file : Bytes) :
    (cfg.commit lookup file (cfg.readFile cache text)).1.Routable text := by
  set cfg' := (cfg.commit lookup file (cfg.readFile cache text)).1 with hcfg'
  have hbuilt : cfg'.buildTrie = cfg' := rfl
  refine ⟨fun path hpath => ?_, fun p i hi => ?_, fun path i hi => ?_, fun r hr => ?_⟩
  · have hne : ∀ r ∈ cfg'.routes, r.pathPrefix ≠ [] := fun r hr => (of_mem_routes_commit hr).1
    have hrule := (matchRoute_buildTrie_iff cfg' hne path _).mp rfl
    rw [hbuilt] at hrule
    obtain ⟨i, hi⟩ : ∃ i, cfg'.matchRoute path = some i := by
      cases hm : cfg'.matchRoute path with
      | some i => exact ⟨i, rfl⟩
      | none =>
        rw [hm] at hrule
        obtain ⟨r, hr, happlies⟩ := exists_default h hpath file
        cases hrule with
        | none _ hnone => exact absurd happlies (hnone r hr)
    obtain ⟨r, hr⟩ := exists_route_commit hi
    obtain ⟨-, htargets, hitems, -⟩ := of_mem_routes_commit (List.mem_of_getElem? hr)
    exact ⟨i, r, hi, hr, htargets, hitems⟩
  · rw [← hbuilt, routeAt_buildTrie] at hi
    obtain ⟨⟨r, hr, hP⟩, -⟩ := PrefixTable.lastIdx_eq_some_iff.mp hi
    exact ⟨r, hr, prefixAt_iff.mp hP⟩
  · rw [← hbuilt, exactMap_buildTrie] at hi
    obtain ⟨⟨r, hr, hP⟩, -⟩ := PrefixTable.lastIdx_eq_some_iff.mp hi
    exact ⟨r, hr, exactAt_iff.mp hP⟩
  · exact (of_mem_routes_commit hr).2.2.2

/-- A load fails and leaves the configuration as it is, or makes it routable by the file. -/
lemma loadFromFile_cases (cfg : GatewayConfig A) (cache : JwtCache) (lookup : Bytes → Option A)
    (path : Bytes) (file : Option Bytes) :
    let r := cfg.loadFromFile cache lookup path file
    (r.1 = false ∧ r.2.1 = cfg) ∨ ∃ text, file = some text ∧ r.1 = true ∧ r.2.1.Routable text := by
  cases file with
  | none => exact .inl ⟨rfl, rfl⟩
  | some text =>
    rw [loadFromFile_eq]
    by_cases husable : usable (fileLines text) = true
    · rw [if_pos husable]
      exact .inr ⟨text, rfl, rfl, routable_commit husable cfg cache lookup path⟩
    · rw [if_neg husable]
      exact .inl ⟨rfl, rfl⟩

end GatewayConfig

/-! ## Runs -/

/-- The configuration and the cache, and the file that was last loaded. -/
structure ReloadSystem (A : Type*) where
  config : GatewayConfig A
  cache : JwtCache
  /-- For the record: the text of the last file for which a call returned true. -/
  loaded : Option Bytes

/-- The calls, each with what it finds at the path of the file and how targets are resolved. -/
inductive ReloadAction (A : Type*) where
  | loadFromFile (lookup : Bytes → Option A) (path : Bytes) (file : Option Bytes)
  | reload (lookup : Bytes → Option A) (file : Option Bytes)

namespace ReloadSystem

variable {A : Type*}

/-- Before the first call. -/
def init : ReloadSystem A := ⟨.init, .init, none⟩

/-- What a call leaves. -/
def after (s : ReloadSystem A) (file : Option Bytes) (r : Bool × GatewayConfig A × JwtCache) :
    ReloadSystem A :=
  ⟨r.2.1, r.2.2, if r.1 then file else s.loaded⟩

/-- Any sequence of calls. -/
def machine : Machine (ReloadSystem A) (ReloadAction A) where
  step s
    | .loadFromFile lookup path file =>
      some (s.after file (s.config.loadFromFile s.cache lookup path file))
    | .reload lookup file => some (s.after file (s.config.reload s.cache lookup file))

/-- The configuration is routable, by the file that was last loaded. -/
def Routable (s : ReloadSystem A) : Prop := ∀ text ∈ s.loaded, s.config.Routable text

variable {s s' : ReloadSystem A}

/-- A load keeps the gateway routable, whatever the file. -/
lemma Routable.loadFromFile (hs : s.Routable) (lookup : Bytes → Option A) (path : Bytes)
    (file : Option Bytes) :
    (s.after file (s.config.loadFromFile s.cache lookup path file)).Routable := by
  intro text htext
  rcases s.config.loadFromFile_cases s.cache lookup path file with
    ⟨hfails, hsame⟩ | ⟨text', rfl, hok, hroutable⟩
  · simp only [after, hfails, Bool.false_eq_true, if_false] at htext
    simp only [after, hsame]
    exact hs text htext
  · simp only [after, hok, if_true] at htext
    obtain rfl : text' = text := Option.some.inj htext
    exact hroutable

lemma Routable.reload (hs : s.Routable) (lookup : Bytes → Option A) (file : Option Bytes) :
    (s.after file (s.config.reload s.cache lookup file)).Routable := by
  unfold GatewayConfig.reload
  split_ifs
  · exact hs
  · exact hs.loadFromFile lookup _ file

/-- **Routable across reloads.**  In every state that a sequence of calls reaches, once one of them
has returned true, the configuration is routable by the file that was last loaded. -/
theorem routable_of_run {as : List (ReloadAction A)} (hrun : machine.run init as = some s)
    (text : Bytes) (hloaded : s.loaded = some text) : s.config.Routable text := by
  have hs : s.Routable := by
    refine Machine.run_invariant (fun s a s' hs hstep => ?_) (fun text h => by cases h) hrun
    cases a with
    | loadFromFile lookup path file =>
      obtain rfl := Option.some.inj hstep
      exact hs.loadFromFile lookup path file
    | reload lookup file =>
      obtain rfl := Option.some.inj hstep
      exact hs.reload lookup file
  exact hs text hloaded

/-- A good file with a token line before its route, and a file without a default route. -/
def sampleCalls : List (ReloadAction Bytes) :=
  [.loadFromFile some (ascii "gateway.conf")
      (some (ascii "token /a t\nroute /a 10.0.0.1:80\nroute / 10.0.0.2:80\n")),
    .reload some (some (ascii "route /b 10.0.0.3:80\n"))]

/-- The state after the calls. -/
def sampleState : ReloadSystem Bytes := (machine.run init sampleCalls).getD init

theorem routable_sampleState : ∃ text, sampleState.loaded = some text ∧
    sampleState.config.routes.map (·.requiredToken) = [ascii "t", []] ∧
      sampleState.config.Routable text := by
  have hrun : machine.run init sampleCalls = some sampleState := rfl
  have hloaded : sampleState.loaded =
      some (ascii "token /a t\nroute /a 10.0.0.1:80\nroute / 10.0.0.2:80\n") := by decide +kernel
  exact ⟨_, hloaded, by decide +kernel, routable_of_run hrun _ hloaded⟩

end ReloadSystem

end CoroutineGateway
