import CoroutineGateway.Properties.ConfigFile
import CoroutineGateway.Properties.Routing

/-!
# The order of the lines of a configuration file

Only the order of the lines of one directive matters.  Two files with the same lines of every
directive are both loaded or both rejected, and leave the same settings and the same routing
(`loadFromFile_sameOutcome`).  What does differ is the order of the exact routes and the others in
`m_routes`; it does not reach `match_route`, which looks them up in different tables
(`routeOf_buildTrie`).
-/

namespace CoroutineGateway

namespace GatewayConfig

open RouteConfig

variable {A : Type*} {lookup : Bytes → Option A} {d d' : Draft A} {text text' : Bytes}

/-- The files have the same lines of every directive, in the same order. -/
def SameDirectives (text text' : Bytes) : Prop :=
  ∀ k, linesOf k (fileLines text) = linesOf k (fileLines text')

/-- Everything but the routes. -/
def withoutRoutes (cfg : GatewayConfig A) : GatewayConfig A :=
  { cfg with routes := [], trieRoot := .null, exactMap := fun _ => none }

/-- The variables of `load_from_file` but for the routes. -/
def Draft.withoutRoutes (d : Draft A) : Draft A := { d with routes := [] }

/-- Two loads with the same result, and the same settings and routing after success. -/
structure SameOutcome (r r' : Bool × GatewayConfig A × JwtCache) : Prop where
  result : r.1 = r'.1
  settings : r.1 = true → r.2.1.withoutRoutes = r'.2.1.withoutRoutes
  routing : r.1 = true → ∀ path, r.2.1.routeOf path = r'.2.1.routeOf path

lemma SameDirectives.argsOf_eq (h : SameDirectives text text') (k : Directive) :
    argsOf k (fileLines text) = argsOf k (fileLines text') := by
  rw [argsOf, argsOf, h k]

/-- The settings do not depend on the parsed routes. -/
lemma withoutRoutes_commit_congr (h : d.withoutRoutes = d'.withoutRoutes) (cfg : GatewayConfig A)
    (path : Bytes) : (cfg.commit lookup path d).1.withoutRoutes =
      (cfg.commit lookup path d').1.withoutRoutes := by
  have hcommit : ∀ d : Draft A, (cfg.commit lookup path d).1.withoutRoutes =
      (cfg.commit lookup path d.withoutRoutes).1.withoutRoutes := fun _ => rfl
  rw [hcommit, h, ← hcommit]

/-! ## The committed routes -/

/-- What the last loop of `load_from_file` makes of a route. -/
def Draft.finish (d : Draft A) (lookup : Bytes → Option A) (r : RouteConfig A) : RouteConfig A :=
  { r with
    resolvedTargets := r.targets.filterMap lookup
    requiredToken := (d.routeTokens r.pathPrefix).getD r.requiredToken }

lemma Draft.finishRoutes_eq (d : Draft A) (lookup : Bytes → Option A) :
    d.finishRoutes lookup = d.routes.map (d.finish lookup) := rfl

lemma filter_exactAt (path : Bytes) (routes : List (RouteConfig A)) :
    routes.filter (exactAt path) =
      (routes.filter (·.exact = true)).filter (·.pathPrefix = path) := by
  rw [List.filter_filter]
  exact List.filter_congr fun r _ => by simp [exactAt, Bool.and_comm]

lemma filter_prefixAt (p : Bytes) (routes : List (RouteConfig A)) :
    routes.filter (prefixAt p) = (routes.filter (·.exact = false)).filter (·.pathPrefix = p) := by
  rw [List.filter_filter]
  exact List.filter_congr fun r _ => by simp [prefixAt, Bool.and_comm]

/-- Of the parsed routes, routing depends on the exact ones and on the others, each in their own
order, and on the tokens. -/
lemma routeOf_commit_congr (hroutes : ∀ b, d.routes.filter (·.exact = b) =
    d'.routes.filter (·.exact = b)) (htokens : d.routeTokens = d'.routeTokens)
    (cfg : GatewayConfig A) (path file : Bytes) :
    (cfg.commit lookup file d).1.routeOf path = (cfg.commit lookup file d').1.routeOf path := by
  have hfinish : d.finish lookup = d'.finish lookup := by
    funext r
    rw [Draft.finish, Draft.finish, htokens]
  have hfilter : ∀ P : RouteConfig A → Bool,
      (∀ r, P (d'.finish lookup r) = P r) → (d.routes.filter P = d'.routes.filter P) →
        (d.finishRoutes lookup).filter P = (d'.finishRoutes lookup).filter P := by
    intro P hP heq
    have hcomp : P ∘ d'.finish lookup = P := funext hP
    rw [Draft.finishRoutes_eq, Draft.finishRoutes_eq, hfinish, List.filter_map, List.filter_map,
      hcomp, heq]
  have hexact : (d.finishRoutes lookup).filter (exactAt path) =
      (d'.finishRoutes lookup).filter (exactAt path) :=
    hfilter _ (fun _ => rfl) (by rw [filter_exactAt, filter_exactAt, hroutes])
  have hpre : ∀ p, (d.finishRoutes lookup).filter (prefixAt p) =
      (d'.finishRoutes lookup).filter (prefixAt p) :=
    fun p => hfilter _ (fun _ => rfl) (by rw [filter_prefixAt, filter_prefixAt, hroutes])
  rw [commit, commit, routeOf_buildTrie, routeOf_buildTrie]
  simp only [hexact, hpre]

/-! ## Two files -/

/-- The files leave the same variables, up to the order of the routes. -/
lemma SameDirectives.reading (h : SameDirectives text text') (hd : d.routes = []) :
    (d.reading (fileLines text)).withoutRoutes = (d.reading (fileLines text')).withoutRoutes ∧
      ∀ b, (d.reading (fileLines text)).routes.filter (·.exact = b) =
        (d.reading (fileLines text')).routes.filter (·.exact = b) := by
  constructor
  · simp only [Draft.withoutRoutes, Draft.reading, h.argsOf_eq]
  · intro b
    simp only [Draft.reading, hd, List.nil_append, filter_routes, h.argsOf_eq]

/-- **The order of the lines.**  Files that differ in how the lines of different directives are
interleaved, and in unknown and blank lines, are loaded alike. -/
theorem loadFromFile_sameOutcome (cfg : GatewayConfig A) (cache : JwtCache)
    (lookup : Bytes → Option A) (path : Bytes) (h : SameDirectives text text') :
    SameOutcome (cfg.loadFromFile cache lookup path (some text))
      (cfg.loadFromFile cache lookup path (some text')) := by
  have husable : usable (fileLines text) = usable (fileLines text') := by
    rw [usable, usable, h.argsOf_eq]
  obtain ⟨hfields, hroutes⟩ := h.reading (d := cfg.draft cache) rfl
  have htokens := congrArg Draft.routeTokens hfields
  rw [loadFromFile_eq, loadFromFile_eq, husable]
  split_ifs
  · refine ⟨rfl, fun _ => ?_, fun _ path' => ?_⟩
    · exact withoutRoutes_commit_congr hfields cfg path
    · exact routeOf_commit_congr hroutes htokens cfg path' path
  · refine ⟨rfl, fun hfalse => ?_, fun hfalse => ?_⟩
    · cases hfalse
    · cases hfalse

/-- A file with a prefix route and an exact one. -/
def prefixFirst : Bytes := ascii "route / a:1\nexact /x b:2\n"

/-- The same routes the other way round, with a blank line and an unknown one between them. -/
def exactFirst : Bytes := ascii "exact /x b:2\n\n# end\nroute / a:1"

lemma sameDirectives_sample : SameDirectives prefixFirst exactFirst := by
  intro k
  have htagged : ∀ lines, linesOf k lines = ((lines.map fun line =>
      (Directive.ofLine line, line)).filter (·.1 = some k)).map Prod.snd := by
    intro lines
    simp [linesOf, List.filter_map, Function.comp_def]
  have hpre : (fileLines prefixFirst).map (fun line => (Directive.ofLine line, line)) =
      [(some .route, ascii "route / a:1"), (some .exact, ascii "exact /x b:2")] := by
    decide +kernel
  have hexact : (fileLines exactFirst).map (fun line => (Directive.ofLine line, line)) =
      [(some .exact, ascii "exact /x b:2"), (none, ascii "# end"),
        (some .route, ascii "route / a:1")] := by
    decide +kernel
  rw [htagged, htagged, hpre, hexact]
  cases k <;> rfl

theorem loadFromFile_sampleOutcome :
    SameOutcome
      ((init : GatewayConfig Bytes).loadFromFile JwtCache.init some [] (some prefixFirst))
      ((init : GatewayConfig Bytes).loadFromFile JwtCache.init some [] (some exactFirst)) :=
  loadFromFile_sameOutcome _ _ _ _ sameDirectives_sample

end GatewayConfig

end CoroutineGateway
