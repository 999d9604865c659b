import CoroutineGateway.Construction.GatewayConfig

/-!
# What a configuration file says

The loop of `load_from_file` keeps fifteen local variables, and each of them depends on the lines
of one or two directives only.  `Draft.reading` states their final values without the loop: a list
that the lines of a directive add to, or the last value that one of them gives;
`Draft.foldl_readLine_eq` says that the loop computes it.

What is proved about files elsewhere is proved about `Draft.reading`: `loadFromFile_eq` says when a
load succeeds and what it leaves behind in either case, and `filter_routes` which lines the
exact routes and the others come from.
-/

namespace CoroutineGateway

namespace GatewayConfig

variable {A : Type*}

/-! ## Lines -/

/-- The lines of a file that are not empty. -/
def fileLines (text : Bytes) : List Bytes := (Text.getlines lf text).filter (· ≠ [])

/-- The directive of a line, if its first word is a keyword. -/
def Directive.ofLine (line : Bytes) : Option Directive := ofWord (Text.readWord line).1

/-- The lines of one directive. -/
def linesOf (k : Directive) (lines : List Bytes) : List Bytes :=
  lines.filter fun line => Directive.ofLine line = some k

/-- What follows the keyword in the lines of one directive. -/
def argsOf (k : Directive) (lines : List Bytes) : List Bytes :=
  (linesOf k lines).map fun line => (Text.readWord line).2

/-- The last value that one of the lines gives. -/
def lastValue {β : Type*} (parse : Bytes → Option β) (args : List Bytes) (default : β) : β :=
  (args.filterMap parse).getLast?.getD default

lemma argsOf_cons_of_eq {k : Directive} {line : Bytes} (h : Directive.ofLine line = some k)
    (lines : List Bytes) :
    argsOf k (line :: lines) = (Text.readWord line).2 :: argsOf k lines := by
  simp [argsOf, linesOf, h]

lemma argsOf_cons_of_ne {k : Directive} {line : Bytes} (h : Directive.ofLine line ≠ some k)
    (lines : List Bytes) : argsOf k (line :: lines) = argsOf k lines := by
  simp [argsOf, linesOf, h]

lemma lastValue_cons {β : Type*} (parse : Bytes → Option β) (a : Bytes) (args : List Bytes)
    (default : β) :
    lastValue parse (a :: args) default = lastValue parse args ((parse a).getD default) := by
  unfold lastValue
  cases h : parse a with
  | none => rw [List.filterMap_cons_none h, Option.getD_none]
  | some b =>
    rw [List.filterMap_cons_some h, List.getLast?_cons, Option.getD_some, Option.getD_some]

/-! ## Values -/

/-- The first word, unless it is missing. -/
def parseWord (args : Bytes) : Option Bytes :=
  let word := (Text.readWord args).1
  if word ≠ [] then some word else none

/-- A positive number. -/
def parsePositive (bits : ℕ) (args : Bytes) : Option ℤ :=
  let v := Text.readInt bits args
  if v > 0 then some v else none

/-- The first word, which may be missing. -/
def parseText (args : Bytes) : Option Bytes := some (Text.readWord args).1

/-- A switch, which is on for three words. -/
def parseSwitch (args : Bytes) : Option Bool :=
  let v := (Text.readWord args).1
  some (v = ascii "on" ∨ v = ascii "true" ∨ v = ascii "1")

/-- A path and a token. -/
def parseToken (args : Bytes) : Option (Bytes × Bytes) :=
  let (pfx, args) := Text.readWord args
  let (token, _) := Text.readWord args
  if pfx ≠ [] ∧ token ≠ [] then some (pfx, token) else none

/-- The last token that one of the lines gives for a path. -/
def lastToken (args : List Bytes) (pfx : Bytes) : Option Bytes :=
  ((args.filterMap parseToken).filter (·.1 = pfx)).getLast?.map (·.2)

lemma capacity_of_pos {v : ℤ} (h : v > 0) : v = -1 ∨ 1 ≤ v := .inr h

/-- A capacity of the cache. -/
def parseCapacity (args : Bytes) : Option Capacity :=
  let v := Text.readInt 31 args
  if h : v > 0 then some ⟨v, capacity_of_pos h⟩ else none

/-- A path and at least one target. -/
def parseTargets (args : Bytes) : Option (Bytes × List Bytes) :=
  let (pathPrefix, args) := Text.readWord args
  let (targets, _) := Text.readWord args
  if pathPrefix = [] ∨ targets = [] then none
  else
    let items := (Text.getlines 44 targets).filter (· ≠ [])
    if items = [] then none else some (pathPrefix, items)

/-- The route with this path and these targets. -/
def parseRoute (exact : Bool) (args : Bytes) : Option (RouteConfig A) :=
  (parseTargets args).map fun e =>
    { pathPrefix := e.1, targets := e.2, resolvedTargets := [], exact, requiredToken := [] }

/-- The route a line adds. -/
def parseRouteLine (line : Bytes) : Option (RouteConfig A) :=
  match Directive.ofLine line with
  | some .route => parseRoute false (Text.readWord line).2
  | some .exact => parseRoute true (Text.readWord line).2
  | _ => none

/-- What the lines of a file make of the local variables of `load_from_file`. -/
def Draft.reading (d : Draft A) (lines : List Bytes) : Draft A where
  routes := d.routes ++ lines.filterMap parseRouteLine
  blacklist := d.blacklist ++ (argsOf .black lines).filterMap parseWord
  maxQps := lastValue (parsePositive 31) (argsOf .qps lines) d.maxQps
  routeTokens pfx := lastToken (argsOf .token lines) pfx <|> d.routeTokens pfx
  maxBodySize := lastValue (parsePositive 63) (argsOf .maxBodySize lines) d.maxBodySize
  timeoutConnect := lastValue (parsePositive 31) (argsOf .timeoutConnectMs lines) d.timeoutConnect
  timeoutSend := lastValue (parsePositive 31) (argsOf .timeoutSendMs lines) d.timeoutSend
  timeoutRecv := lastValue (parsePositive 31) (argsOf .timeoutRecvMs lines) d.timeoutRecv
  jwtEnabled := lastValue parseSwitch (argsOf .jwtEnabled lines) d.jwtEnabled
  jwtSecret := lastValue parseText (argsOf .jwtSecret lines) d.jwtSecret
  jwtIssuer := lastValue parseText (argsOf .jwtIssuer lines) d.jwtIssuer
  jwtAudience := lastValue parseText (argsOf .jwtAudience lines) d.jwtAudience
  jwtAlg := lastValue parseText (argsOf .jwtAlg lines) d.jwtAlg
  cache := ((argsOf .jwtCacheCapacity lines).filterMap parseCapacity).getLast?.elim d.cache
    d.cache.setCapacity

/-! ## The loop over the lines -/

/-- The branch of a directive, as an update of the variable that belongs to it. -/
def Draft.update (d : Draft A) (args : Bytes) : Directive → Draft A
  | .route => { d with routes := d.routes ++ (parseRoute false args).toList }
  | .exact => { d with routes := d.routes ++ (parseRoute true args).toList }
  | .black => { d with blacklist := d.blacklist ++ (parseWord args).toList }
  | .qps => { d with maxQps := (parsePositive 31 args).getD d.maxQps }
  | .token =>
    { d with routeTokens := (parseToken args).elim d.routeTokens fun e =>
        Function.update d.routeTokens e.1 (some e.2) }
  | .maxBodySize => { d with maxBodySize := (parsePositive 63 args).getD d.maxBodySize }
  | .timeoutConnectMs => { d with timeoutConnect := (parsePositive 31 args).getD d.timeoutConnect }
  | .timeoutSendMs => { d with timeoutSend := (parsePositive 31 args).getD d.timeoutSend }
  | .timeoutRecvMs => { d with timeoutRecv := (parsePositive 31 args).getD d.timeoutRecv }
  | .jwtEnabled => { d with jwtEnabled := (parseSwitch args).getD d.jwtEnabled }
  | .jwtSecret => { d with jwtSecret := (parseText args).getD d.jwtSecret }
  | .jwtIssuer => { d with jwtIssuer := (parseText args).getD d.jwtIssuer }
  | .jwtAudience => { d with jwtAudience := (parseText args).getD d.jwtAudience }
  | .jwtAlg => { d with jwtAlg := (parseText args).getD d.jwtAlg }
  | .jwtCacheCapacity =>
    { d with cache := (parseCapacity args).elim d.cache d.cache.setCapacity }

lemma Draft.addRoute_eq (d : Draft A) (exact : Bool) (args : Bytes) :
    d.addRoute exact args = { d with routes := d.routes ++ (parseRoute exact args).toList } := by
  simp only [addRoute, parseRoute, parseTargets]
  split_ifs <;> simp

lemma Draft.apply_eq (d : Draft A) (args : Bytes) (k : Directive) :
    d.apply args k = d.update args k := by
  cases k with
  | route | exact => exact d.addRoute_eq _ args
  | black =>
    simp only [apply, update, parseWord]
    split_ifs <;> simp
  | qps | maxBodySize | timeoutConnectMs | timeoutSendMs | timeoutRecvMs =>
    simp only [apply, update, positive, parsePositive]
    split_ifs <;> rfl
  | token =>
    simp only [apply, update, parseToken]
    split_ifs <;> rfl
  | jwtCacheCapacity =>
    simp only [apply, update, parseCapacity]
    split_ifs <;> rfl
  | jwtEnabled | jwtSecret | jwtIssuer | jwtAudience | jwtAlg => rfl

/-- A line without a keyword is skipped. -/
lemma Draft.readLine_of_none {line : Bytes} (h : Directive.ofLine line = none) (d : Draft A) :
    d.readLine line = d := by
  simp only [Directive.ofLine] at h
  simp [readLine, h]

lemma Draft.readLine_of_some {k : Directive} {line : Bytes} (h : Directive.ofLine line = some k)
    (d : Draft A) : d.readLine line = d.update (Text.readWord line).2 k := by
  simp only [Directive.ofLine] at h
  simp [readLine, h, apply_eq]

lemma filterMap_cons_toList {α β : Type*} (f : α → Option β) (a : α) (l : List α) :
    (a :: l).filterMap f = (f a).toList ++ l.filterMap f := by
  cases h : f a <;> simp [h]

lemma lastToken_cons (a : Bytes) (args : List Bytes) (tokens : Bytes → Option Bytes)
    (pfx : Bytes) : (lastToken (a :: args) pfx <|> tokens pfx) = (lastToken args pfx <|>
      (parseToken a).elim tokens (fun e => Function.update tokens e.1 (some e.2)) pfx) := by
  unfold lastToken
  cases h : parseToken a with
  | none => rw [List.filterMap_cons_none h, Option.elim_none]
  | some e =>
    rw [List.filterMap_cons_some h, Option.elim_some]
    by_cases he : e.1 = pfx
    · rw [List.filter_cons_of_pos (by simpa using he), List.getLast?_cons]
      cases ((args.filterMap parseToken).filter (·.1 = pfx)).getLast? <;> simp [he]
    · rw [List.filter_cons_of_neg (by simpa using he)]
      simp [Function.update_of_ne (Ne.symm he)]

lemma lastCapacity_cons (a : Bytes) (args : List Bytes) (cache : JwtCache) :
    ((a :: args).filterMap parseCapacity).getLast?.elim cache cache.setCapacity =
      (args.filterMap parseCapacity).getLast?.elim
        ((parseCapacity a).elim cache cache.setCapacity)
        ((parseCapacity a).elim cache cache.setCapacity).setCapacity := by
  cases h : parseCapacity a with
  | none => rw [List.filterMap_cons_none h, Option.elim_none]
  | some cap =>
    rw [List.filterMap_cons_some h, Option.elim_some, List.getLast?_cons, Option.elim_some]
    cases (args.filterMap parseCapacity).getLast? <;> rfl

/-- The first line can be read before the others. -/
lemma Draft.reading_cons (d : Draft A) (line : Bytes) (lines : List Bytes) :
    d.reading (line :: lines) = (d.readLine line).reading lines := by
  cases h : Directive.ofLine line with
  | none =>
    have hargs : ∀ k, argsOf k (line :: lines) = argsOf k lines :=
      fun k => argsOf_cons_of_ne (by simp [h]) lines
    have hroute : parseRouteLine (A := A) line = none := by simp [parseRouteLine, h]
    rw [readLine_of_none h]
    simp only [reading, hargs, List.filterMap_cons_none hroute]
  | some k =>
    have hother : ∀ k', k ≠ k' → argsOf k' (line :: lines) = argsOf k' lines :=
      fun k' hk => argsOf_cons_of_ne (by simpa [h] using hk) lines
    have hown := argsOf_cons_of_eq h lines
    rw [readLine_of_some h]
    cases k with
    | route | exact => simp [reading, update, hother, parseRouteLine, h, filterMap_cons_toList]
    | black => simp [reading, update, hother, hown, parseRouteLine, h, filterMap_cons_toList]
    | token =>
      have htoken := lastToken_cons (Text.readWord line).2 (argsOf .token lines) d.routeTokens
      simp only [Option.orElse_eq_orElse, Option.orElse_eq_or] at htoken
      simp [reading, update, hother, hown, parseRouteLine, h, htoken]
    | jwtCacheCapacity =>
      have hcapacity :=
        lastCapacity_cons (Text.readWord line).2 (argsOf .jwtCacheCapacity lines) d.cache
      simpa [reading, update, hother, hown, parseRouteLine, h] using hcapacity
    | _ => simp [reading, update, hother, hown, parseRouteLine, h, lastValue_cons]

/-- **Reading a file.**  The loop over the lines computes what the lines say. -/
theorem Draft.foldl_readLine_eq (lines : List Bytes) (d : Draft A) :
    lines.foldl readLine d = d.reading lines := by
  induction lines generalizing d with
  | nil => simp [reading, argsOf, linesOf, lastValue, lastToken]
  | cons line lines ih => rw [List.foldl_cons, ih, ← reading_cons]

/-! ## The routes of a file -/

lemma parseTargets_some {args : Bytes} {e : Bytes × List Bytes} (h : parseTargets args = some e) :
    e.1 ≠ [] ∧ e.2 ≠ [] ∧ ∀ t ∈ e.2, t ≠ [] := by
  simp only [parseTargets] at h
  split_ifs at h with hmissing hempty
  obtain rfl := Option.some.inj h
  refine ⟨fun hnil => hmissing (.inl hnil), hempty, fun t ht => ?_⟩
  simpa using (List.mem_filter.mp ht).2

/-- What holds of every parsed route. -/
lemma parseRoute_some {exact : Bool} {args : Bytes} {r : RouteConfig A}
    (h : parseRoute exact args = some r) : r.pathPrefix ≠ [] ∧ r.targets ≠ [] ∧
      (∀ t ∈ r.targets, t ≠ []) ∧ r.exact = exact ∧ r.requiredToken = [] := by
  obtain ⟨e, he, rfl⟩ := Option.map_eq_some_iff.mp h
  obtain ⟨hpath, hne, htargets⟩ := parseTargets_some he
  exact ⟨hpath, hne, htargets, rfl, rfl⟩

lemma parseRouteLine_some {line : Bytes} {r : RouteConfig A} (h : parseRouteLine line = some r) :
    ∃ exact, parseRoute exact (Text.readWord line).2 = some r := by
  unfold parseRouteLine at h
  split at h
  · exact ⟨_, h⟩
  · exact ⟨_, h⟩
  · cases h

/-- The directive of the exact routes, and that of the others. -/
def routeDirective : Bool → Directive
  | true => .exact
  | false => .route

/-- The exact routes of a file are those of its `exact` lines, the others those of its `route`
lines. -/
lemma filter_routes (exact : Bool) (lines : List Bytes) :
    (lines.filterMap (parseRouteLine (A := A))).filter (·.exact = exact) =
      (argsOf (routeDirective exact) lines).filterMap (parseRoute exact) := by
  induction lines with
  | nil => rfl
  | cons line lines ih =>
    rw [filterMap_cons_toList, List.filter_append, ih]
    have hadds : ∀ b, Directive.ofLine line = some (routeDirective b) →
        (parseRouteLine (A := A) line).toList.filter (·.exact = exact) ++
            (argsOf (routeDirective exact) lines).filterMap (parseRoute exact) =
          (argsOf (routeDirective exact) (line :: lines)).filterMap (parseRoute exact) := by
      intro b h
      have hline : parseRouteLine (A := A) line = parseRoute b (Text.readWord line).2 := by
        cases b <;> simp [parseRouteLine, h, routeDirective]
      rw [hline]
      by_cases hb : b = exact
      · subst hb
        rw [argsOf_cons_of_eq h, filterMap_cons_toList]
        cases hr : parseRoute (A := A) b (Text.readWord line).2 with
        | none => rfl
        | some r => simp [(parseRoute_some hr).2.2.2.1]
      · have hne : Directive.ofLine line ≠ some (routeDirective exact) := by
          cases b <;> cases exact <;> simp_all [routeDirective]
        rw [argsOf_cons_of_ne hne]
        cases hr : parseRoute (A := A) b (Text.readWord line).2 with
        | none => rfl
        | some r => simp [(parseRoute_some hr).2.2.2.1, hb]
    cases h : Directive.ofLine line with
    | none => simp [argsOf_cons_of_ne, h, parseRouteLine]
    | some k =>
      cases k with
      | route => exact hadds false h
      | exact => exact hadds true h
      | _ =>
        rw [argsOf_cons_of_ne (by cases exact <;> simp [h, routeDirective])]
        simp [parseRouteLine, h]

/-! ## Loading a file -/

/-- The file has a route for the paths with the prefix `/`. -/
def usable (lines : List Bytes) : Bool :=
  (argsOf .route lines).any fun args => (parseTargets args).any fun e => e.1 = ascii "/"

lemma Draft.hasDefault_reading {d : Draft A} (hd : d.routes = []) (lines : List Bytes) :
    (d.reading lines).hasDefault = usable lines := by
  have hroutes : (d.reading lines).hasDefault =
      ((lines.filterMap (parseRouteLine (A := A))).filter (·.exact = false)).any
        (·.pathPrefix = ascii "/") := by
    simp [hasDefault, reading, hd, List.any_filter]
  rw [hroutes, filter_routes, usable, List.any_filterMap]
  congr 1
  funext args
  cases h : parseTargets args <;> simp [parseRoute, h]

variable (cfg : GatewayConfig A) (cache : JwtCache) (lookup : Bytes → Option A) (path : Bytes)

/-- The variables after the loop over the lines of a file. -/
def readFile (text : Bytes) : Draft A := (cfg.draft cache).reading (fileLines text)

/-- A file is loaded when it has a default route; what a file without one has done is in the
cache. -/
theorem loadFromFile_eq (text : Bytes) : cfg.loadFromFile cache lookup path (some text) =
    if usable (fileLines text) then (true, cfg.commit lookup path (cfg.readFile cache text))
    else (false, cfg, (cfg.readFile cache text).cache) := by
  have hdefault := (cfg.draft cache).hasDefault_reading rfl (fileLines text)
  have hloop := (cfg.draft cache).foldl_readLine_eq (fileLines text)
  simp only [loadFromFile]
  rw [← fileLines, hloop, readFile, hdefault]
  by_cases hroutes : ((cfg.draft cache).reading (fileLines text)).routes = []
  · have hnot : usable (fileLines text) = false := by
      rw [← hdefault, Draft.hasDefault, hroutes]
      rfl
    simp [hroutes, hnot]
  · simp [hroutes]

end GatewayConfig

end CoroutineGateway
