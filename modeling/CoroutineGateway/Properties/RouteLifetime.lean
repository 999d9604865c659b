import CoroutineGateway.Construction.FilterChain
import CoroutineGateway.Properties.Reload

/-!
# How long a route lives

`match_route` returns a pointer into `m_routes` and gives the lock back, and a load replaces
`m_routes`.  `RouteSystem` is one request, from `AuthFilter::apply` to the end of `pick_upstream`,
interleaved with loads: every critical section is a step, and so is every read through a
`RouteConfig` pointer.  A pointer knows the table it points into.  What a read yields that follows
a pointer into a replaced table is up to the run.

`alone_auth` and `alone_pick` say that the steps of the request with nothing in between are
`AuthFilter::applyRoute` and `GatewayConfig::pickUpstream`.  The request is to see one configuration
(`OneConfiguration`).  It does where no load commits while the request depends on a route
(`oneConfiguration_of_keepsRoute`), and a commit at such a moment lets it read through a pointer
into a replaced table, or return the target of another configuration than the one whose token it
checked (`reaches_split_of_not_keepsRoute`).
-/

namespace CoroutineGateway

/-- A `const RouteConfig*`: the table it points into, by the number of tables installed before, and
the position there. -/
structure RoutePtr where
  table : ℕ
  index : ℕ
  deriving DecidableEq

/-- The reads through a route pointer, in the order of the two functions. -/
inductive RouteRead where
  /-- `rc->required_token.empty()` -/
  | tokenEmpty
  /-- `client_token != rc->required_token` -/
  | token (clientToken : Bytes)
  /-- `rc->resolved_targets.empty()` -/
  | resolvedEmpty
  /-- `rc->targets.empty()` -/
  | targetsEmpty
  /-- `!rc->resolved_targets.empty()`, with the index taken -/
  | resolvedAny (i : ℕ)
  /-- `rc->resolved_targets.size()` -/
  | resolvedSize (i : ℕ)
  /-- `rc->resolved_targets[i]` -/
  | resolvedAt (i : ℕ)
  /-- `rc->targets.size()` -/
  | targetsSize (i : ℕ)
  /-- `rc->targets[i]` -/
  | targetAt (i : ℕ)
  deriving DecidableEq

/-- How far the request is. -/
inductive RoutePhase (A : Type*) where
  | enter
  /-- In the branch for `jwt_enabled`, which looks at no route. -/
  | jwt
  | matchAuth
  /-- Past the filter, before `pick_upstream`. -/
  | passed
  | reading (rc : RoutePtr) (read : RouteRead)
  | refused
  | returned (addr : Option A)

/-- The configuration, and one request. -/
structure RouteSystem (A : Type*) where
  config : GatewayConfig A
  cache : JwtCache
  /-- How many tables have been installed before the present one. -/
  table : ℕ
  /-- `s_index` -/
  index : ℕ
  phase : RoutePhase A
  /-- For the record: the reads through a route pointer, each with the table that was read and the
  one that was installed. -/
  reads : List (ℕ × ℕ)
  /-- For the record: the table of the route whose token was checked. -/
  checked : Option ℕ
  /-- For the record: the table of the route whose target is returned. -/
  returned : Option ℕ

/-- The steps of the request and of the loads. -/
inductive RouteAction (A : Type*) where
  /-- The next step of the request; `stale` is what a pointer into a replaced table yields. -/
  | request (lookup : Bytes → Option A) (stale : RouteConfig A)
  /-- The branch for `jwt_enabled` ends. -/
  | jwt (pass : Bool)
  /-- A call of `load_from_file` or `reload`. -/
  | load (call : ReloadAction A)

namespace RouteSystem

variable {A : Type*}

/-! ## The steps -/

/-- What follows a read that yields `r`, and the value of `s_index` from then on. -/
def afterRead (ctx : GatewayRequestContext) (lookup : Bytes → Option A) (index : ℕ) (rc : RoutePtr)
    (r : RouteConfig A) : RouteRead → RoutePhase A × ℕ
  | .tokenEmpty =>
    if r.requiredToken = [] then (.passed, index)
    else
      match AuthFilter.token ctx.rawRequest with
      | none => (.refused, index)
      | some clientToken => (.reading rc (.token clientToken), index)
  | .token clientToken => (if clientToken ≠ r.requiredToken then .refused else .passed, index)
  | .resolvedEmpty =>
    if r.resolvedTargets = [] then (.reading rc .targetsEmpty, index)
    else (.reading rc (.resolvedAny index), (index + 1) % 2 ^ 64)
  | .targetsEmpty =>
    if r.targets = [] then (.returned none, index)
    else (.reading rc (.resolvedAny index), (index + 1) % 2 ^ 64)
  | .resolvedAny i =>
    (.reading rc (if r.resolvedTargets ≠ [] then .resolvedSize i else .targetsSize i), index)
  | .resolvedSize i => (.reading rc (.resolvedAt (i % r.resolvedTargets.length)), index)
  | .resolvedAt i => (.returned r.resolvedTargets[i]?, index)
  | .targetsSize i => (.reading rc (.targetAt (i % r.targets.length)), index)
  | .targetAt i => (.returned (r.targets[i]?.bind lookup), index)

/-- `*rc` -/
def deref (s : RouteSystem A) (rc : RoutePtr) (stale : RouteConfig A) : RouteConfig A :=
  if rc.table = s.table then (s.config.routes[rc.index]?).getD stale else stale

/-- A read through a route pointer. -/
def readRoute (s : RouteSystem A) (ctx : GatewayRequestContext) (lookup : Bytes → Option A)
    (stale : RouteConfig A) (rc : RoutePtr) (read : RouteRead) : RouteSystem A :=
  let (phase, index) := afterRead ctx lookup s.index rc (s.deref rc stale) read
  { s with
    phase
    index
    reads := (rc.table, s.table) :: s.reads
    checked := match phase with
      | .passed => some rc.table
      | _ => s.checked
    returned := match phase with
      | .returned (some _) => some rc.table
      | _ => s.returned }

/-- A step of the request. -/
def stepRequest (s : RouteSystem A) (ctx : GatewayRequestContext) (lookup : Bytes → Option A)
    (stale : RouteConfig A) : Option (RouteSystem A) :=
  match s.phase with
  | .enter => some { s with phase := if s.config.jwtEnabled then .jwt else .matchAuth }
  | .matchAuth =>
    some { s with phase := match s.config.matchRoute ctx.path with
      | none => .passed
      | some i => .reading ⟨s.table, i⟩ .tokenEmpty }
  | .passed =>
    some { s with phase := match s.config.matchRoute ctx.path with
      | none => .returned none
      | some i => .reading ⟨s.table, i⟩ .resolvedEmpty }
  | .reading rc read => some (s.readRoute ctx lookup stale rc read)
  | .jwt | .refused | .returned _ => none

/-- What a call of a load returns and leaves. -/
def loaded (s : RouteSystem A) : ReloadAction A → Bool × GatewayConfig A × JwtCache
  | .loadFromFile lookup path file => s.config.loadFromFile s.cache lookup path file
  | .reload lookup file => s.config.reload s.cache lookup file

/-- A call of a load; if it returns true, another table is installed. -/
def load (s : RouteSystem A) (call : ReloadAction A) : RouteSystem A :=
  let r := s.loaded call
  { s with config := r.2.1, cache := r.2.2, table := if r.1 then s.table + 1 else s.table }

/-- The interleavings of a request with loads. -/
def machine (ctx : GatewayRequestContext) : Machine (RouteSystem A) (RouteAction A) where
  step s
    | .request lookup stale => s.stepRequest ctx lookup stale
    | .jwt pass =>
      match s.phase with
      | .jwt => some { s with phase := if pass then .passed else .refused }
      | _ => none
    | .load call => some (s.load call)

/-- A request that enters the filter. -/
def init (config : GatewayConfig A) (cache : JwtCache) (index : ℕ) : RouteSystem A :=
  ⟨config, cache, 0, index, .enter, [], none, none⟩

variable {s s' : RouteSystem A} {ctx : GatewayRequestContext}

/-! ## The request alone -/

/-- The request at a phase, with the reads it has made. -/
def goTo (s : RouteSystem A) (phase : RoutePhase A) (index : ℕ) (reads : List (ℕ × ℕ)) :
    RouteSystem A :=
  { s with phase, index, reads }

/-- A read of a route of the installed table after which another one follows. -/
lemma run_reading {i index index' : ℕ} {r : RouteConfig A} {read read' : RouteRead}
    {lookup : Bytes → Option A} {rc : RoutePtr} (hr : s.config.routes[i]? = some r)
    (hnext : afterRead ctx lookup index ⟨s.table, i⟩ r read = (.reading rc read', index'))
    (reads : List (ℕ × ℕ)) (as : List (RouteAction A)) :
    (machine ctx).run (s.goTo (.reading ⟨s.table, i⟩ read) index reads) (.request lookup r :: as) =
      (machine ctx).run (s.goTo (.reading rc read') index' ((s.table, s.table) :: reads)) as := by
  simp only [Machine.run, machine, stepRequest, goTo, readRoute, deref, if_true, hr,
    Option.getD_some, hnext, Option.bind_some]

/-- The route that a path is matched with. -/
lemma exists_routeOf {config : GatewayConfig A} {path : Bytes} {i : ℕ}
    (hroutes : ∀ i, config.matchRoute path = some i → ∃ r, config.routes[i]? = some r)
    (hmatch : config.matchRoute path = some i) :
    ∃ r, config.routes[i]? = some r ∧ config.routeOf path = some r := by
  obtain ⟨r, hr⟩ := hroutes i hmatch
  exact ⟨r, hr, by simp [GatewayConfig.routeOf, hmatch, hr]⟩

/-- The last read of a route of the installed table. -/
lemma run_lastRead {i index index' : ℕ} {r : RouteConfig A} {read : RouteRead}
    {lookup : Bytes → Option A} {phase : RoutePhase A} (hr : s.config.routes[i]? = some r)
    (hnext : afterRead ctx lookup index ⟨s.table, i⟩ r read = (phase, index'))
    (reads : List (ℕ × ℕ)) :
    ∃ s', (machine ctx).run (s.goTo (.reading ⟨s.table, i⟩ read) index reads)
        [.request lookup r] = some s' ∧
      s'.config = s.config ∧ s'.table = s.table ∧ s'.phase = phase ∧ s'.index = index' ∧
      (∀ addr, phase = .returned addr →
        s'.checked = s.checked ∧ (addr.isSome → s'.returned = some s.table)) := by
  refine ⟨(s.goTo (.reading ⟨s.table, i⟩ read) index reads).readRoute ctx lookup r ⟨s.table, i⟩
    read, rfl, ?_⟩
  simp only [readRoute, goTo, deref, if_true, hr, Option.getD_some, hnext, true_and]
  rintro addr rfl
  refine ⟨rfl, fun hsome => ?_⟩
  obtain ⟨a, rfl⟩ := Option.isSome_iff_exists.mp hsome
  rfl

/-- The steps of the filter with nothing in between are those of `applyRoute`. -/
theorem alone_auth (hphase : s.phase = .matchAuth) (lookup : Bytes → Option A)
    (hroutes : ∀ i, s.config.matchRoute ctx.path = some i → ∃ r, s.config.routes[i]? = some r) :
    ∃ as s', (machine ctx).run s as = some s' ∧ s'.config = s.config ∧ s'.table = s.table ∧
      s'.phase = match AuthFilter.applyRoute s.config ctx with
        | .pass => .passed
        | .reject _ _ => .refused := by
  cases hmatch : s.config.matchRoute ctx.path with
  | none =>
    refine ⟨[.request lookup ⟨[], [], [], false, []⟩], ?_⟩
    simp [Machine.run, machine, stepRequest, hphase, hmatch, AuthFilter.applyRoute,
      GatewayConfig.routeOf]
  | some i =>
    obtain ⟨r, hr, hroute⟩ := exists_routeOf hroutes hmatch
    have hfirst : ∀ as, (machine ctx).run s (.request lookup r :: as) =
        (machine ctx).run (s.goTo (.reading ⟨s.table, i⟩ .tokenEmpty) s.index s.reads) as := by
      intro as
      simp only [Machine.run, machine, stepRequest, hphase, hmatch, goTo, Option.bind_some]
    by_cases hempty : r.requiredToken = []
    · have hread : afterRead ctx lookup s.index ⟨s.table, i⟩ r .tokenEmpty = (.passed, s.index) :=
        if_pos hempty
      obtain ⟨s', hrun, hconfig, htable, hend, -⟩ := run_lastRead hr hread s.reads
      refine ⟨_, s', (hfirst _).trans hrun, hconfig, htable, hend.trans ?_⟩
      simp [AuthFilter.applyRoute, hroute, hempty]
    · cases htoken : AuthFilter.token ctx.rawRequest with
      | none =>
        have hread : afterRead ctx lookup s.index ⟨s.table, i⟩ r .tokenEmpty =
            (.refused, s.index) := by
          simp [afterRead, hempty, htoken]
        obtain ⟨s', hrun, hconfig, htable, hend, -⟩ := run_lastRead hr hread s.reads
        refine ⟨_, s', (hfirst _).trans hrun, hconfig, htable, hend.trans ?_⟩
        simp [AuthFilter.applyRoute, AuthFilter.unauthorized, hroute, hempty, htoken]
      | some t =>
        have hread : afterRead ctx lookup s.index ⟨s.table, i⟩ r .tokenEmpty =
            (.reading ⟨s.table, i⟩ (.token t), s.index) := by
          simp [afterRead, hempty, htoken]
        have hlast : afterRead ctx lookup s.index ⟨s.table, i⟩ r (.token t) =
            (if t ≠ r.requiredToken then .refused else .passed, s.index) := rfl
        obtain ⟨s', hrun, hconfig, htable, hend, -⟩ :=
          run_lastRead hr hlast ((s.table, s.table) :: s.reads)
        refine ⟨_, s', (hfirst _).trans ((run_reading hr hread _ _).trans hrun), hconfig, htable,
          hend.trans ?_⟩
        by_cases heq : t = r.requiredToken
        · simp [AuthFilter.applyRoute, hroute, hempty, htoken, heq]
        · simp [AuthFilter.applyRoute, AuthFilter.unauthorized, hroute, hempty, htoken, heq]

/-- The steps of `pick_upstream` with nothing in between are those of `pickUpstream`, and what it
returns is a target of the installed table. -/
theorem alone_pick (hphase : s.phase = .passed) (lookup : Bytes → Option A)
    (hroutes : ∀ i, s.config.matchRoute ctx.path = some i → ∃ r, s.config.routes[i]? = some r) :
    ∃ as s', (machine ctx).run s as = some s' ∧ s'.checked = s.checked ∧
      s'.phase = .returned (s.config.pickUpstream lookup s.index ctx.path).1 ∧
      s'.index = (s.config.pickUpstream lookup s.index ctx.path).2 ∧
      ((s.config.pickUpstream lookup s.index ctx.path).1.isSome → s'.returned = some s.table) := by
  cases hmatch : s.config.matchRoute ctx.path with
  | none =>
    refine ⟨[.request lookup ⟨[], [], [], false, []⟩], ?_⟩
    simp [Machine.run, machine, stepRequest, hphase, hmatch, GatewayConfig.pickUpstream,
      GatewayConfig.routeOf]
  | some i =>
    obtain ⟨r, hr, hroute⟩ := exists_routeOf hroutes hmatch
    have hfirst : ∀ as, (machine ctx).run s (.request lookup r :: as) =
        (machine ctx).run (s.goTo (.reading ⟨s.table, i⟩ .resolvedEmpty) s.index s.reads) as := by
      intro as
      simp only [Machine.run, machine, stepRequest, hphase, hmatch, goTo, Option.bind_some]
    by_cases hresolved : r.resolvedTargets = []
    · have hread : afterRead ctx lookup s.index ⟨s.table, i⟩ r .resolvedEmpty =
          (.reading ⟨s.table, i⟩ .targetsEmpty, s.index) := if_pos hresolved
      by_cases htargets : r.targets = []
      · have hpick : s.config.pickUpstream lookup s.index ctx.path = (none, s.index) := by
          simp [GatewayConfig.pickUpstream, hroute, hresolved, htargets]
        have hlast : afterRead ctx lookup s.index ⟨s.table, i⟩ r .targetsEmpty =
            (.returned none, s.index) := if_pos htargets
        obtain ⟨s', hrun, -, -, hend, hindex, hreturned⟩ :=
          run_lastRead hr hlast ((s.table, s.table) :: s.reads)
        rw [hpick]
        exact ⟨_, s', (hfirst _).trans ((run_reading hr hread _ _).trans hrun),
          (hreturned _ rfl).1, hend, hindex, (hreturned _ rfl).2⟩
      · have hread' : afterRead ctx lookup s.index ⟨s.table, i⟩ r .targetsEmpty =
            (.reading ⟨s.table, i⟩ (.resolvedAny s.index), (s.index + 1) % 2 ^ 64) :=
          if_neg htargets
        have hany : afterRead ctx lookup ((s.index + 1) % 2 ^ 64) ⟨s.table, i⟩ r
            (.resolvedAny s.index) =
              (.reading ⟨s.table, i⟩ (.targetsSize s.index), (s.index + 1) % 2 ^ 64) := by
          simp [afterRead, hresolved]
        have hpick : s.config.pickUpstream lookup s.index ctx.path =
            (r.targets[s.index % r.targets.length]?.bind lookup, (s.index + 1) % 2 ^ 64) := by
          simp [GatewayConfig.pickUpstream, hroute, hresolved, htargets]
        have hlast : afterRead ctx lookup ((s.index + 1) % 2 ^ 64) ⟨s.table, i⟩ r
            (.targetAt (s.index % r.targets.length)) =
              (.returned (r.targets[s.index % r.targets.length]?.bind lookup),
                (s.index + 1) % 2 ^ 64) := rfl
        obtain ⟨s', hrun, -, -, hend, hindex, hreturned⟩ := run_lastRead hr hlast
          ((s.table, s.table) :: (s.table, s.table) :: (s.table, s.table) :: (s.table, s.table) ::
            s.reads)
        have hall : (machine ctx).run s (List.replicate 6 (.request lookup r)) = some s' := by
          simp only [List.replicate]
          rw [hfirst, run_reading hr hread, run_reading hr hread', run_reading hr hany,
            run_reading hr rfl, hrun]
        rw [hpick]
        exact ⟨_, s', hall, (hreturned _ rfl).1, hend, hindex, (hreturned _ rfl).2⟩
    · have hread : afterRead ctx lookup s.index ⟨s.table, i⟩ r .resolvedEmpty =
          (.reading ⟨s.table, i⟩ (.resolvedAny s.index), (s.index + 1) % 2 ^ 64) :=
        if_neg hresolved
      have hany : afterRead ctx lookup ((s.index + 1) % 2 ^ 64) ⟨s.table, i⟩ r
          (.resolvedAny s.index) =
            (.reading ⟨s.table, i⟩ (.resolvedSize s.index), (s.index + 1) % 2 ^ 64) := by
        simp [afterRead, hresolved]
      have hpick : s.config.pickUpstream lookup s.index ctx.path =
          (r.resolvedTargets[s.index % r.resolvedTargets.length]?, (s.index + 1) % 2 ^ 64) := by
        simp [GatewayConfig.pickUpstream, hroute, hresolved]
      have hlast : afterRead ctx lookup ((s.index + 1) % 2 ^ 64) ⟨s.table, i⟩ r
          (.resolvedAt (s.index % r.resolvedTargets.length)) =
            (.returned r.resolvedTargets[s.index % r.resolvedTargets.length]?,
              (s.index + 1) % 2 ^ 64) := rfl
      obtain ⟨s', hrun, -, -, hend, hindex, hreturned⟩ := run_lastRead hr hlast
        ((s.table, s.table) :: (s.table, s.table) :: (s.table, s.table) :: s.reads)
      have hall : (machine ctx).run s (List.replicate 5 (.request lookup r)) = some s' := by
        simp only [List.replicate]
        rw [hfirst, run_reading hr hread, run_reading hr hany, run_reading hr rfl, hrun]
      rw [hpick]
      exact ⟨_, s', hall, (hreturned _ rfl).1, hend, hindex, (hreturned _ rfl).2⟩

/-! ## One configuration -/

/-- Every read went to the table that was installed, and the route whose token was checked and the
route whose target is returned are of one table. -/
structure OneConfiguration (s : RouteSystem A) : Prop where
  reads : ∀ r ∈ s.reads, r.1 = r.2
  tables : ∀ c ∈ s.checked, ∀ t ∈ s.returned, c = t

/-- The request depends on a route: it holds a pointer to one, or it has passed the filter by the
token of one. -/
def HoldsRoute (s : RouteSystem A) : Prop :=
  match s.phase with
  | .reading _ _ => True
  | .passed => s.checked.isSome
  | _ => False

/-- A load that succeeds does so while the request depends on no route. -/
def KeepsRoute (s : RouteSystem A) (a : RouteAction A) : Prop :=
  ∀ call, a = .load call → (s.loaded call).1 = true → ¬ s.HoldsRoute

/-- The request has its answer, or has been given up. -/
def Finished (s : RouteSystem A) : Prop :=
  match s.phase with
  | .refused | .returned _ => True
  | _ => False

/-- What holds as long as the route is kept: whatever the request depends on is of the installed
table, and it has no target yet. -/
structure Invariant (s : RouteSystem A) : Prop where
  one : s.OneConfiguration
  reading : ∀ rc read, s.phase = .reading rc read → rc.table = s.table
  checked : ∀ c ∈ s.checked, s.Finished ∨ (s.HoldsRoute ∧ c = s.table)
  returned : ¬ s.Finished → s.returned = none

lemma invariant_init (config : GatewayConfig A) (cache : JwtCache) (index : ℕ) :
    (init config cache index).Invariant :=
  ⟨⟨by simp [init], by simp [init]⟩, by simp [init], by simp [init], fun _ => rfl⟩

/-! ## The steps keep the invariant -/

/-- What a read can lead to. -/
lemma afterRead_cases (ctx : GatewayRequestContext) (lookup : Bytes → Option A) (index : ℕ)
    (rc : RoutePtr) (r : RouteConfig A) (read : RouteRead) :
    let phase := (afterRead ctx lookup index rc r read).1
    phase = .passed ∨ phase = .refused ∨ (∃ read', phase = .reading rc read') ∨
      ∃ addr, phase = .returned addr := by
  cases read with
  | tokenEmpty =>
    by_cases htoken : r.requiredToken = []
    · exact .inl (by simp [afterRead, htoken])
    · cases hclient : AuthFilter.token ctx.rawRequest with
      | none => exact .inr (.inl (by simp [afterRead, htoken, hclient]))
      | some t => exact .inr (.inr (.inl ⟨.token t, by simp [afterRead, htoken, hclient]⟩))
  | token t =>
    by_cases htoken : t ≠ r.requiredToken
    · exact .inr (.inl (if_pos htoken))
    · exact .inl (if_neg htoken)
  | resolvedEmpty =>
    by_cases hempty : r.resolvedTargets = []
    · exact .inr (.inr (.inl ⟨.targetsEmpty, by simp [afterRead, hempty]⟩))
    · exact .inr (.inr (.inl ⟨.resolvedAny index, by simp [afterRead, hempty]⟩))
  | targetsEmpty =>
    by_cases hempty : r.targets = []
    · exact .inr (.inr (.inr ⟨none, by simp [afterRead, hempty]⟩))
    · exact .inr (.inr (.inl ⟨.resolvedAny index, by simp [afterRead, hempty]⟩))
  | resolvedAny i | resolvedSize i | targetsSize i => exact .inr (.inr (.inl ⟨_, rfl⟩))
  | resolvedAt i | targetAt i => exact .inr (.inr (.inr ⟨_, rfl⟩))

/-- A read through a pointer into the installed table. -/
lemma Invariant.readRoute (hs : s.Invariant) {rc : RoutePtr} {read : RouteRead}
    (hphase : s.phase = .reading rc read) (lookup : Bytes → Option A) (stale : RouteConfig A) :
    (s.readRoute ctx lookup stale rc read).Invariant := by
  have htable := hs.reading rc read hphase
  have hholds : s.HoldsRoute := by simp [HoldsRoute, hphase]
  have hnot : ¬ s.Finished := by simp [Finished, hphase]
  have hchecked : ∀ c ∈ s.checked, c = s.table := fun c hc =>
    ((hs.checked c hc).resolve_left hnot).2
  have hnone := hs.returned hnot
  have hreads : ∀ r ∈ (rc.table, s.table) :: s.reads, r.1 = r.2 := by
    intro r hr
    rcases List.mem_cons.mp hr with rfl | hr
    · exact htable
    · exact hs.one.reads r hr
  have hcases := afterRead_cases ctx lookup s.index rc (s.deref rc stale) read
  simp only [RouteSystem.readRoute]
  revert hcases
  generalize afterRead ctx lookup s.index rc (s.deref rc stale) read = next
  obtain ⟨phase, index⟩ := next
  rintro (rfl | rfl | ⟨read', rfl⟩ | ⟨addr, rfl⟩)
  · refine ⟨⟨hreads, by simp [hnone]⟩, by simp, fun c hc => ?_, fun _ => hnone⟩
    obtain rfl := Option.mem_some_iff.mp hc
    exact .inr ⟨rfl, htable⟩
  · exact ⟨⟨hreads, by simp [hnone]⟩, by simp, fun c hc => .inl trivial, fun _ => hnone⟩
  · refine ⟨⟨hreads, by simp [hnone]⟩, ?_, fun c hc => .inr ⟨trivial, hchecked c hc⟩,
      fun _ => hnone⟩
    rintro rc' read'' ⟨rfl, rfl⟩
    exact htable
  · refine ⟨⟨hreads, ?_⟩, by simp, fun c hc => .inl trivial, fun h => absurd trivial h⟩
    cases addr with
    | none => simp [hnone]
    | some a =>
      rintro c hc t ht
      obtain rfl := Option.mem_some_iff.mp ht
      exact (hchecked c hc).trans htable.symm

/-- A request that goes on to a phase without a read. -/
lemma Invariant.moveTo (hs : s.Invariant) (hnot : ¬ s.Finished) {phase : RoutePhase A}
    (hreading : ∀ rc read, phase = .reading rc read → rc.table = s.table)
    (hchecked : ∀ c ∈ s.checked, { s with phase }.Finished ∨ { s with phase }.HoldsRoute) :
    ({ s with phase } : RouteSystem A).Invariant := by
  have hnone := hs.returned hnot
  refine ⟨⟨hs.one.reads, by simp [hnone]⟩, hreading, fun c hc => ?_, fun _ => hnone⟩
  have htable := ((hs.checked c hc).resolve_left hnot).2
  exact (hchecked c hc).imp_right fun h => ⟨h, htable⟩

lemma Invariant.stepRequest (hs : s.Invariant) {lookup : Bytes → Option A} {stale : RouteConfig A}
    (h : s.stepRequest ctx lookup stale = some s') : s'.Invariant := by
  unfold RouteSystem.stepRequest at h
  cases hphase : s.phase with
  | enter =>
    simp only [hphase, Option.some.injEq] at h
    subst h
    refine hs.moveTo (by simp [Finished, hphase]) (fun rc read heq => ?_) fun c hc => ?_
    · split_ifs at heq
    · simpa [Finished, HoldsRoute, hphase] using hs.checked c hc
  | matchAuth =>
    simp only [hphase, Option.some.injEq] at h
    subst h
    refine hs.moveTo (by simp [Finished, hphase]) (fun rc read heq => ?_) fun c hc => ?_
    · cases hmatch : s.config.matchRoute ctx.path <;> simp [hmatch] at heq
      exact congrArg RoutePtr.table heq.1.symm
    · simpa [Finished, HoldsRoute, hphase] using hs.checked c hc
  | passed =>
    simp only [hphase, Option.some.injEq] at h
    subst h
    refine hs.moveTo (by simp [Finished, hphase]) (fun rc read heq => ?_) fun c hc => ?_
    · cases hmatch : s.config.matchRoute ctx.path <;> simp [hmatch] at heq
      exact congrArg RoutePtr.table heq.1.symm
    · cases hmatch : s.config.matchRoute ctx.path with
      | none => exact .inl trivial
      | some i => exact .inr trivial
  | reading rc read =>
    simp only [hphase, Option.some.injEq] at h
    subst h
    exact hs.readRoute hphase lookup stale
  | jwt | refused | returned addr => simp [hphase] at h

lemma Invariant.load (hs : s.Invariant) {call : ReloadAction A}
    (hkeep : (s.loaded call).1 = true → ¬ s.HoldsRoute) : (s.load call).Invariant := by
  by_cases hok : (s.loaded call).1 = true
  · have hfree := hkeep hok
    refine ⟨⟨hs.one.reads, hs.one.tables⟩, fun rc read heq => ?_, fun c hc => ?_, hs.returned⟩
    · have hphase : s.phase = .reading rc read := heq
      exact absurd (by simp [HoldsRoute, hphase]) hfree
    · exact .inl ((hs.checked c hc).resolve_right fun h => hfree h.1)
  · have htable : (s.load call).table = s.table := if_neg hok
    refine ⟨⟨hs.one.reads, hs.one.tables⟩, fun rc read heq => ?_, fun c hc => ?_, hs.returned⟩
    · exact (hs.reading rc read heq).trans htable.symm
    · exact (hs.checked c hc).imp_right fun h => ⟨h.1, h.2.trans htable.symm⟩

/-- A step that keeps the route keeps the invariant. -/
lemma invariant_step {a : RouteAction A} (hs : s.Invariant) (hkeep : s.KeepsRoute a)
    (h : (machine ctx).step s a = some s') : s'.Invariant := by
  cases a with
  | request lookup stale => exact hs.stepRequest h
  | jwt pass =>
    cases hphase : s.phase with
    | jwt =>
      simp only [machine, hphase, Option.some.injEq] at h
      subst h
      refine hs.moveTo (by simp [Finished, hphase]) (fun rc read heq => ?_) fun c hc => ?_
      · split_ifs at heq
      · simpa [Finished, HoldsRoute, hphase] using hs.checked c hc
    | _ => simp [machine, hphase] at h
  | load call =>
    obtain rfl := Option.some.inj h
    exact hs.load (hkeep call rfl)

/-! ## A load at the wrong moment -/

lemma routable_of_loadFromFile {config : GatewayConfig A} {cache : JwtCache}
    {lookup : Bytes → Option A} {path : Bytes} {file : Option Bytes}
    (h : (config.loadFromFile cache lookup path file).1 = true) :
    ∃ text, (config.loadFromFile cache lookup path file).2.1.Routable text := by
  rcases config.loadFromFile_cases cache lookup path file with
    ⟨hfails, -⟩ | ⟨text, -, -, hroutable⟩
  · rw [hfails] at h
    cases h
  · exact ⟨text, hroutable⟩

lemma routable_of_loaded {call : ReloadAction A} (h : (s.loaded call).1 = true) :
    ∃ text, (s.loaded call).2.1.Routable text := by
  cases call with
  | loadFromFile lookup path file => exact routable_of_loadFromFile h
  | reload lookup file =>
    simp only [loaded, GatewayConfig.reload] at h ⊢
    split_ifs at h ⊢
    exact routable_of_loadFromFile h

lemma isSome_pickUpstream {config : GatewayConfig A} {path : Bytes} {r : RouteConfig A}
    (hroute : config.routeOf path = some r) (hne : r.targets ≠ []) (addr : A) (index : ℕ) :
    (config.pickUpstream (fun _ => some addr) index path).1.isSome = true := by
  by_cases hresolved : r.resolvedTargets = []
  · have hlt : index % r.targets.length < r.targets.length :=
      Nat.mod_lt _ (List.length_pos_of_ne_nil hne)
    simp [GatewayConfig.pickUpstream, hroute, hresolved, hne, hlt]
  · have hlt : index % r.resolvedTargets.length < r.resolvedTargets.length :=
      Nat.mod_lt _ (List.length_pos_of_ne_nil hresolved)
    simp [GatewayConfig.pickUpstream, hroute, hresolved, hlt]

/-- After a load that succeeds while the request depends on a route, the request can see two
configurations. -/
theorem reaches_split_of_not_keepsRoute (addr : A) (hpath : ctx.path.head? = some 47)
    {a : RouteAction A} (hs : s.Invariant) (hkeep : ¬ s.KeepsRoute a)
    (h : (machine ctx).step s a = some s') :
    ∃ t, (machine ctx).Reaches s' t ∧ ¬ t.OneConfiguration := by
  simp only [KeepsRoute, Classical.not_forall, not_not] at hkeep
  obtain ⟨call, rfl, hok, hholds⟩ := hkeep
  obtain rfl := Option.some.inj h
  have htable : (s.load call).table = s.table + 1 := if_pos hok
  cases hphase : s.phase with
  | reading rc read =>
    -- The next read follows a pointer into the replaced table.
    have hrc := hs.reading rc read hphase
    refine ⟨(s.load call).readRoute ctx (fun _ => none) ⟨[], [], [], false, []⟩ rc read,
      ⟨[.request (fun _ => none) ⟨[], [], [], false, []⟩], ?_⟩, fun hone => ?_⟩
    · have hphase' : (s.load call).phase = .reading rc read := hphase
      simp [Machine.run, machine, stepRequest, hphase']
    · have hread := hone.reads (rc.table, (s.load call).table) List.mem_cons_self
      simp only [htable, hrc] at hread
      omega
  | passed =>
    -- The path is matched again, in the new table, and that has a target for it.
    obtain ⟨c, hc⟩ : ∃ c, s.checked = some c := by
      simpa [HoldsRoute, hphase, Option.isSome_iff_exists] using hholds
    have hcheck : c = s.table :=
      ((hs.checked c hc).resolve_left (by simp [Finished, hphase])).2
    obtain ⟨text, hroutable⟩ := routable_of_loaded hok
    obtain ⟨i, r, hmatch, hr, hne, -⟩ := hroutable.matched ctx.path hpath
    have hroute : (s.load call).config.routeOf ctx.path = some r := by
      simp only [GatewayConfig.routeOf]
      exact (congrArg (Option.bind · _) hmatch).trans hr
    have hroutes : ∀ j, (s.load call).config.matchRoute ctx.path = some j →
        ∃ r, (s.load call).config.routes[j]? = some r := by
      intro j hj
      obtain rfl : i = j := Option.some.inj (hmatch.symm.trans hj)
      exact ⟨r, hr⟩
    obtain ⟨as, t, hrun, hchecked, -, -, hreturned⟩ :=
      alone_pick (s := s.load call) hphase (fun _ => some addr) hroutes
    refine ⟨t, ⟨as, hrun⟩, fun hone => ?_⟩
    have hreturn := hreturned (isSome_pickUpstream hroute hne addr _)
    have heq := hone.tables c (hchecked.trans hc) _ hreturn
    omega
  | enter | jwt | matchAuth | refused | returned addr =>
    simp [HoldsRoute, hphase] at hholds

/-- **One request, one configuration.**  On a run on which no load succeeds while the request
depends on a route, every read goes to the installed table, and the token is checked and the target
taken from one table. -/
theorem oneConfiguration_of_keepsRoute (ctx : GatewayRequestContext) (config : GatewayConfig A)
    (cache : JwtCache) (index : ℕ) (as : List (RouteAction A))
    (hG : (machine ctx).Guarded KeepsRoute (init config cache index) as) :
    (machine ctx).Throughout OneConfiguration (init config cache index) as :=
  Machine.throughout_of_guarded (fun _ _ _ hs hkeep h => invariant_step hs hkeep h)
    (fun _ hs => hs.one) (invariant_init config cache index) hG

/-- A file with two routes and a token for the second. -/
def sampleFile (target : Bytes) : Bytes :=
  ascii "route / 10.0.0.1:80\nroute /a " ++ target ++ ascii "\ntoken /a t\n"

/-- The gateway after a load. -/
def sampleStart : RouteSystem Bytes :=
  let r := GatewayConfig.init.loadFromFile .init some (ascii "gateway.conf")
    (some (sampleFile (ascii "10.0.0.2:80")))
  init r.2.1 r.2.2 0

/-- A request that carries the token. -/
def sampleRequest : GatewayRequestContext where
  method := ascii "GET"
  path := ascii "/a"
  version := ascii "HTTP/1.1"
  clientAddress := ascii "10.0.0.9:4711"
  rawRequest := ascii "GET /a HTTP/1.1\r\nAuthorization: Bearer t\r\n\r\n"

/-- The next step of the request. -/
def sampleStep : RouteAction Bytes := .request some ⟨[], [], [], false, []⟩

/-- A reload that finds another target. -/
def sampleReload : RouteAction Bytes :=
  .load (.reload some (some (sampleFile (ascii "10.0.0.3:80"))))

/-- The steps of a request keep the route. -/
lemma guarded_requests (s : RouteSystem A) (lookup : Bytes → Option A) (stale : RouteConfig A)
    (n : ℕ) : (machine ctx).Guarded KeepsRoute s (List.replicate n (.request lookup stale)) := by
  induction n generalizing s with
  | zero => trivial
  | succ n ih => exact ⟨fun call h => (by cases h), fun t _ => ih t⟩

/-- A reload and then the whole request. -/
theorem oneConfiguration_sample :
    (∃ t, (machine sampleRequest).run sampleStart
        (sampleReload :: List.replicate 9 sampleStep) = some t ∧
      t.checked = some 1 ∧ t.returned = some 1) ∧
    (machine sampleRequest).Throughout OneConfiguration sampleStart
      (sampleReload :: List.replicate 9 sampleStep) := by
  constructor
  · have hany : ((machine sampleRequest).run sampleStart
        (sampleReload :: List.replicate 9 sampleStep)).any
          (fun t => t.checked = some 1 ∧ t.returned = some 1) = true := by
      decide +kernel
    obtain ⟨t, ht, h⟩ := (Option.any_eq_true _ _).mp hany
    exact ⟨t, ht, by simpa using h⟩
  · refine oneConfiguration_of_keepsRoute _ _ _ _ _ ⟨fun call _ _ h => h, fun t _ => ?_⟩
    exact guarded_requests t _ _ 9

/-- A reload between `match_route` and the first read of the token, and one between the filter and
`pick_upstream`. -/
theorem route_outlives_table :
    (∃ t, (machine sampleRequest).run sampleStart
        [sampleStep, sampleStep, sampleReload, sampleStep] = some t ∧
      (0, 1) ∈ t.reads ∧ ¬ t.OneConfiguration) ∧
    ∃ t, (machine sampleRequest).run sampleStart
        (List.replicate 4 sampleStep ++ sampleReload :: List.replicate 5 sampleStep) = some t ∧
      t.checked = some 0 ∧ t.returned = some 1 ∧ ¬ t.OneConfiguration := by
  constructor
  · have hany : ((machine sampleRequest).run sampleStart
        [sampleStep, sampleStep, sampleReload, sampleStep]).any
          (fun t => (0, 1) ∈ t.reads) = true := by
      decide +kernel
    obtain ⟨t, ht, h⟩ := (Option.any_eq_true _ _).mp hany
    have hread : (0, 1) ∈ t.reads := by simpa using h
    exact ⟨t, ht, hread, fun hone => absurd (hone.reads _ hread) (by decide)⟩
  · have hany : ((machine sampleRequest).run sampleStart
        (List.replicate 4 sampleStep ++ sampleReload :: List.replicate 5 sampleStep)).any
          (fun t => t.checked = some 0 ∧ t.returned = some 1) = true := by
      decide +kernel
    obtain ⟨t, ht, h⟩ := (Option.any_eq_true _ _).mp hany
    obtain ⟨hchecked, hreturned⟩ : t.checked = some 0 ∧ t.returned = some 1 := by simpa using h
    exact ⟨t, ht, hchecked, hreturned,
      fun hone => absurd (hone.tables 0 hchecked 1 hreturned) (by decide)⟩

end RouteSystem

end CoroutineGateway
