import CoroutineGateway.Properties.JwtCacheTransparency

/-!
# Key rotation

`AuthFilter::apply` is not atomic: a request asks the cache, verifies its token against the
settings that are loaded at that moment, reads the expiry, and puts the token into the cache, and
a reload may commit between any two of these steps.  `RotationSystem` is the interleaving of any
number of requests with reloads, each step atomic; `alone_eq` says that the steps of one request
with nothing in between are `AuthFilter::apply`.

The cache is to hold nothing but tokens that the loaded settings accept (`Current`).  It does not:
a request that verified its token before a reload can put it into the cache that the reload has
just emptied (`oldToken_cached`).  `current_throughout_iff` says exactly when the cache stays
current: on the runs where every token that is put into the cache is one that the settings loaded
at that moment accept.
-/

namespace CoroutineGateway

/-- How far a request is in `AuthFilter::apply`. -/
inductive AuthPhase where
  | idle
  | lookup (token : Bytes)
  | verify (token : Bytes)
  | getExp (token : Bytes)
  | putValid (token : Bytes) (exp : ℤ)
  deriving DecidableEq

/-- The loaded settings, the cache, and the requests. -/
structure RotationSystem (R : Type*) where
  settings : Jwt.Settings
  cache : JwtCache
  phase : R → AuthPhase

/-- The atomic steps. -/
inductive RotationAction (R : Type*) where
  /-- A request with a token enters the filter. -/
  | enter (r : R) (token : Bytes)
  /-- The next step of a request; `now` is the clock, where the step reads one. -/
  | step (r : R) (now : ℤ)
  /-- The critical section of a successful load. -/
  | reload (settings : Jwt.Settings)
  /-- A `jwt_cache_capacity` line met by a load. -/
  | setCapacity (cap : Capacity)

namespace RotationSystem

variable {R : Type*} [DecidableEq R] (ssl : OpenSsl)

/-- A request goes on to a phase. -/
def move (s : RotationSystem R) (r : R) (p : AuthPhase) : RotationSystem R :=
  { s with phase := Function.update s.phase r p }

/-- The step of a request. -/
def stepRequest (s : RotationSystem R) (r : R) (now : ℤ) : Option (RotationSystem R) :=
  match s.phase r with
  | .idle => none
  | .lookup token =>
    let (cached, cache) := s.cache.isValidCached token now
    some ({ s with cache }.move r (if cached then .idle else .verify token))
  | .verify token =>
    some (s.move r (if Jwt.accepts ssl now token s.settings then .getExp token else .idle))
  | .getExp token =>
    let exp := (Jwt.getExp ssl token).getD 0
    some (s.move r (if exp > 0 then .putValid token exp else .idle))
  | .putValid token exp =>
    some ({ s with cache := s.cache.putValid token exp }.move r .idle)

/-- The interleavings of requests and reloads. -/
def machine : Machine (RotationSystem R) (RotationAction R) where
  step s
    | .enter r token => if s.phase r = .idle then some (s.move r (.lookup token)) else none
    | .step r now => s.stepRequest ssl r now
    | .reload settings => some { s with settings, cache := s.cache.clear }
    | .setCapacity cap => some { s with cache := s.cache.setCapacity cap }

/-- A cache as it is after construction, and no request. -/
def init (settings : Jwt.Settings) (cap : Capacity) : RotationSystem R :=
  ⟨settings, LruCache.init cap, fun _ => .idle⟩

/-- Whatever the cache answers true for, `verify_hs256` would accept under the loaded settings. -/
def Current (s : RotationSystem R) : Prop :=
  ∀ token now, (s.cache.isValidCached token now).1 = true →
    Jwt.accepts ssl now token s.settings = true

/-- A token that is put into the cache is one that `verify_hs256` accepts, at some time, under
the settings that are then loaded. -/
def PutsAccepted (s : RotationSystem R) (a : RotationAction R) : Prop :=
  ∀ r now token exp, a = .step r now → s.phase r = .putValid token exp →
    ∃ clock, Jwt.accepts ssl clock token s.settings = true

variable {ssl} {s s' t : RotationSystem R}

/-! ## The steps of one request -/

/-- The steps of a request with nothing in between are those of `AuthFilter::apply`. -/
theorem alone_eq {A : Type*} {cfg : GatewayConfig A} {ctx : GatewayRequestContext}
    (hjwt : cfg.jwtEnabled = true) (hset : s.settings = cfg.jwtSettings) {r : R} {token : Bytes}
    (htoken : AuthFilter.token ctx.rawRequest = some token) (hidle : s.phase r = .idle)
    (clocks : Clocks) :
    (machine ssl).Reaches s
      { s with cache := (AuthFilter.apply ssl cfg s.cache ctx clocks).2 } := by
  simp only [AuthFilter.apply, hjwt, if_true, AuthFilter.applyJwt, htoken]
  by_cases hcached : (s.cache.isValidCached token clocks.auth).1 = true
  · refine ⟨[.enter r token, .step r clocks.auth], ?_⟩
    simp [Machine.run, machine, stepRequest, move, hidle, hcached]
  · cases hverify : Jwt.verifyHs256 ssl clocks.verify token cfg.jwtSettings with
    | error e =>
      refine ⟨[.enter r token, .step r clocks.auth, .step r clocks.verify], ?_⟩
      simp [Machine.run, machine, stepRequest, move, hidle, hcached, Jwt.accepts, hset, hverify,
        Except.isOk, Except.toBool]
    | ok u =>
      by_cases hexp : (Jwt.getExp ssl token).getD 0 > 0
      · refine ⟨[.enter r token, .step r clocks.auth, .step r clocks.verify, .step r 0,
          .step r 0], ?_⟩
        simp [Machine.run, machine, stepRequest, move, hidle, hcached, Jwt.accepts, hset, hverify,
          Except.isOk, Except.toBool, AuthFilter.remember, hexp]
      · refine ⟨[.enter r token, .step r clocks.auth, .step r clocks.verify, .step r 0], ?_⟩
        simp [Machine.run, machine, stepRequest, move, hidle, hcached, Jwt.accepts, hset, hverify,
          Except.isOk, Except.toBool, AuthFilter.remember, hexp]

/-! ## The invariant -/

variable (ssl) in
/-- The cache fits the loaded settings, and a request that is about to put a token into the cache
does so with the token's own expiry. -/
structure Invariant (s : RotationSystem R) : Prop where
  trusted : s.cache.Trusted ssl s.settings
  expiry : ∀ r token exp, s.phase r = .putValid token exp → Jwt.getExp ssl token = some exp

omit [DecidableEq R] in
lemma invariant_init (settings : Jwt.Settings) (cap : Capacity) :
    Invariant ssl (init settings cap : RotationSystem R) :=
  ⟨JwtCache.trusted_init cap, by simp [init]⟩

omit [DecidableEq R] in
lemma Invariant.current (hs : s.Invariant ssl) : s.Current ssl :=
  fun _ _ h => hs.trusted.accepts_of_cached h

/-- A request goes on: the invariant asks that the new cache fits, and that the new phase, if it
is the last one, carries the token's expiry. -/
lemma Invariant.move (hs : s.Invariant ssl) {c : JwtCache} (hc : c.Trusted ssl s.settings) (r : R)
    {p : AuthPhase} (hp : ∀ token exp, p = .putValid token exp → Jwt.getExp ssl token = some exp) :
    ({ s with cache := c }.move r p).Invariant ssl := by
  refine ⟨hc, fun r' token exp h => ?_⟩
  by_cases hr : r' = r
  · subst hr
    simp only [RotationSystem.move, Function.update_self] at h
    exact hp token exp h
  · simp only [RotationSystem.move, Function.update_of_ne hr] at h
    exact hs.expiry r' token exp h

/-- The steps of a request keep the invariant, if what it puts into the cache is accepted. -/
lemma Invariant.stepRequest (hs : s.Invariant ssl) {r : R} {now : ℤ}
    (hput : s.PutsAccepted ssl (.step r now)) (h : s.stepRequest ssl r now = some s') :
    s'.Invariant ssl := by
  unfold RotationSystem.stepRequest at h
  cases hphase : s.phase r with
  | idle => simp [hphase] at h
  | lookup token =>
    simp only [hphase, Option.some.injEq] at h
    subst h
    refine hs.move (hs.trusted.isValidCached token now) r ?_
    split_ifs <;> simp
  | verify token =>
    simp only [hphase, Option.some.injEq] at h
    subst h
    refine hs.move hs.trusted r ?_
    split_ifs <;> simp
  | getExp token =>
    simp only [hphase, Option.some.injEq] at h
    subst h
    refine hs.move hs.trusted r ?_
    split_ifs with hpos
    · rintro token' exp ⟨rfl, rfl⟩
      cases hexp : Jwt.getExp ssl token with
      | none => simp [hexp] at hpos
      | some exp => rfl
    · simp
  | putValid token exp =>
    simp only [hphase, Option.some.injEq] at h
    subst h
    obtain ⟨clock, haccepts⟩ := hput r now token exp rfl hphase
    exact hs.move (hs.trusted.putValid (Jwt.accepts_iff.mp haccepts).1
      (hs.expiry r token exp hphase)) r (by simp)

/-- A step that puts in only what is accepted keeps the invariant. -/
lemma invariant_step {a : RotationAction R} (hs : s.Invariant ssl) (hput : s.PutsAccepted ssl a)
    (h : (machine ssl).step s a = some s') : s'.Invariant ssl := by
  cases a with
  | enter r token =>
    by_cases hidle : s.phase r = .idle
    · obtain rfl := Option.some.inj ((if_pos hidle).symm.trans h)
      exact hs.move hs.trusted r (by simp)
    · simp [machine, hidle] at h
  | step r now => exact hs.stepRequest hput h
  | reload settings =>
    obtain rfl := Option.some.inj h
    exact ⟨JwtCache.trusted_assign _, hs.expiry⟩
  | setCapacity cap =>
    obtain rfl := Option.some.inj h
    exact ⟨JwtCache.trusted_assign cap, hs.expiry⟩

/-- Putting in a token that no clock makes acceptable: one second before its expiry the cache
answers true for it. -/
lemma not_current_of_put {a : RotationAction R} (hs : s.Invariant ssl)
    (hput : ¬ s.PutsAccepted ssl a) (h : (machine ssl).step s a = some s') : ¬ s'.Current ssl := by
  intro hcurrent
  refine hput ?_
  rintro r now token exp rfl hphase
  refine ⟨exp - 1, ?_⟩
  simp only [machine, RotationSystem.stepRequest, hphase, Option.some.injEq] at h
  subst h
  refine hcurrent token (exp - 1) ((JwtCache.isValidCached_iff ?_).mpr ⟨exp, ?_, by omega⟩)
  · exact hs.trusted.sound.push token exp
  · change (token, exp) ∈ LruCache.bindings (s.cache.putValid token exp)
    rw [JwtCache.putValid, hs.trusted.sound.bindings_push]
    exact RecencyList.mem_put_self

/-! ## When the cache stays current -/

/-- The cache answers true only for what the loaded settings accept, in every state of a run,
exactly when the run never puts a token into the cache that the settings loaded at that moment
do not accept. -/
theorem current_throughout_iff (settings : Jwt.Settings) (cap : Capacity)
    {as : List (RotationAction R)} (hrun : (machine ssl).run (init settings cap) as = some t) :
    (machine ssl).Throughout (Current ssl) (init settings cap) as ↔
      (machine ssl).Guarded (PutsAccepted ssl) (init settings cap) as :=
  Machine.throughout_iff_guarded (I := Invariant ssl)
    (fun _ _ _ hs hput h => invariant_step hs hput h) (fun _ hs => hs.current)
    (fun _ _ _ hs hput h => not_current_of_put hs hput h) (invariant_init settings cap) hrun

/-- The settings before and after the secret is changed. -/
def oldSettings : Jwt.Settings := ⟨ascii "old", [], []⟩

def newSettings : Jwt.Settings := ⟨ascii "new", [], []⟩

/-- A request verifies its token and puts it into the cache before the secret is changed. -/
def timelyRun : List (RotationAction Unit) :=
  [.enter () AuthSystem.sampleToken, .step () 5, .step () 5, .step () 5, .step () 5,
    .reload newSettings]

theorem current_throughout_timelyRun_iff :
    ∃ t, (machine AuthSystem.sampleSsl).run (init oldSettings JwtCache.defaultCapacity)
        timelyRun = some t ∧
      ((machine AuthSystem.sampleSsl).Throughout (Current AuthSystem.sampleSsl)
          (init oldSettings JwtCache.defaultCapacity) timelyRun ↔
        (machine AuthSystem.sampleSsl).Guarded (PutsAccepted AuthSystem.sampleSsl)
          (init oldSettings JwtCache.defaultCapacity) timelyRun) := by
  have hsome : ((machine AuthSystem.sampleSsl).run (init oldSettings JwtCache.defaultCapacity)
      timelyRun).isSome = true := by decide +kernel
  obtain ⟨t, ht⟩ := Option.isSome_iff_exists.mp hsome
  exact ⟨t, ht, current_throughout_iff _ _ ht⟩

/-- The same request, with the reload between `verify_hs256` and `put_valid`. -/
def lateRun : List (RotationAction Unit) :=
  [.enter () AuthSystem.sampleToken, .step () 5, .step () 5, .step () 5, .reload newSettings,
    .step () 5]

/-- The token signed with the old secret ends up in the cache after the reload: the cache answers
true for it, and `verify_hs256` would not accept it. -/
theorem oldToken_cached :
    ∃ t, (machine AuthSystem.sampleSsl).run (init oldSettings JwtCache.defaultCapacity)
        lateRun = some t ∧
      (t.cache.isValidCached AuthSystem.sampleToken 6).1 = true ∧
      Jwt.accepts AuthSystem.sampleSsl 6 AuthSystem.sampleToken t.settings = false := by
  have hany : ((machine AuthSystem.sampleSsl).run (init oldSettings JwtCache.defaultCapacity)
      lateRun).any (fun t => (t.cache.isValidCached AuthSystem.sampleToken 6).1 &&
        !Jwt.accepts AuthSystem.sampleSsl 6 AuthSystem.sampleToken t.settings) = true := by
    decide +kernel
  obtain ⟨t, ht, h⟩ := (Option.any_eq_true _ _).mp hany
  exact ⟨t, ht, by simpa using h⟩

end RotationSystem

end CoroutineGateway
