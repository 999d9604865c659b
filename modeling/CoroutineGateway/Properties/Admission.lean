import CoroutineGateway.Properties.ClientHandlers
import CoroutineGateway.Properties.FaithfulRelay
import CoroutineGateway.Properties.JwtCacheTransparency

/-!
# Only admitted requests reach an upstream

`Admits` says, without the cache of tokens and without the order of the filters, which request the
handler of a client is to forward: one that was read within the limit that was in force when its
headers were complete, and that the gateway admits as it is when `process` begins.  The gateway
admits a request whose client is not blacklisted and within the rate, which carries a token that is
genuine and not expired, or the one its route asks for, and for which there is an upstream
(`Admitted`).  `toUpstream_of_run` is that every handler forwards this request, as far as the
upstream accepts it, and nothing else, at any moment and whatever the other handlers do while it
waits in a system call.

The other handlers may change the settings any number of times, by requests to the path that reloads
the configuration; `Trusted` carries through a run that the cache fits the settings.  The handlers
are those of one worker thread: with more of them a reload could come in between two filters.
-/

namespace CoroutineGateway

open GatewayConn

variable {A : Type*} {ssl : OpenSsl} {g : Gateway A} {env : Surroundings A} {conn : GatewayConn}

namespace Gateway

/-- The request carries a token that its route, or the gateway, asks for. -/
def Authorizes (ssl : OpenSsl) (cfg : GatewayConfig A) (now : ℤ) (request path : Bytes) : Prop :=
  if cfg.jwtEnabled then
    ∃ token ∈ AuthFilter.token request,
      Jwt.Genuine ssl token cfg.jwtSettings ∧ ∀ exp ∈ Jwt.getExp ssl token, now ≤ exp
  else
    ∀ rc ∈ cfg.routeOf path,
      rc.requiredToken = [] ∨ AuthFilter.token request = some rc.requiredToken

/-- What is asked of a request that is parsed and is not for the gateway itself. -/
structure Admitted (g : Gateway A) (env : Surroundings A) (request path : Bytes) : Prop where
  listed : env.remoteAddress.getD [] = [] ∨ env.remoteAddress.getD [] ∉ g.config.blacklist
  rate : (g.filters.rateLimit.apply g.config env.clocks.rate).1 = .pass
  authorized : Authorizes env.ssl g.config env.clocks.auth request path
  upstream : (g.config.pickUpstream env.lookup g.index path).1.isSome ∧ env.connects = true

/-- The cache fits the loaded settings. -/
def Trusted (ssl : OpenSsl) (g : Gateway A) : Prop :=
  g.filters.cache.Trusted ssl g.config.jwtSettings

/-! ## The cache fits the settings -/

lemma trusted_start (lookup : Bytes → Option A) (files : Bytes → Option (Option Bytes)) :
    (start lookup files).Trusted ssl := by
  have hinit : (init : Gateway A).Trusted ssl := JwtCache.trusted_init _
  have hload : ∀ path file, (init.load lookup path file).Trusted ssl := by
    intro path file
    have hpath : (init : Gateway A).filters.cache.Trusted ssl
        (GatewayConfig.init.setConfigPath (A := A) path).jwtSettings := hinit
    exact GatewayConfig.trusted_loadFromFile hpath lookup path file
  simp only [start]
  split
  · exact hload _ _
  · split
    · exact hload _ _
    · exact hinit

lemma Trusted.filters (hg : g.Trusted ssl) (ctx : GatewayRequestContext) (clocks : Clocks) :
    (g.filters.apply ssl g.config ctx clocks).2.cache.Trusted ssl g.config.jwtSettings := by
  simp only [GatewayFilterChain.apply]
  cases BlacklistFilter.apply g.config ctx with
  | reject status body => exact hg
  | pass =>
    cases (g.filters.rateLimit.apply g.config clocks.rate).1 with
    | reject status body => exact hg
    | pass =>
      exact AuthSystem.trusted_apply (s := ⟨g.config, g.filters.cache⟩) hg ctx clocks

lemma Trusted.reload (hg : g.Trusted ssl) (lookup : Bytes → Option A) (file : Option Bytes) :
    (g.config.reload g.filters.cache lookup file).2.2.Trusted ssl
      (g.config.reload g.filters.cache lookup file).2.1.jwtSettings :=
  AuthSystem.trusted_next (s := ⟨g.config, g.filters.cache⟩) hg (.reload lookup file)

/-- Sending a request on changes neither the settings nor the filters. -/
lemma Trusted.forward (hg : g.Trusted ssl) (conn : GatewayConn) (request path : Bytes) :
    (forward env conn g request path).gateway.Trusted ssl := by
  simp only [GatewayConn.forward]
  split
  · exact hg
  · split_ifs
    · exact hg
    · exact hg

lemma Trusted.process (hg : g.Trusted ssl) (henv : env.ssl = ssl) (conn : GatewayConn) :
    (process env conn g).gateway.Trusted ssl := by
  subst henv
  simp only [GatewayConn.process]
  split
  · exact hg
  · split_ifs
    · exact hg
    · exact hg.reload env.lookup env.configFile
    · exact hg.reload env.lookup env.configFile
    · exact hg
    · simp only [filtered]
      split
      · refine Trusted.forward ?_ _ _ _
        exact hg.filters _ env.clocks
      · exact hg.filters _ env.clocks

/-- Nor does a system call. -/
lemma Trusted.afterCall (hg : g.Trusted ssl) (a : ForwardAction) : (g.afterCall a).Trusted ssl := by
  cases a with
  | upstreamSend n =>
    simp only [Gateway.afterCall]
    split_ifs
    · exact hg
    · exact hg
  | upstreamRecv bytes => exact hg
  | clientSend n => exact hg

lemma Trusted.forwarding (hg : g.Trusted ssl) (henv : env.ssl = ssl) (conn : GatewayConn) :
    (g.forwarding env conn).Trusted ssl := by
  subst henv
  simp only [Gateway.forwarding]
  split
  · exact hg
  · exact hg.filters _ env.clocks

/-! ## What the filters let pass -/

lemma blacklist_pass_iff {cfg : GatewayConfig A} {ctx : GatewayRequestContext} :
    BlacklistFilter.apply cfg ctx = .pass ↔
      ctx.clientAddress = [] ∨ ctx.clientAddress ∉ cfg.blacklist := by
  unfold BlacklistFilter.apply
  split_ifs with hempty haddr hmem <;> simp_all

lemma applyUncached_pass_iff {cfg : GatewayConfig A} {ctx : GatewayRequestContext} {now : ℤ} :
    AuthFilter.applyUncached ssl cfg ctx now = .pass ↔
      Authorizes ssl cfg now ctx.rawRequest ctx.path := by
  unfold AuthFilter.applyUncached Authorizes
  split_ifs
  · cases htoken : AuthFilter.token ctx.rawRequest with
    | none => simp [AuthFilter.unauthorized]
    | some token =>
      have haccepts : Jwt.accepts ssl now token cfg.jwtSettings = true ↔ _ := Jwt.accepts_iff
      simp only [Option.mem_some_iff, exists_eq_left']
      rw [← haccepts, Jwt.accepts]
      cases Jwt.verifyHs256 ssl now token cfg.jwtSettings <;>
        simp [AuthFilter.unauthorized, Except.isOk, Except.toBool]
  · unfold AuthFilter.applyRoute
    cases cfg.routeOf ctx.path with
    | none => simp
    | some rc =>
      simp only [Option.mem_some_iff, forall_eq']
      split_ifs with hnone
      · simp [hnone]
      · cases AuthFilter.token ctx.rawRequest with
        | none => simp [AuthFilter.unauthorized, hnone]
        | some token =>
          by_cases heq : token = rc.requiredToken <;> simp [AuthFilter.unauthorized, heq, hnone]

lemma Trusted.filters_pass_iff (hg : g.Trusted env.ssl)
    (hclock : env.clocks.auth = env.clocks.verify) (ctx : GatewayRequestContext) :
    (g.filters.apply env.ssl g.config ctx env.clocks).1 = .pass ↔
      (ctx.clientAddress = [] ∨ ctx.clientAddress ∉ g.config.blacklist) ∧
        (g.filters.rateLimit.apply g.config env.clocks.rate).1 = .pass ∧
        Authorizes env.ssl g.config env.clocks.auth ctx.rawRequest ctx.path := by
  have hauth := AuthSystem.Trusted.apply_eq (s := ⟨g.config, g.filters.cache⟩) hg ctx
    env.clocks.rate env.clocks.auth
  have hclocks : (⟨env.clocks.rate, env.clocks.auth, env.clocks.auth⟩ : Clocks) = env.clocks := by
    nth_rewrite 2 [hclock]
    rfl
  rw [← blacklist_pass_iff, ← applyUncached_pass_iff, ← hauth, hclocks]
  simp only [GatewayFilterChain.apply]
  cases BlacklistFilter.apply g.config ctx with
  | reject status body => simp
  | pass =>
    cases hrate : (g.filters.rateLimit.apply g.config env.clocks.rate).1 with
    | reject status body => simp
    | pass => simp

/-! ## What is forwarded -/

/-- A connection without upstreams makes a new one. -/
lemma getUpstreamSocket_isSome_iff (env : Surroundings A) (addr : Option A) :
    (getUpstreamSocket env addr []).isSome ↔ addr.isSome ∧ env.connects = true := by
  cases addr with
  | none => simp [getUpstreamSocket]
  | some addr => by_cases h : env.connects <;> simp [getUpstreamSocket, h]

/-- The handler gets to the upstream exactly with what is admitted. -/
lemma Trusted.start_isSome_iff (hg : g.Trusted env.ssl)
    (hclock : env.clocks.auth = env.clocks.verify) (hconn : conn.upstreams = []) :
    (Forwarding.start env conn g).isSome ↔ conn.oversize = false ∧ ∃ method path version,
      parseRequestLine conn.request = some (method, path, version) ∧
        (ascii "/__admin/metrics").isPrefixOf path = false ∧
        (ascii "/__admin/reload").isPrefixOf path = false ∧ g.Admitted env conn.request path := by
  cases hparse : parseRequestLine conn.request with
  | none => simp [Forwarding.start, hparse]
  | some parsed =>
    obtain ⟨method, path, version⟩ := parsed
    have hfilters := hg.filters_pass_iff hclock
      ⟨method, path, version, env.remoteAddress.getD [], conn.request⟩
    have hsocket := getUpstreamSocket_isSome_iff env
      (g.config.pickUpstream env.lookup g.index path).1
    have hadmitted : g.Admitted env conn.request path ↔
        (g.filters.apply env.ssl g.config ⟨method, path, version, env.remoteAddress.getD [],
          conn.request⟩ env.clocks).1 = .pass ∧
        (getUpstreamSocket env (g.config.pickUpstream env.lookup g.index path).1 []).isSome := by
      rw [hfilters, hsocket]
      exact ⟨fun h => ⟨⟨h.listed, h.rate, h.authorized⟩, h.upstream⟩,
        fun h => ⟨h.1.1, h.1.2.1, h.1.2.2, h.2⟩⟩
    simp only [Forwarding.start, hparse, hconn]
    by_cases hgateway : (ascii "/__admin/metrics").isPrefixOf path = true ∨
        (ascii "/__admin/reload").isPrefixOf path = true ∨ conn.oversize = true
    · rcases hgateway with h | h | h <;> simp [h]
    · simp only [not_or, Bool.not_eq_true] at hgateway
      obtain ⟨hmetrics, hreload, hoversize⟩ := hgateway
      simp only [hmetrics, hreload, hoversize, Bool.false_eq_true, if_false, true_and,
        Option.some.injEq, Prod.mk.injEq]
      cases hverdict : (g.filters.apply env.ssl g.config ⟨method, path, version,
        env.remoteAddress.getD [], conn.request⟩ env.clocks).1 with
      | reject status body => simp_all
      | pass => simp_all

end Gateway

/-! ## Handlers -/

/-- `request` is what the handler has read within its limit, and is to forward. -/
def ClientHandler.Admits (h : ClientHandler A) (request : Bytes) : Prop :=
  ∃ c ∈ h.call, c.conn.request = request ∧ c.conn.oversize = false ∧
    ∃ method path version, parseRequestLine request = some (method, path, version) ∧
      (ascii "/__admin/metrics").isPrefixOf path = false ∧
      (ascii "/__admin/reload").isPrefixOf path = false ∧ c.gateway.Admitted c.env request path

/-- The handler sends the request to an upstream, which has a beginning of it, and all of it once
the loop has ended, if no `send` has failed. -/
def ClientHandler.Forwards (h : ClientHandler A) (request : Bytes) : Prop :=
  ∃ c calls f, h.state = .forwarding c calls f ∧ f.toUpstream <+: request ∧
    (¬ Forwarding.UpstreamFails calls → (∀ buf left, f.pc ≠ .sendRequest buf left) →
      f.toUpstream = request)

/-- What is known of a call of `process`: it uses the OpenSSL of the others, its two readings of the
clock fall into one second, and it finds a cache that fits the settings. -/
structure ServerCall.Known (ssl : OpenSsl) (c : ServerCall A) : Prop where
  ssl_eq : c.env.ssl = ssl
  clock : c.env.clocks.auth = c.env.clocks.verify
  trusted : c.gateway.Trusted ssl

/-- The call of `process` that the handler has made is known, if there is one. -/
def ClientHandler.Known (ssl : OpenSsl) (h : ClientHandler A) : Prop := ∀ c ∈ h.call, c.Known ssl

lemma ClientHandler.known_of_call {h : ClientHandler A} {c : ServerCall A} (hcall : h.call = some c)
    (hc : c.Known ssl) : h.Known ssl := fun c' hc' => by
  obtain rfl := Option.some.inj (hcall.symm.trans hc')
  exact hc

lemma ClientHandler.known_of_none {h : ClientHandler A} (hcall : h.call = none) : h.Known ssl :=
  fun c hc => by
    rw [hcall] at hc
    cases hc

namespace GatewayServer

variable {s s' : GatewayServer A} {a : ServerAction A}

/-- What is asked of the surroundings of a call of `process`. -/
def Regular (ssl : OpenSsl) : ServerAction A → Prop
  | .process _ env => env.ssl = ssl ∧ env.clocks.auth = env.clocks.verify
  | _ => True

/-- What is known of the server. -/
structure Known (ssl : OpenSsl) (s : GatewayServer A) : Prop where
  trusted : s.gateway.Trusted ssl
  calls : ∀ o, (s.handler o).Known ssl

lemma Known.step (hs : s.Known ssl) (ha : Regular ssl a) (hstep : machine.step s a = some s') :
    s'.Known ssl := by
  have hspec := step_spec hstep
  cases a with
  | handleClient o client =>
    obtain rfl := hspec
    refine ⟨hs.trusted, forall_handler hs.calls (ClientHandler.known_of_none ?_)⟩
    simp only [ClientHandler.call, ClientHandler.handleClient]
    split_ifs <;> rfl
  | recv o n =>
    obtain ⟨r, r', -, -, rfl⟩ := hspec
    exact ⟨hs.trusted, forall_handler hs.calls (ClientHandler.known_of_none rfl)⟩
  | process o env =>
    obtain ⟨conn, pending, -, rfl⟩ := hspec
    have hcall : ServerCall.Known ssl ⟨env, conn, s.gateway⟩ := ⟨ha.1, ha.2, hs.trusted⟩
    simp only [process]
    cases Forwarding.start env conn s.gateway with
    | some f =>
      exact ⟨hs.trusted.forwarding ha.1 conn,
        forall_handler hs.calls (ClientHandler.known_of_call rfl hcall)⟩
    | none =>
      exact ⟨hs.trusted.process ha.1 conn,
        forall_handler hs.calls (ClientHandler.known_of_call rfl hcall)⟩
  | call o b =>
    obtain ⟨c, calls, f, f', hf, -, rfl⟩ := hspec
    have hself : (s.handler o).call = some c := by simp only [ClientHandler.call, hf]
    exact ⟨hs.trusted.afterCall b,
      forall_handler hs.calls (ClientHandler.known_of_call rfl (hs.calls o c hself))⟩

lemma known_of_run {lookup : Bytes → Option A} {files : Bytes → Option (Option Bytes)}
    {as : List (ServerAction A)} (has : ∀ a ∈ as, Regular ssl a)
    (hrun : machine.run (start lookup files) as = some s) : s.Known ssl :=
  Machine.run_invariant_of_guarded (I := Known ssl) (G := fun _ a => Regular ssl a)
    (fun _ _ _ hs ha hstep => hs.step ha hstep)
    ⟨Gateway.trusted_start lookup files, fun _ => ClientHandler.known_of_none rfl⟩
    (Machine.guarded_of_forall fun a ha _ => has a ha) hrun

/-- A call that is known gets to the upstream exactly with what is admitted. -/
lemma start_isSome_iff {h : ClientHandler A} {c : ServerCall A} (hc : c ∈ h.call)
    (hknown : c.Known ssl) (hread : h.HasRead c.conn) :
    (Forwarding.start c.env c.conn c.gateway).isSome ↔ ∃ request, h.Admits request := by
  have htrusted : c.gateway.Trusted c.env.ssl := hknown.ssl_eq ▸ hknown.trusted
  rw [htrusted.start_isSome_iff hknown.clock hread.upstreams]
  constructor
  · rintro ⟨hsize, hadmitted⟩
    exact ⟨c.conn.request, c, hc, rfl, hsize, hadmitted⟩
  · rintro ⟨request, c', hc', rfl, hsize, hadmitted⟩
    obtain rfl := Option.some.inj (hc.symm.trans hc')
    exact ⟨hsize, hadmitted⟩

/-- **Only admitted requests reach an upstream.**  At any moment of a server with one worker, every
handler that has called `process` has read its request within the limit that was in force when the
headers were complete; it sends to an upstream the request that is admitted, as far as the upstream
accepts it, and nothing where none is. -/
theorem toUpstream_of_run (ssl : OpenSsl) (lookup : Bytes → Option A)
    (files : Bytes → Option (Option Bytes)) (as : List (ServerAction A))
    (has : ∀ a ∈ as, Regular ssl a) (hrun : machine.run (start lookup files) as = some s) (o : ℕ) :
    (∀ c ∈ (s.handler o).call, (s.handler o).HasRead c.conn) ∧
      (∀ request, (s.handler o).Admits request → (s.handler o).Forwards request) ∧
      ((¬ ∃ request, (s.handler o).Admits request) → (s.handler o).toUpstream = []) := by
  have hknown := (known_of_run has hrun).calls o
  have hsound := sound_of_run hrun o
  generalize s.handler o = h at hknown hsound ⊢
  refine ⟨fun c hc => (hsound.of_call hc).1, fun request hadmits => ?_, fun hnone => ?_⟩
  · have ⟨c, hc, hrequest, _⟩ := hadmits
    subst hrequest
    obtain ⟨hread, hdone⟩ := hsound.of_call hc
    rcases hdone with ⟨calls, f, f₀, hstate, hstart, hcalls⟩ | ⟨-, hstart⟩
    · have hfaithful := Forwarding.faithfulRelay_of_run _ _ _ hstart hcalls
      exact ⟨c, calls, f, hstate, hfaithful.upstream, hfaithful.whole_request⟩
    · have hsome := (start_isSome_iff hc (hknown c hc) hread).mpr ⟨_, hadmits⟩
      rw [hstart] at hsome
      cases hsome
  · cases hcall : h.call with
    | none => exact (ClientHandler.sent_of_call_eq_none hcall).1
    | some c =>
      obtain ⟨hread, hdone⟩ := hsound.of_call hcall
      rcases hdone with ⟨calls, f, f₀, -, hstart, -⟩ | ⟨hstate, hstart⟩
      · refine absurd ((start_isSome_iff hcall (hknown c hcall) hread).mp ?_) hnone
        rw [hstart]
        rfl
      · rw [ClientHandler.toUpstream, hstate]
        exact Forwarding.toUpstream_of_start hstart

/-- A configuration that asks for tokens. -/
def tokenFiles (path : Bytes) : Option (Option Bytes) :=
  if path = ascii "../conf/gateway.conf" then
    some (some (ascii "route / 10.0.0.1:80\njwt_enabled on\njwt_secret old\n"))
  else none

/-- A client with a token that is valid until the second 100. -/
def tokenClient : Client where
  valid := true
  pending := AuthSystem.sampleRequest.rawRequest
  results := []

/-- The second 5. -/
def tokenSurroundings : Surroundings Bytes where
  ssl := AuthSystem.sampleSsl
  lookup := some
  toString addr := addr
  configFile := none
  remoteAddress := some (ascii "10.0.0.2:4711")
  clocks := ⟨5, 5, 5⟩
  cachedConnected := false
  connects := true
  upstreamSends := []
  upstreamRecvs := []
  clientSends := []

/-- Two clients with the same token, the second of which is served while the first one waits. -/
def tokenRun : List (ServerAction Bytes) :=
  [.handleClient 0 tokenClient, .recv 0 tokenClient.pending.length, .process 0 tokenSurroundings,
    .handleClient 1 tokenClient, .call 0 (.upstreamSend 10), .recv 1 tokenClient.pending.length,
    .process 1 tokenSurroundings, .call 1 (.upstreamSend tokenClient.pending.length)]

/-- The server after the run. -/
def tokenServer : GatewayServer Bytes :=
  (machine.run (start some tokenFiles) tokenRun).getD (start some tokenFiles)

/-- The call of `process` for the second client. -/
def tokenCall : ServerCall Bytes :=
  (tokenServer.handler 1).call.getD ⟨tokenSurroundings, .init, .init⟩

lemma tokenServer_eq :
    (machine.run (start some tokenFiles) tokenRun).isSome ∧ (tokenServer.handler 1).call.isSome ∧
      (tokenServer.handler 1).toUpstream = tokenClient.pending := by
  decide +kernel

lemma tokenCall_eq :
    tokenCall.conn.request = tokenClient.pending ∧ tokenCall.conn.oversize = false ∧
      tokenCall.env.remoteAddress.getD [] ∉ tokenCall.gateway.config.blacklist ∧
      (tokenCall.gateway.filters.rateLimit.apply tokenCall.gateway.config
        tokenCall.env.clocks.rate).1 = .pass ∧
      tokenCall.gateway.config.jwtEnabled = true ∧
      Jwt.accepts tokenCall.env.ssl tokenCall.env.clocks.auth AuthSystem.sampleToken
        tokenCall.gateway.config.jwtSettings = true ∧
      (tokenCall.gateway.config.pickUpstream tokenCall.env.lookup tokenCall.gateway.index
        (ascii "/")).1.isSome ∧ tokenCall.env.connects = true := by
  decide +kernel

lemma tokenCall_admits : (tokenServer.handler 1).Admits tokenClient.pending := by
  obtain ⟨hrequest, hsize, hlisted, hrate, henabled, haccepts, hupstream, hconnects⟩ := tokenCall_eq
  have hcall : (tokenServer.handler 1).call = some tokenCall := by
    obtain ⟨c, hc⟩ := Option.isSome_iff_exists.mp tokenServer_eq.2.1
    rw [tokenCall, hc, Option.getD_some]
  refine ⟨tokenCall, hcall, hrequest, hsize, ascii "GET", ascii "/", ascii "HTTP/1.1",
    by decide +kernel, by decide, by decide, .inr hlisted, hrate, ?_, hupstream, hconnects⟩
  rw [Gateway.Authorizes, if_pos henabled]
  exact ⟨AuthSystem.sampleToken, by decide +kernel, Jwt.accepts_iff.mp haccepts⟩

/-- The second client's token is in the cache, and its request is sent while the first one's is
still on its way. -/
theorem toUpstream_of_run_tokenRun : ∃ s,
    machine.run (start some tokenFiles) tokenRun = some s ∧
      (s.handler 1).Forwards tokenClient.pending ∧
      (s.handler 1).toUpstream = tokenClient.pending := by
  obtain ⟨hrun, -, hsent⟩ := tokenServer_eq
  obtain ⟨s, hs⟩ := Option.isSome_iff_exists.mp hrun
  have hserver : tokenServer = s := by rw [tokenServer, hs, Option.getD_some]
  have hregular : ∀ a ∈ tokenRun, Regular AuthSystem.sampleSsl a := by
    intro a ha
    simp only [tokenRun, List.mem_cons, List.not_mem_nil, or_false] at ha
    rcases ha with rfl | rfl | rfl | rfl | rfl | rfl | rfl | rfl
    all_goals first | exact True.intro | exact ⟨rfl, rfl⟩
  have hforwards := (toUpstream_of_run AuthSystem.sampleSsl some tokenFiles tokenRun hregular hs
    1).2.1
  exact ⟨s, hs, hforwards _ (hserver ▸ tokenCall_admits), hserver ▸ hsent⟩

end GatewayServer

end CoroutineGateway
