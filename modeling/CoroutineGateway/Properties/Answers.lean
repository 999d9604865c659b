import CoroutineGateway.Framework.HttpMessage
import CoroutineGateway.Properties.ClientHandlers
import CoroutineGateway.Properties.FaithfulRelay
import CoroutineGateway.Properties.Metrics

/-!
# Every request has one answer

A client whose request has been read is sent one of two things once `process` is called: what the
upstream answers, or one response of the gateway's own, with the status that belongs to the end of
the call (`Ending.statuses`).  The own responses are `Http.Response`s, so that a client recognizes
them whatever comes after them (`Http.Response.Unmistakable`).  `answered_of_run` says which of the
two it is, for every handler and at any moment, and that a client whose request has not been read is
sent nothing, nor is an upstream; the handlers are those of one worker thread.
-/

namespace CoroutineGateway

open GatewayConn

variable {A : Type*}

/-! ## The gateway's own responses -/

lemma HttpStatus.isLine_statusText (code : ℤ) : Http.IsLine (statusText code) := by
  unfold statusText
  split_ifs <;> decide

/-- `Content-Type: text/plain` -/
def contentType : Http.Field :=
  ⟨ascii "Content-Type", ascii " text/plain", by decide, by decide, by decide⟩

/-- `Connection: close` -/
def connectionClose : Http.Field :=
  ⟨ascii "Connection", ascii " close", by decide, by decide, by decide⟩

lemma isLine_length (n : ℕ) : Http.IsLine (32 :: Text.toDecimal n) := by
  have hdigits := Http.Response.isLine_toDecimal n
  exact Http.isLine_append_cons (l := []) (by decide) hdigits (by decide) (by decide)

lemma isLine_contentLength : Http.IsLine Http.contentLength := by decide

lemma colon_notMem_contentLength : (58 : UInt8) ∉ Http.contentLength := by decide

/-- `Content-Length: n` -/
def lengthField (n : ℕ) : Http.Field where
  name := Http.contentLength
  value := 32 :: Text.toDecimal n
  name_colon := colon_notMem_contentLength
  name_line := isLine_contentLength
  value_line := isLine_length n

/-- The fields of the gateway's responses. -/
def ownFields (n : ℕ) : List Http.Field := [contentType, connectionClose, lengthField n]

lemma has_length_ownFields (n : ℕ) : ∃ f ∈ ownFields n, f.name = Http.contentLength :=
  ⟨lengthField n, by simp [ownFields], rfl⟩

lemma announced_ownFields {n : ℕ} {f : Http.Field} (hf : f ∈ ownFields n)
    (hname : f.name = Http.contentLength) : Http.Announces f.value n := by
  have hother : contentType.name ≠ Http.contentLength ∧
      connectionClose.name ≠ Http.contentLength := by decide
  rcases List.mem_cons.mp hf with rfl | hf
  · exact absurd hname hother.1
  rcases List.mem_cons.mp hf with rfl | hf
  · exact absurd hname hother.2
  obtain rfl := List.mem_singleton.mp hf
  exact ⟨rfl, Text.toDecimal_ne_nil _, List.all_eq_true.mpr (Text.isDigit_toDecimal _),
    Text.decimalValue_toDecimal _⟩

lemma isLine_version : Http.IsLine (ascii "HTTP/1.1") := by decide

lemma blank_notMem_version : (32 : UInt8) ∉ ascii "HTTP/1.1" := by decide

/-- The response that `send_simple_response` sends. -/
def ownResponse (status : ℕ) (body : Bytes) : Http.Response where
  version := ascii "HTTP/1.1"
  status
  reason := HttpStatus.statusText status
  fields := ownFields body.length
  body
  version_line := isLine_version
  version_blank := blank_notMem_version
  reason_line := HttpStatus.isLine_statusText status
  has_length := has_length_ownFields body.length
  announced _ hf hname := announced_ownFields hf hname

lemma ownResponse_text (status : ℕ) (body : Bytes) : (ownResponse status body).text =
    simpleResponse status (HttpStatus.statusText status) body := by
  have hversion : ascii "HTTP/1.1 " = ascii "HTTP/1.1" ++ [32] := by decide
  have hfields : ascii "Content-Type: text/plain\r\nConnection: close\r\nContent-Length: " =
      contentType.line ++ crlf ++ connectionClose.line ++ crlf ++
        (Http.contentLength ++ [58, 32]) := by
    decide
  have hstatus : Text.intToString (status : ℤ) = Text.toDecimal status := by
    rw [Text.intToString, if_neg (by omega), Int.natAbs_natCast]
  have hlength : (lengthField body.length).line =
      Http.contentLength ++ ([58, 32] ++ Text.toDecimal body.length) := rfl
  have hblank : ascii " " = [32] := by decide
  simp only [Http.Response.text, Http.block, Http.Response.lines, Http.Response.statusLine,
    ownResponse, ownFields, simpleResponse, hversion, hfields, hlength, hstatus, hblank,
    List.map_cons, List.map_nil, Seq.joinLines_cons, List.append_assoc, List.cons_append,
    List.nil_append]
  rfl

/-- The statuses of the responses that a call can end with so. -/
def Ending.statuses : Ending → List ℕ
  | .badRequestLine => [400]
  | .metricsShown => [200]
  | .reloaded ok => [if ok then 200 else 500]
  | .tooLarge => [413]
  | .rejected => [403, 429, 401]
  | .noUpstream => [502]
  | .sendFailed => [502]
  | .relayed => []

/-- What the client of a call that ends as `e` is sent. -/
structure Processed.AnswersAs (p : Processed A) (env : Surroundings A) (request : Bytes)
    (e : Ending) : Prop where
  relayed : e = .relayed →
    p.toUpstream = request ∧ p.toClient = relay env.upstreamRecvs env.clientSends
  own : e ≠ .relayed → ∃ status ∈ e.statuses, ∃ body,
    p.toClient = (sendAll env.clientSends (ownResponse status body).text).1

/-! ## What the filters answer -/

section Filters

variable (ssl : OpenSsl) (cfg : GatewayConfig A) (ctx : GatewayRequestContext) (clocks : Clocks)

lemma blacklist_verdict : BlacklistFilter.apply cfg ctx = .pass ∨
    BlacklistFilter.apply cfg ctx = .reject HttpStatus.forbidden (ascii "blocked\n") := by
  unfold BlacklistFilter.apply
  split_ifs <;> simp

lemma rateLimit_verdict (f : RateLimitFilter) : (f.apply cfg clocks.rate).1 = .pass ∨
    (f.apply cfg clocks.rate).1 =
      .reject HttpStatus.tooManyRequests (ascii "too many requests\n") := by
  by_cases hqps : cfg.maxQps ≤ 0
  · simp [RateLimitFilter.apply, hqps]
  · simp only [RateLimitFilter.apply, if_neg hqps]
    generalize (if clocks.rate ≠ f.lastSec then (⟨clocks.rate, 0⟩ : RateLimitFilter) else f) = f'
    by_cases hcount : (f'.count + 1).bmod (2 ^ 32) > cfg.maxQps
    · rw [if_pos hcount]
      exact .inr rfl
    · rw [if_neg hcount]
      exact .inl rfl

lemma auth_verdict (cache : JwtCache) : (AuthFilter.apply ssl cfg cache ctx clocks).1 = .pass ∨
    (AuthFilter.apply ssl cfg cache ctx clocks).1 = AuthFilter.unauthorized := by
  unfold AuthFilter.apply
  split_ifs
  · unfold AuthFilter.applyJwt
    cases AuthFilter.token ctx.rawRequest with
    | none => exact .inr rfl
    | some token =>
      dsimp only
      split_ifs
      · exact .inl rfl
      · cases Jwt.verifyHs256 ssl clocks.verify token cfg.jwtSettings with
        | error _ => exact .inr rfl
        | ok _ => exact .inl rfl
  · unfold AuthFilter.applyRoute
    cases cfg.routeOf ctx.path with
    | none => exact .inl rfl
    | some rc =>
      dsimp only
      split_ifs
      · exact .inl rfl
      · cases AuthFilter.token ctx.rawRequest with
        | none => exact .inr rfl
        | some token =>
          dsimp only
          split_ifs
          · exact .inr rfl
          · exact .inl rfl

/-- A filter that rejects a request does so with one of three statuses. -/
lemma status_of_reject {filters : GatewayFilterChain} {status : ℤ} {body : Bytes}
    (h : (filters.apply ssl cfg ctx clocks).1 = .reject status body) :
    ∃ n ∈ Ending.rejected.statuses, status = (n : ℕ) ∧ status ≠ 0 := by
  simp only [GatewayFilterChain.apply] at h
  rcases blacklist_verdict cfg ctx with hblack | hblack
  · rw [hblack] at h
    rcases rateLimit_verdict cfg clocks filters.rateLimit with hrate | hrate
    · simp only [hrate] at h
      rcases auth_verdict ssl cfg ctx clocks filters.cache with hauth | hauth
      · rw [hauth] at h
        cases h
      · rw [hauth] at h
        obtain ⟨rfl, -⟩ := Verdict.reject.inj h
        exact ⟨401, by decide, rfl, by decide⟩
    · simp only [hrate] at h
      obtain ⟨rfl, -⟩ := Verdict.reject.inj h
      exact ⟨429, by decide, rfl, by decide⟩
  · rw [hblack] at h
    obtain ⟨rfl, -⟩ := Verdict.reject.inj h
    exact ⟨403, by decide, rfl, by decide⟩

end Filters

/-! ## The ends of a call -/

/-- A call that ends with a response of the gateway's own. -/
lemma answersAs_respond {env : Surroundings A} {conn : GatewayConn} {g : Gateway A}
    {toUpstream request body : Bytes} {e : Ending} (status : ℕ) (hstatus : status ∈ e.statuses) :
    (respond env conn g toUpstream status body).AnswersAs env request e where
  relayed he := by simp [he, Ending.statuses] at hstatus
  own _ := ⟨status, hstatus, body, by rw [ownResponse_text]; rfl⟩

namespace ProcessCall

variable (c : ProcessCall A)

lemma forward_answersAs (conn : GatewayConn) (g : Gateway A) (request path : Bytes)
    (hconn : conn.upstreams = c.conn.upstreams) (hconfig : g.config = c.config)
    (hindex : g.index = c.index) :
    (forward c.env conn g request path).AnswersAs c.env request (c.forwardEnding request path) := by
  rw [forward, forwardEnding, hconn, hconfig, hindex]
  dsimp only
  cases getUpstreamSocket c.env _ c.conn.upstreams with
  | none => exact answersAs_respond (e := .noUpstream) 502 (List.mem_singleton.mpr rfl)
  | some found =>
    by_cases hsent : (sendAll c.env.upstreamSends request).2.1
    · simp only [hsent, if_true]
      exact ⟨fun _ => ⟨Forwarding.sendAll_whole hsent, rfl⟩, fun h => absurd rfl h⟩
    · simp only [hsent]
      exact answersAs_respond (e := .sendFailed) 502 (List.mem_singleton.mpr rfl)

lemma filtered_answersAs (conn : GatewayConn) (g : Gateway A) (request method path version : Bytes)
    (hconn : conn.upstreams = c.conn.upstreams) (hconfig : g.config = c.config)
    (hfilters : g.filters = c.filters) (hindex : g.index = c.index) :
    (filtered c.env conn g request method path version).AnswersAs c.env request
      (c.filteredEnding request method path version) := by
  rw [filtered, filteredEnding, hfilters, hconfig]
  dsimp only
  cases hverdict : (c.filters.apply c.env.ssl c.config _ c.env.clocks).1 with
  | pass => exact c.forward_answersAs conn _ request path hconn rfl hindex
  | reject status body =>
    obtain ⟨n, hn, rfl, hne⟩ := status_of_reject _ _ _ _ hverdict
    dsimp only
    rw [if_neg hne]
    exact answersAs_respond (e := .rejected) n hn

/-- A call answers as its end says. -/
lemma processed_answersAs (m : GatewayMetrics) :
    (c.processed m).AnswersAs c.env c.conn.request c.ending := by
  rw [processed, process, ending]
  dsimp only
  cases parseRequestLine c.conn.request with
  | none =>
    exact answersAs_respond (e := .badRequestLine) 400 (List.mem_singleton.mpr rfl)
  | some parsed =>
    obtain ⟨method, path, version⟩ := parsed
    dsimp only
    split_ifs with hmetrics hreload hok hoversize
    · exact answersAs_respond (e := .metricsShown) 200 (List.mem_singleton.mpr rfl)
    · refine answersAs_respond 200 (List.mem_singleton.mpr ?_)
      rw [if_pos (show (c.config.reload c.filters.cache c.env.lookup c.env.configFile).1 = true
        from hok)]
    · refine answersAs_respond 500 (List.mem_singleton.mpr ?_)
      rw [if_neg (show ¬ (c.config.reload c.filters.cache c.env.lookup c.env.configFile).1 = true
        from hok)]
    · exact answersAs_respond (e := .tooLarge) 413 (List.mem_singleton.mpr rfl)
    · exact c.filtered_answersAs _ _ _ _ _ _ rfl rfl rfl rfl

/-- A call that gets to no upstream relays nothing. -/
lemma ending_ne_relayed (g : Gateway A) (hconfig : g.config = c.config)
    (hfilters : g.filters = c.filters) (hindex : g.index = c.index)
    (h : Forwarding.start c.env c.conn g = none) : c.ending ≠ .relayed := by
  rw [ending]
  unfold Forwarding.start at h
  rw [hconfig, hfilters, hindex] at h
  cases hparse : parseRequestLine c.conn.request with
  | none => simp
  | some parsed =>
    obtain ⟨method, path, version⟩ := parsed
    simp only [hparse] at h ⊢
    split_ifs at h ⊢ with hmetrics hreload hoversize
    · simp
    · simp
    · simp
    · rw [filteredEnding]
      cases hverdict : (c.filters.apply c.env.ssl c.config _ c.env.clocks).1 with
      | reject status body => simp
      | pass =>
        simp only [hverdict, Option.map_eq_none_iff] at h
        simp [forwardEnding, h]

end ProcessCall

/-! ## Clients -/

/-- The call as one of `process`. -/
def ServerCall.processCall (c : ServerCall A) : ProcessCall A :=
  ⟨c.env, c.conn, c.gateway.config, c.gateway.filters, c.gateway.index⟩

/-- No response is a beginning of another one, whatever comes after it. -/
def Http.Response.Unmistakable (response : Http.Response) : Prop :=
  ∀ (other : Http.Response) (s s' : Bytes), response.text ++ s = other.text ++ s' →
    response = other ∧ s = s'

namespace ClientHandler

/-- The client has one response of the gateway's own, as far as it accepts it, with a status that
belongs to the end of the call, and an upstream has nothing. -/
structure AnswersItself (h : ClientHandler A) (c : ServerCall A) : Prop where
  upstream : h.toUpstream = []
  client : ∃ response : Http.Response, response.Unmistakable ∧
    response.status ∈ c.processCall.ending.statuses ∧
    h.toClient = (sendAll c.env.clientSends response.text).1

/-- The client has what the upstream answers to the request, or, where that does not take the
request, one response that says so. -/
def PassesOn (h : ClientHandler A) (c : ServerCall A) : Prop :=
  ∃ calls f, h.state = .forwarding c calls f ∧ f.Faithful c.conn.request calls ∧
    ∃ response : Http.Response, response.Unmistakable ∧
      response.status ∈ Ending.sendFailed.statuses ∧ response.text = Forwarding.sendFailed

end ClientHandler

lemma unmistakable_ownResponse (status : ℕ) (body : Bytes) :
    (ownResponse status body).Unmistakable := fun _ _ _ => Http.Response.text_append_inj

/-- **Every request has one answer.**  At any moment of a server with one worker: a handler that has
not called `process` has sent nothing, and one that has called it has read its request.  If the call
gets to an upstream, the client has a beginning of what that answers, or of one response that says
that the request was not taken, and all of it at the end, if no `send` to the client has failed.  If
it does not, the client has one response of the gateway's own. -/
theorem answered_of_run (lookup : Bytes → Option A) (files : Bytes → Option (Option Bytes))
    (as : List (ServerAction A)) (s : GatewayServer A)
    (hrun : GatewayServer.machine.run (.start lookup files) as = some s) (o : ℕ) :
    ((s.handler o).call = none → (s.handler o).toUpstream = [] ∧ (s.handler o).toClient = []) ∧
      ∀ c ∈ (s.handler o).call, (s.handler o).HasRead c.conn ∧
        if (Forwarding.start c.env c.conn c.gateway).isSome then (s.handler o).PassesOn c
        else (s.handler o).AnswersItself c := by
  have hsound := GatewayServer.sound_of_run hrun o
  generalize s.handler o = h at hsound ⊢
  refine ⟨ClientHandler.sent_of_call_eq_none, fun c hc => ?_⟩
  obtain ⟨hread, hdone⟩ := hsound.of_call hc
  refine ⟨hread, ?_⟩
  rcases hdone with ⟨calls, f, f₀, hstate, hstart, hcalls⟩ | ⟨hstate, hstart⟩
  · rw [if_pos (by rw [hstart]; rfl)]
    exact ⟨calls, f, hstate, Forwarding.faithfulRelay_of_run _ _ _ hstart hcalls,
      ownResponse 502 _, unmistakable_ownResponse _ _, List.mem_singleton.mpr rfl,
      ownResponse_text _ _⟩
  · rw [if_neg (by rw [hstart]; exact Bool.false_ne_true)]
    have hanswers := c.processCall.processed_answersAs c.gateway.metrics
    have hending := c.processCall.ending_ne_relayed c.gateway rfl rfl rfl hstart
    obtain ⟨status, hstatus, body, hsent⟩ := hanswers.own hending
    refine ⟨?_, ownResponse status body, unmistakable_ownResponse _ _, hstatus, ?_⟩
    · rw [ClientHandler.toUpstream, hstate]
      exact Forwarding.toUpstream_of_start hstart
    · rw [ClientHandler.toClient, hstate]
      exact hsent

/-- A client that sends no request line. -/
def wrongClient : Client := ⟨true, ascii "x\r\n\r\n", []⟩

/-- A client that is not valid, and one that sends no request line. -/
def wrongRun : List (ServerAction Bytes) :=
  [.handleClient 0 ⟨false, [], []⟩, .handleClient 1 wrongClient, .recv 1 5,
    .process 1 unroutedCall.env]

/-- The server after the run. -/
def wrongServer : GatewayServer Bytes :=
  (GatewayServer.machine.run (.start some fun _ => none) wrongRun).getD (.start some fun _ => none)

/-- The call of `process` for the second client. -/
def wrongCall : ServerCall Bytes :=
  (wrongServer.handler 1).call.getD ⟨unroutedCall.env, .init, .init⟩

lemma wrongServer_eq :
    (GatewayServer.machine.run (.start some fun _ => none) wrongRun).isSome ∧
      (wrongServer.handler 0).call.isNone ∧ (wrongServer.handler 1).call.isSome ∧
      (Forwarding.start wrongCall.env wrongCall.conn wrongCall.gateway).isSome = false ∧
      wrongCall.processCall.ending = .badRequestLine ∧ wrongCall.env.clientSends = [1000] := by
  decide +kernel

/-- The first one is sent nothing, the second one a 400. -/
theorem answered_wrongRun : ∃ s : GatewayServer Bytes,
    GatewayServer.machine.run (.start some fun _ => none) wrongRun = some s ∧
      (s.handler 0).toClient = [] ∧
      ∃ response : Http.Response, response.status = 400 ∧
        (s.handler 1).toClient = (sendAll [1000] response.text).1 := by
  obtain ⟨hrun, hnone, hcall, hstart, hending, hsends⟩ := wrongServer_eq
  obtain ⟨s, hs⟩ := Option.isSome_iff_exists.mp hrun
  have hserver : wrongServer = s := by rw [wrongServer, hs, Option.getD_some]
  have hwrong : (wrongServer.handler 1).call = some wrongCall := by
    obtain ⟨c, hc⟩ := Option.isSome_iff_exists.mp hcall
    rw [wrongCall, hc, Option.getD_some]
  rw [hserver] at hnone hwrong
  have hfirst := (answered_of_run some (fun _ => none) wrongRun s hs 0).1
  obtain ⟨-, hsecond⟩ := (answered_of_run some (fun _ => none) wrongRun s hs 1).2 _ hwrong
  rw [hstart, if_neg Bool.false_ne_true] at hsecond
  obtain ⟨response, -, hstatus, hsent⟩ := hsecond.client
  rw [hending] at hstatus
  rw [hsends] at hsent
  exact ⟨s, hs, (hfirst (Option.isNone_iff_eq_none.mp hnone)).2, response,
    List.mem_singleton.mp hstatus, hsent⟩

end CoroutineGateway
