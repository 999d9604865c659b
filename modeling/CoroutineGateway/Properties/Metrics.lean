import CoroutineGateway.Construction.GatewayConn
import CoroutineGateway.Framework.Machine

/-!
# What the metrics count

`process` has many ends, and each is to leave its trace in the counters: every request in
`total_requests`, a rejection by a filter in `filter_rejects`, and a 502 for which the upstream is
to blame in `upstream_errors`.  Of the two ends of the last kind the one that finds no socket to
the upstream does not reach `on_upstream_error`, so the counters tell the truth in a run for as long
as no request ends there (`accounted_iff`).
-/

namespace CoroutineGateway

open GatewayConn

variable {A : Type*}

/-! ## The ends of a call -/

/-- How a call of `process` ends. -/
inductive Ending where
  | badRequestLine
  | metricsShown
  | reloaded (ok : Bool)
  | tooLarge
  | rejected
  | noUpstream
  | sendFailed
  | relayed
  deriving DecidableEq

/-- The ends that answer 502 because of the upstream. -/
def Ending.badGateway (e : Ending) : Bool := e = .noUpstream || e = .sendFailed

/-- A call of `process`: what the calling connection brings, and what it finds in the singletons
other than the metrics. -/
structure ProcessCall (A : Type*) where
  env : Surroundings A
  conn : GatewayConn
  config : GatewayConfig A
  filters : GatewayFilterChain
  index : ℕ

namespace ProcessCall

variable (c : ProcessCall A)

/-- The singletons, with the metrics. -/
def gateway (m : GatewayMetrics) : Gateway A := ⟨c.config, c.filters, m, c.index⟩

/-- The call with the metrics it finds. -/
def processed (m : GatewayMetrics) : Processed A := process c.env c.conn (c.gateway m)

/-- How a request ends that no filter has rejected. -/
def forwardEnding (request path : Bytes) : Ending :=
  let addr := (c.config.pickUpstream c.env.lookup c.index path).1
  if getUpstreamSocket c.env addr c.conn.upstreams = none then .noUpstream
  else if (sendAll c.env.upstreamSends request).2.1 then .relayed
  else .sendFailed

/-- How a request ends that is given to the filters. -/
def filteredEnding (request method path version : Bytes) : Ending :=
  let ctx : GatewayRequestContext :=
    { method, path, version, clientAddress := c.env.remoteAddress.getD [], rawRequest := request }
  match (c.filters.apply c.env.ssl c.config ctx c.env.clocks).1 with
  | .pass => c.forwardEnding request path
  | .reject _ _ => .rejected

/-- How the call ends. -/
def ending : Ending :=
  match parseRequestLine c.conn.request with
  | none => .badRequestLine
  | some (method, path, version) =>
    if (ascii "/__admin/metrics").isPrefixOf path then .metricsShown
    else if (ascii "/__admin/reload").isPrefixOf path then
      .reloaded (c.config.reload c.filters.cache c.env.lookup c.env.configFile).1
    else if c.conn.oversize then .tooLarge
    else c.filteredEnding c.conn.request method path version

end ProcessCall

/-- What an end adds to the counters, besides the request itself. -/
def GatewayMetrics.atEnd (m : GatewayMetrics) : Ending → GatewayMetrics
  | .rejected => m.onFilterReject
  | .sendFailed => m.onUpstreamError
  | _ => m

namespace GatewayMetrics

variable (m : GatewayMetrics) (e : Ending)

@[simp] lemma totalRequests_atEnd : (m.atEnd e).totalRequests = m.totalRequests := by
  cases e <;> rfl

lemma filterRejects_atEnd : (m.atEnd e).filterRejects =
    if e = .rejected then (m.filterRejects + 1) % 2 ^ 64 else m.filterRejects := by
  cases e <;> rfl

lemma upstreamErrors_atEnd : (m.atEnd e).upstreamErrors =
    if e = .sendFailed then (m.upstreamErrors + 1) % 2 ^ 64 else m.upstreamErrors := by
  cases e <;> rfl

end GatewayMetrics

/-- What has been done for a request that ends as `e`: the counters, which were `m` before, have
its trace, and the client has a 502 where the upstream is to blame. -/
structure Processed.EndsAs (p : Processed A) (clientSends : List ℤ) (m : GatewayMetrics)
    (e : Ending) : Prop where
  metrics : p.gateway.metrics = m.atEnd e
  answer : e.badGateway = true → ∃ body, p.toClient = (sendAll clientSends (simpleResponse
    HttpStatus.badGateway (HttpStatus.statusText HttpStatus.badGateway) body)).1

namespace ProcessCall

variable (c : ProcessCall A) (m : GatewayMetrics)

lemma forward_endsAs (conn : GatewayConn) (gateway : Gateway A) (request path : Bytes)
    (hconn : conn.upstreams = c.conn.upstreams) (hconfig : gateway.config = c.config)
    (hindex : gateway.index = c.index) :
    (forward c.env conn gateway request path).EndsAs c.env.clientSends gateway.metrics
      (c.forwardEnding request path) := by
  rw [forward, forwardEnding, hconn, hconfig, hindex]
  dsimp only
  cases getUpstreamSocket c.env _ c.conn.upstreams with
  | none => exact ⟨rfl, fun _ => ⟨ascii "no upstream available\n", rfl⟩⟩
  | some found =>
    by_cases hsent : (sendAll c.env.upstreamSends request).2.1
    · simp only [hsent, if_true]
      exact ⟨rfl, fun h => absurd h Bool.false_ne_true⟩
    · simp only [hsent]
      exact ⟨rfl, fun _ => ⟨ascii "send to upstream failed\n", rfl⟩⟩

lemma filtered_endsAs (conn : GatewayConn) (gateway : Gateway A)
    (request method path version : Bytes) (hconn : conn.upstreams = c.conn.upstreams)
    (hconfig : gateway.config = c.config) (hfilters : gateway.filters = c.filters)
    (hindex : gateway.index = c.index) :
    (filtered c.env conn gateway request method path version).EndsAs c.env.clientSends
      gateway.metrics (c.filteredEnding request method path version) := by
  rw [filtered, filteredEnding, hfilters, hconfig]
  dsimp only
  cases (c.filters.apply c.env.ssl c.config _ c.env.clocks).1 with
  | pass => exact c.forward_endsAs conn _ request path hconn rfl hindex
  | reject status body => exact ⟨rfl, fun h => absurd h Bool.false_ne_true⟩

/-- A call counts its request and leaves what its end stands for. -/
theorem processed_endsAs :
    (c.processed m).EndsAs c.env.clientSends m.onRequest c.ending := by
  rw [processed, process, ending]
  dsimp only
  cases parseRequestLine c.conn.request with
  | none => exact ⟨rfl, fun h => absurd h Bool.false_ne_true⟩
  | some parsed =>
    obtain ⟨method, path, version⟩ := parsed
    dsimp only
    split_ifs with hmetrics hreload hok hoversize
    · exact ⟨rfl, fun h => absurd h Bool.false_ne_true⟩
    · exact ⟨rfl, fun h => absurd h Bool.false_ne_true⟩
    · exact ⟨rfl, fun h => absurd h Bool.false_ne_true⟩
    · exact ⟨rfl, fun h => absurd h Bool.false_ne_true⟩
    · exact c.filtered_endsAs _ _ _ _ _ _ rfl rfl rfl rfl

end ProcessCall

/-! ## Runs -/

/-- The counters, and how the calls so far have ended. -/
structure Tally where
  metrics : GatewayMetrics
  past : List Ending

/-- Before the first call. -/
def Tally.init : Tally := ⟨.init, []⟩

/-- The calls of `process`, one after the other.  Between two of them the configuration, the
filters and the router can be changed in any way. -/
def tallyMachine : Machine Tally (ProcessCall A) where
  step s c := some ⟨(c.processed s.metrics).gateway.metrics, s.past ++ [c.ending]⟩

/-- The counters tell the truth about the calls so far. -/
structure Tally.Accounted (s : Tally) : Prop where
  total : s.metrics.totalRequests = s.past.length
  rejects : s.metrics.filterRejects = s.past.count .rejected
  errors : s.metrics.upstreamErrors = s.past.countP Ending.badGateway

/-- What a call has to keep clear of: a request without an upstream, and the end of the range. -/
def Tally.Counted (s : Tally) (c : ProcessCall A) : Prop :=
  c.ending ≠ .noUpstream ∧ s.past.length + 1 < 2 ^ 64

lemma Tally.init_accounted : Tally.init.Accounted := ⟨rfl, rfl, rfl⟩

/-- The counters after one more call. -/
lemma Tally.step_metrics {s s' : Tally} {c : ProcessCall A}
    (hstep : tallyMachine.step s c = some s') :
    s'.metrics = s.metrics.onRequest.atEnd c.ending ∧ s'.past = s.past ++ [c.ending] := by
  obtain rfl := Option.some.inj hstep
  exact ⟨(c.processed_endsAs s.metrics).metrics, rfl⟩

lemma Tally.Accounted.step {s s' : Tally} {c : ProcessCall A} (hs : s.Accounted)
    (hc : s.Counted c) (hstep : tallyMachine.step s c = some s') : s'.Accounted := by
  obtain ⟨hmetrics, hpast⟩ := step_metrics hstep
  obtain ⟨hfound, hroom⟩ := hc
  have hrejects : s.past.count .rejected ≤ s.past.length := List.count_le_length
  have herrors : s.past.countP Ending.badGateway ≤ s.past.length := List.countP_le_length
  refine ⟨?_, ?_, ?_⟩
  · rw [hmetrics, hpast, GatewayMetrics.totalRequests_atEnd, List.length_append]
    show (s.metrics.totalRequests + 1) % 2 ^ 64 = s.past.length + 1
    rw [hs.total, Nat.mod_eq_of_lt hroom]
  · rw [hmetrics, hpast, GatewayMetrics.filterRejects_atEnd, List.count_append,
      List.count_singleton]
    show (if _ then (s.metrics.filterRejects + 1) % 2 ^ 64 else s.metrics.filterRejects) = _
    rw [hs.rejects, Nat.mod_eq_of_lt (by omega)]
    by_cases hend : c.ending = .rejected
    · simp [hend]
    · simp [hend]
  · rw [hmetrics, hpast, GatewayMetrics.upstreamErrors_atEnd, List.countP_append,
      List.countP_singleton]
    show (if _ then (s.metrics.upstreamErrors + 1) % 2 ^ 64 else s.metrics.upstreamErrors) = _
    rw [hs.errors, Nat.mod_eq_of_lt (by omega)]
    by_cases hend : c.ending = .sendFailed
    · simp [hend, Ending.badGateway]
    · simp [hend, hfound, Ending.badGateway]

/-- A call that ends without an upstream is a 502 that no counter has seen. -/
lemma Tally.Accounted.breaks {s s' : Tally} {c : ProcessCall A} (hs : s.Accounted)
    (hc : ¬ s.Counted c) (hstep : tallyMachine.step s c = some s') : ¬ s'.Accounted := by
  obtain ⟨hmetrics, hpast⟩ := step_metrics hstep
  intro hs'
  by_cases hfound : c.ending = .noUpstream
  · have herrors := hs'.errors
    rw [hmetrics, hpast, hfound, List.countP_append, ← hs.errors] at herrors
    exact absurd herrors (Nat.ne_of_lt (Nat.lt_succ_self _))
  · have htotal := hs'.total
    rw [hmetrics, hpast, GatewayMetrics.totalRequests_atEnd, List.length_append] at htotal
    have hmod : (s.metrics.totalRequests + 1) % 2 ^ 64 = s.past.length + 1 := htotal
    have hlt : s.past.length + 1 < 2 ^ 64 := by omega
    exact hc ⟨hfound, hlt⟩

lemma Tally.exists_run (s : Tally) (calls : List (ProcessCall A)) :
    ∃ s', tallyMachine.run s calls = some s' := by
  induction calls generalizing s with
  | nil => exact ⟨s, rfl⟩
  | cons c calls ih => exact ih _

/-- The counters tell the truth throughout a run exactly when no call of it ends without an
upstream and the calls are fewer than `2 ^ 64`. -/
theorem Tally.accounted_iff (calls : List (ProcessCall A)) :
    tallyMachine.Throughout Tally.Accounted Tally.init calls ↔
      tallyMachine.Guarded Tally.Counted Tally.init calls := by
  obtain ⟨s', hrun⟩ := Tally.init.exists_run calls
  exact Machine.throughout_iff_guarded (fun _ _ _ hs hc => hs.step hc) (fun _ hs => hs)
    (fun _ _ _ hs hc => hs.breaks hc) init_accounted hrun

/-- A request to a gateway that has no routes. -/
def unroutedCall : ProcessCall Bytes where
  env :=
    { ssl := ⟨fun _ _ => [], fun _ => [], fun _ => []⟩
      lookup := some
      toString addr := addr
      configFile := none
      remoteAddress := none
      clocks := ⟨0, 0, 0⟩
      cachedConnected := false
      connects := true
      upstreamSends := []
      upstreamRecvs := []
      clientSends := [1000] }
  conn := { GatewayConn.init with request := ascii "GET / HTTP/1.1\r\n\r\n" }
  config := .init
  filters := .init
  index := 0

/-- It is answered with 502, and `upstream_errors` stays where it is. -/
theorem Tally.unroutedCall_unaccounted :
    ¬ tallyMachine.Throughout Tally.Accounted Tally.init [unroutedCall] := by
  have hend : unroutedCall.ending = .noUpstream := by decide +kernel
  intro h
  exact init_accounted.breaks (fun hc => hc.1 hend) rfl (h.2 _ rfl)

end CoroutineGateway
