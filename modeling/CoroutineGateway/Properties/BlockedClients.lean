import CoroutineGateway.Construction.FilterChain
import CoroutineGateway.Framework.Reactive

/-!
# Blocked clients have no influence

The chain of filters under a fixed configuration is a reactive system: it answers requests, and its
state is the counter of the rate limit and the cache of verified tokens.  The blacklist comes
first and ends the chain, so that a request it rejects is silent (`silent_of_blocked`): deleting
such requests from a history changes neither what any other request is answered nor the counter
and the cache (`blocked_noInfluence`).
-/

namespace CoroutineGateway

/-- A request as it reaches the filters, with the clocks it reads, marked for being kept or
deleted. -/
structure MarkedRequest where
  ctx : GatewayRequestContext
  clocks : Clocks
  kept : Bool

namespace GatewayFilterChain

variable {A : Type*} (ssl : OpenSsl) (cfg : GatewayConfig A)

/-- The filters under a configuration. -/
def reactive : Reactive GatewayFilterChain MarkedRequest Verdict where
  step filters r := filters.apply ssl cfg r.ctx r.clocks

variable {ssl cfg}

/-- A request the blacklist rejects is answered without touching the filters' state. -/
lemma silent_of_blocked {r : MarkedRequest} (h : BlacklistFilter.apply cfg r.ctx ≠ .pass) :
    (reactive ssl cfg).Silent r := by
  intro filters
  simp only [reactive, apply]
  cases hverdict : BlacklistFilter.apply cfg r.ctx with
  | pass => exact absurd hverdict h
  | reject status body => rfl

/-- **Blocked clients have no influence.**  Deleting any of the requests that the blacklist rejects
leaves the answers to all others, the counter of the rate limit and the cache as they are. -/
theorem blocked_noInfluence (ssl : OpenSsl) (cfg : GatewayConfig A) (filters : GatewayFilterChain)
    (requests : List MarkedRequest)
    (hblocked : ∀ r ∈ requests, r.kept = false → BlacklistFilter.apply cfg r.ctx ≠ .pass) :
    (reactive ssl cfg).answers filters (requests.filter (·.kept)) =
        ((reactive ssl cfg).answers filters requests).filter (·.1.kept) ∧
      (reactive ssl cfg).final filters (requests.filter (·.kept)) =
        (reactive ssl cfg).final filters requests :=
  have hsilent : ∀ r ∈ requests, r.kept = false → (reactive ssl cfg).Silent r :=
    fun r hr hkept => silent_of_blocked (hblocked r hr hkept)
  ⟨Reactive.answers_filter hsilent filters, Reactive.final_filter hsilent filters⟩

/-- A configuration with a limit of one request a second and one address on the blacklist, which
is written with its port. -/
def sampleLimits : GatewayConfig Bytes :=
  { (GatewayConfig.init : GatewayConfig Bytes) with
    blacklist := [ascii "10.0.0.9:4711"], maxQps := 1 }

/-- Two requests of a client, and between them one of the blocked address. -/
def sampleHistory : List MarkedRequest :=
  [⟨⟨[], ascii "/", [], ascii "10.0.0.2:80", []⟩, ⟨7, 7, 7⟩, true⟩,
    ⟨⟨[], ascii "/", [], ascii "10.0.0.9:4711", []⟩, ⟨7, 7, 7⟩, false⟩,
    ⟨⟨[], ascii "/", [], ascii "10.0.0.2:80", []⟩, ⟨8, 8, 8⟩, true⟩]

/-- Tokens have no part in the history. -/
def sampleSsl : OpenSsl := ⟨fun _ _ => [], fun _ => [], fun _ => []⟩

theorem blocked_noInfluence_sampleHistory :
    ((reactive sampleSsl sampleLimits).answers .init sampleHistory).map (·.2) =
        [.pass, .reject HttpStatus.forbidden (ascii "blocked\n"), .pass] ∧
      (reactive sampleSsl sampleLimits).answers .init (sampleHistory.filter (·.kept)) =
        ((reactive sampleSsl sampleLimits).answers .init sampleHistory).filter (·.1.kept) ∧
      (reactive sampleSsl sampleLimits).final .init (sampleHistory.filter (·.kept)) =
        (reactive sampleSsl sampleLimits).final .init sampleHistory :=
  ⟨by decide +kernel, blocked_noInfluence sampleSsl sampleLimits .init sampleHistory
    (by decide +kernel)⟩

end GatewayFilterChain

end CoroutineGateway
