import CoroutineGateway.Construction.Forwarding
import CoroutineGateway.Properties.RequestFraming

/-!
# A faithful relay

`process` sends the request to the upstream in as many calls as it takes, and passes on what the
upstream answers.  By the calls made so far it is known what has been received, and whether a `send`
has failed; `Sound` says where in the request, in the response of an error and in what has been
received the call stands, and every step keeps it (`step_sound`).  So what upstream and client
have accepted is, at every moment, a beginning of what they are to get (`faithfulRelay_of_run`), and
a client never gets both.

`process_eq_run` says that the functions that take all results at once do what a run does.
-/

namespace CoroutineGateway

/-- What the call has received. -/
def ForwardAction.bytes : ForwardAction → Bytes
  | .upstreamRecv bytes => bytes
  | _ => []

namespace Forwarding

open GatewayConn

variable {request chunk : Bytes} {as : List ForwardAction} {a : ForwardAction} {s s' : Forwarding}
  {n : ℤ} {buf left sent : ℕ}

/-! ## The calls so far -/

/-- The concatenation of the chunks received. -/
def received (as : List ForwardAction) : Bytes := as.flatMap ForwardAction.bytes

/-- A `send` to the upstream has failed. -/
def UpstreamFails (as : List ForwardAction) : Prop := ∃ n ≤ 0, .upstreamSend n ∈ as

/-- A `send` to the client has failed. -/
def ClientFails (as : List ForwardAction) : Prop := ∃ n ≤ 0, .clientSend n ∈ as

/-- What upstream and client have accepted is what they are to get, as far as the calls go. -/
structure Faithful (request : Bytes) (as : List ForwardAction) (s : Forwarding) : Prop where
  upstream : s.toUpstream <+: request
  whole_request : ¬ UpstreamFails as → (∀ buf left, s.pc ≠ .sendRequest buf left) →
    s.toUpstream = request
  error : UpstreamFails as → received as = [] ∧ s.toClient <+: sendFailed
  whole_error : UpstreamFails as → ¬ ClientFails as → s.pc = .returned → s.toClient = sendFailed
  relayed : ¬ UpstreamFails as → s.toClient <+: received as
  whole_answer : ¬ UpstreamFails as → ¬ ClientFails as → s.pc = .receive ∨ s.pc = .returned →
    s.toClient = received as

/-- What has been sent, by where the call stands. -/
inductive Sound (request : Bytes) (as : List ForwardAction) : Forwarding → Prop
  | sendRequest (buf left : ℕ) (hfails : ¬ UpstreamFails as) (hreceived : received as = [])
      (hlen : buf + left = request.length) :
      Sound request as ⟨request, .sendRequest buf left, request.take buf, []⟩
  | sendResponse (buf left : ℕ) (toUpstream : Bytes) (hfails : UpstreamFails as)
      (hreceived : received as = []) (hlen : buf + left = sendFailed.length)
      (hupstream : toUpstream <+: request) :
      Sound request as ⟨request, .sendResponse buf left, toUpstream, sendFailed.take buf⟩
  | receive (hfails : ¬ UpstreamFails as) :
      Sound request as ⟨request, .receive, request, received as⟩
  | sendChunk (chunk : Bytes) (sent : ℕ) (toClient : Bytes) (hfails : ¬ UpstreamFails as)
      (hclient : toClient ++ chunk.drop sent = received as) :
      Sound request as ⟨request, .sendChunk chunk sent, request, toClient⟩
  | failed (toUpstream toClient : Bytes) (hfails : UpstreamFails as) (hreceived : received as = [])
      (hupstream : toUpstream <+: request) (hclient : toClient <+: sendFailed)
      (hall : ¬ ClientFails as → toClient = sendFailed) :
      Sound request as ⟨request, .returned, toUpstream, toClient⟩
  | relayed (toClient : Bytes) (hfails : ¬ UpstreamFails as) (hclient : toClient <+: received as)
      (hall : ¬ ClientFails as → toClient = received as) :
      Sound request as ⟨request, .returned, request, toClient⟩

@[simp] lemma received_snoc : received (as ++ [a]) = received as ++ a.bytes := by
  simp [received]

lemma upstreamFails_snoc :
    UpstreamFails (as ++ [a]) ↔ UpstreamFails as ∨ ∃ n ≤ 0, a = .upstreamSend n := by
  simp only [UpstreamFails, List.mem_append, List.mem_singleton, and_or_left, exists_or, eq_comm]

lemma clientFails_snoc :
    ClientFails (as ++ [a]) ↔ ClientFails as ∨ ∃ n ≤ 0, a = .clientSend n := by
  simp only [ClientFails, List.mem_append, List.mem_singleton, and_or_left, exists_or, eq_comm]

/-! ## The tests of the loops -/

lemma sound_sendingRequest (buf : ℕ) (hfails : ¬ UpstreamFails as) (hreceived : received as = [])
    (hlen : buf + left = request.length) :
    Sound request as ⟨request, sendingRequest buf left, request.take buf, []⟩ := by
  unfold sendingRequest
  split_ifs with hleft
  · exact .sendRequest buf left hfails hreceived hlen
  · rw [List.take_of_length_le (by omega), ← hreceived]
    exact .receive hfails

lemma sound_sendingResponse (buf : ℕ) {toUpstream : Bytes} (hfails : UpstreamFails as)
    (hreceived : received as = []) (hlen : buf + left = sendFailed.length)
    (hupstream : toUpstream <+: request) :
    Sound request as ⟨request, sendingResponse buf left, toUpstream, sendFailed.take buf⟩ := by
  unfold sendingResponse
  split_ifs with hleft
  · exact .sendResponse buf left toUpstream hfails hreceived hlen hupstream
  · exact .failed _ _ hfails hreceived hupstream (List.take_prefix ..) fun _ =>
      List.take_of_length_le (by omega)

lemma sound_sendingChunk {toClient : Bytes} (hfails : ¬ UpstreamFails as)
    (hclient : toClient ++ chunk.drop sent = received as) :
    Sound request as ⟨request, sendingChunk chunk sent, request, toClient⟩ := by
  unfold sendingChunk
  split_ifs with hsent
  · exact .sendChunk chunk sent toClient hfails hclient
  · rw [List.drop_of_length_le (by omega), List.append_nil] at hclient
    rw [hclient]
    exact .receive hfails

/-! ## Steps -/

/-- A call on the client is none on the upstream. -/
lemma upstreamFails_clientSend : UpstreamFails (as ++ [.clientSend n]) ↔ UpstreamFails as := by
  simp [upstreamFails_snoc]

lemma received_clientSend : received (as ++ [.clientSend n]) = received as := by
  simp [ForwardAction.bytes]

lemma upstreamSend_sound (hfails : ¬ UpstreamFails as) (hreceived : received as = [])
    (hlen : buf + left = request.length)
    (h : upstreamSend ⟨request, .sendRequest buf left, request.take buf, []⟩ buf left n = some s') :
    s'.Sound request (as ++ [.upstreamSend n]) := by
  have hreceived' : received (as ++ [.upstreamSend n]) = [] := by
    simp [hreceived, ForwardAction.bytes]
  simp only [upstreamSend] at h
  split_ifs at h with hn hfit
  · obtain rfl := Option.some.inj h
    exact sound_sendingResponse 0 (upstreamFails_snoc.mpr (.inr ⟨n, hn, rfl⟩)) hreceived'
      (Nat.zero_add _) (List.take_prefix ..)
  · obtain rfl := Option.some.inj h
    rw [← List.take_add]
    refine sound_sendingRequest _ (fun hnew => ?_) hreceived' (by omega)
    rcases upstreamFails_snoc.mp hnew with hold | ⟨m, hm, heq⟩
    · exact hfails hold
    · cases heq
      exact hn hm

lemma sendResponse_sound {toUpstream : Bytes} (hfails : UpstreamFails as)
    (hreceived : received as = []) (hlen : buf + left = sendFailed.length)
    (hupstream : toUpstream <+: request)
    (h : sendResponse ⟨request, .sendResponse buf left, toUpstream, sendFailed.take buf⟩ buf left
      n = some s') : s'.Sound request (as ++ [.clientSend n]) := by
  have hfails' := upstreamFails_clientSend (n := n).mpr hfails
  have hreceived' := (received_clientSend (n := n)).trans hreceived
  simp only [sendResponse] at h
  split_ifs at h with hn hfit
  · obtain rfl := Option.some.inj h
    exact .failed _ _ hfails' hreceived' hupstream (List.take_prefix ..) fun hno =>
      absurd (clientFails_snoc.mpr (.inr ⟨n, hn, rfl⟩)) hno
  · obtain rfl := Option.some.inj h
    rw [← List.take_add]
    exact sound_sendingResponse _ hfails' hreceived' (by omega) hupstream

lemma upstreamRecv_sound (hfails : ¬ UpstreamFails as)
    (h : upstreamRecv ⟨request, .receive, request, received as⟩ chunk = some s') :
    s'.Sound request (as ++ [.upstreamRecv chunk]) := by
  have hfails' : ¬ UpstreamFails (as ++ [.upstreamRecv chunk]) := by
    simpa [upstreamFails_snoc] using hfails
  have hreceived : received (as ++ [.upstreamRecv chunk]) = received as ++ chunk := received_snoc
  simp only [upstreamRecv] at h
  split_ifs at h with hnil hfit
  · obtain rfl := Option.some.inj h
    rw [hnil, List.append_nil] at hreceived
    rw [hnil] at hfails' ⊢
    exact .relayed _ hfails' (hreceived ▸ List.prefix_rfl) fun _ => hreceived.symm
  · obtain rfl := Option.some.inj h
    exact sound_sendingChunk hfails' hreceived.symm

lemma sendChunk_sound {toClient : Bytes} (hfails : ¬ UpstreamFails as)
    (hclient : toClient ++ chunk.drop sent = received as)
    (h : sendChunk ⟨request, .sendChunk chunk sent, request, toClient⟩ chunk sent n = some s') :
    s'.Sound request (as ++ [.clientSend n]) := by
  have hfails' := mt (upstreamFails_clientSend (n := n)).mp hfails
  rw [← received_clientSend (n := n)] at hclient
  simp only [sendChunk] at h
  split_ifs at h with hn hfit
  · obtain rfl := Option.some.inj h
    exact .relayed _ hfails' ⟨_, hclient⟩ fun hno =>
      absurd (clientFails_snoc.mpr (.inr ⟨n, hn, rfl⟩)) hno
  · obtain rfl := Option.some.inj h
    refine sound_sendingChunk hfails' ?_
    rw [← hclient, List.append_assoc, ← List.drop_drop, List.take_append_drop]

/-- Every call leaves what has been sent sound. -/
lemma step_sound (hs : s.Sound request as) (h : machine.step s a = some s') :
    s'.Sound request (as ++ [a]) := by
  cases hs with
  | sendRequest buf left hfails hreceived hlen =>
    cases a with
    | upstreamSend n => exact upstreamSend_sound hfails hreceived hlen h
    | _ => cases h
  | sendResponse buf left toUpstream hfails hreceived hlen hupstream =>
    cases a with
    | clientSend n => exact sendResponse_sound hfails hreceived hlen hupstream h
    | _ => cases h
  | receive hfails =>
    cases a with
    | upstreamRecv chunk => exact upstreamRecv_sound hfails h
    | _ => cases h
  | sendChunk chunk sent toClient hfails hclient =>
    cases a with
    | clientSend n => exact sendChunk_sound hfails hclient h
    | _ => cases h
  | _ => cases a <;> cases h

/-! ## Runs -/

lemma Sound.faithful (hs : s.Sound request as) : s.Faithful request as := by
  cases hs with
  | sendRequest buf left hfails =>
    exact ⟨List.take_prefix .., fun _ h => absurd rfl (h buf left), fun h => absurd h hfails,
      fun h => absurd h hfails, fun _ => List.nil_prefix, fun _ _ h => by simp at h⟩
  | sendResponse buf left toUpstream hfails hreceived hlen hupstream =>
    exact ⟨hupstream, fun h => absurd hfails h, fun _ => ⟨hreceived, List.take_prefix ..⟩,
      fun _ _ h => (by cases h), fun h => absurd hfails h, fun h => absurd hfails h⟩
  | receive hfails =>
    exact ⟨List.prefix_rfl, fun _ _ => rfl, fun h => absurd h hfails, fun h => absurd h hfails,
      fun _ => List.prefix_rfl, fun _ _ _ => rfl⟩
  | sendChunk chunk sent toClient hfails hclient =>
    exact ⟨List.prefix_rfl, fun _ _ => rfl, fun h => absurd h hfails, fun h => absurd h hfails,
      fun _ => ⟨_, hclient⟩, fun _ _ h => by simp at h⟩
  | failed toUpstream toClient hfails hreceived hupstream hclient hall =>
    exact ⟨hupstream, fun h => absurd hfails h, fun _ => ⟨hreceived, hclient⟩,
      fun _ hno _ => hall hno, fun h => absurd hfails h, fun h => absurd hfails h⟩
  | relayed toClient hfails hclient hall =>
    exact ⟨List.prefix_rfl, fun _ _ => rfl, fun h => absurd h hfails, fun h => absurd h hfails,
      fun _ => hclient, fun _ hno _ => hall hno⟩

lemma init_sound (request : Bytes) : (init request).Sound request [] := by
  have hfails : ¬ UpstreamFails [] := by simp [UpstreamFails]
  exact sound_sendingRequest 0 hfails rfl (Nat.zero_add _)

variable {A : Type*} {env : Surroundings A} {conn : GatewayConn} {gateway : Gateway A}

/-- What `process` does with a request that it forwards. -/
lemma process_of_start (h : start env conn gateway = some s) :
    s = init conn.request ∧
      (process env conn gateway).toUpstream = (sendAll env.upstreamSends conn.request).1 ∧
      (process env conn gateway).toClient =
        if (sendAll env.upstreamSends conn.request).2.1 then relay env.upstreamRecvs env.clientSends
        else (sendAll env.clientSends sendFailed).1 := by
  unfold start at h
  split at h
  · cases h
  · rename_i method path version hparse
    split_ifs at h with hmetrics hreload hoversize
    dsimp only at h
    split at h
    · cases h
    · rename_i hpass
      obtain ⟨found, hfound, rfl⟩ := Option.map_eq_some_iff.mp h
      refine ⟨rfl, ?_⟩
      simp only [process, hparse, hmetrics, hreload, hoversize, filtered, hpass, forward, hfound,
        if_false, Bool.false_eq_true]
      split_ifs with hok
      · exact ⟨rfl, rfl⟩
      · exact ⟨rfl, rfl⟩

/-- **Faithful relay.**  Between any two calls that `process` makes for a request that it forwards,
the upstream has accepted a beginning of the request, all of it if no `send` to it has failed and
the loop has ended.  If one has failed, nothing has been received, and the client has accepted a
beginning of the one response that says so.  Otherwise the client has accepted a beginning of what
has been received.  If no `send` to the client has failed, it has all of the response at the end,
and all that has been received before the next `recv` and at the end. -/
theorem faithfulRelay_of_run (env : Surroundings A) (conn : GatewayConn) (gateway : Gateway A)
    (hstart : start env conn gateway = some s) (hrun : machine.run s as = some s') :
    s'.Faithful conn.request as := by
  obtain rfl := (process_of_start hstart).1
  exact (Machine.run_history (fun _ _ _ _ => step_sound) (init_sound conn.request) hrun).faithful

/-- A request that is sent in two parts, and an answer of two chunks, the first of which is passed
on in two parts and the second one not to its end. -/
def partialCalls : List ForwardAction :=
  [.upstreamSend 30, .upstreamSend 11, .upstreamRecv (ascii "abc"), .clientSend 1, .clientSend 2,
    .upstreamRecv (ascii "def"), .clientSend 2, .clientSend (-1)]

theorem faithful_partialCalls :
    ∃ s s', start sampleSurroundings { GatewayConn.init with request := sampleFirst.text }
        sampleGateway = some s ∧
      machine.run s partialCalls = some s' ∧ s'.pc = .returned ∧ s'.toClient = ascii "abcde" ∧
      s'.Faithful sampleFirst.text partialCalls := by
  have hstart : start sampleSurroundings { GatewayConn.init with request := sampleFirst.text }
      sampleGateway = some (init sampleFirst.text) := by decide +kernel
  have hrun : machine.run (init sampleFirst.text) partialCalls =
      some ⟨sampleFirst.text, .returned, sampleFirst.text, ascii "abcde"⟩ := by decide +kernel
  exact ⟨_, _, hstart, hrun, rfl, rfl, faithfulRelay_of_run _ _ _ hstart hrun⟩

/-! ## All results at once -/

lemma sendAll_nil (results : List ℤ) : sendAll results [] = ([], true, results) := by
  cases results <;> rfl

lemma sendAll_cons {data : Bytes} (hdata : data ≠ []) (n : ℤ) (results : List ℤ) :
    sendAll (n :: results) data = if n ≤ 0 then ([], false, results)
      else (data.take n.toNat ++ (sendAll results (data.drop n.toNat)).1,
        (sendAll results (data.drop n.toNat)).2) := by
  cases data with
  | nil => exact absurd rfl hdata
  | cons c data => rfl

/-- A loop that sends `data`, `state k` being where `k` bytes of it have been accepted. -/
lemma run_sendAll (act : ℤ → ForwardAction) (state failed : ℕ → Forwarding) (data : Bytes)
    (hstep : ∀ k n : ℕ, k < data.length → 0 < n → n ≤ data.length - k →
      machine.step (state k) (act n) = some (state (k + n)))
    (hfail : ∀ (k : ℕ) (n : ℤ), k < data.length → n ≤ 0 →
      machine.step (state k) (act n) = some (failed k))
    (results : List ℤ) (k : ℕ) (hk : k ≤ data.length) :
    ∃ as, machine.run (state k) as =
      some (if (sendAll results (data.drop k)).2.1 then state data.length
        else failed (k + (sendAll results (data.drop k)).1.length)) := by
  induction results generalizing k with
  | nil =>
    rcases hk.eq_or_lt with rfl | hlt
    · exact ⟨[], by rw [List.drop_length, sendAll_nil]; rfl⟩
    · -- the results have run out, which counts as a failure
      obtain ⟨c, rest, hdrop⟩ := List.exists_cons_of_ne_nil (l := data.drop k) (by simpa using hlt)
      rw [hdrop]
      exact ⟨[act 0], machine.run_cons_eq_some.mpr ⟨_, hfail k 0 hlt le_rfl, rfl⟩⟩
  | cons n results ih =>
    rcases hk.eq_or_lt with rfl | hlt
    · exact ⟨[], by rw [List.drop_length, sendAll_nil]; rfl⟩
    · rw [sendAll_cons (by simpa using hlt), List.drop_drop]
      by_cases hn : n ≤ 0
      · rw [if_pos hn]
        exact ⟨[act n], machine.run_cons_eq_some.mpr ⟨_, hfail k n hlt hn, rfl⟩⟩
      · -- no more than what is left counts as accepted
        set m := min n.toNat (data.length - k) with hm
        have hdrop : data.drop (k + n.toNat) = data.drop (k + m) := by
          rcases le_total n.toNat (data.length - k) with hle | hle
          · rw [hm, min_eq_left hle]
          · rw [List.drop_of_length_le (by omega), List.drop_of_length_le (by omega)]
        have htake : ((data.drop k).take n.toNat).length = m := by
          rw [List.length_take, List.length_drop]
        obtain ⟨as, has⟩ := ih (k + m) (by omega)
        refine ⟨act m :: as, machine.run_cons_eq_some.mpr
          ⟨_, hstep k m hlt (by omega) (by omega), has.trans ?_⟩⟩
        rw [if_neg hn, hdrop]
        simp only [List.length_append, htake, Nat.add_assoc]

/-- What a loop that has been completed has sent. -/
lemma sendAll_whole {results : List ℤ} {data : Bytes} (h : (sendAll results data).2.1 = true) :
    (sendAll results data).1 = data := by
  induction results generalizing data with
  | nil =>
    cases data with
    | nil => rfl
    | cons c rest => cases h
  | cons n results ih =>
    cases data with
    | nil => rfl
    | cons c rest =>
      rw [sendAll_cons (List.cons_ne_nil c rest)] at h ⊢
      split_ifs at h ⊢
      rw [ih h, List.take_append_drop]

/-- What has been sent when a loop has ended. -/
lemma take_sendAll (results : List ℤ) (data : Bytes) :
    data.take (sendAll results data).1.length = (sendAll results data).1 := by
  have hsent : (sendAll results data).1 <+: data := sendAll_prefix results data
  exact (List.prefix_iff_eq_take.mp hsent).symm

/-- The loop that sends the request. -/
lemma run_sendRequest (request : Bytes) (results : List ℤ) :
    ∃ as, machine.run (init request) as =
      some (if (sendAll results request).2.1 then ⟨request, .receive, request, []⟩
        else ⟨request, sendingResponse 0 sendFailed.length, (sendAll results request).1, []⟩) := by
  obtain ⟨as, has⟩ := run_sendAll .upstreamSend
    (fun k => ⟨request, sendingRequest k (request.length - k), request.take k, []⟩)
    (fun k => ⟨request, sendingResponse 0 sendFailed.length, request.take k, []⟩) request
    (fun k n hk hn hfit => by
      have hpc : sendingRequest k (request.length - k) = .sendRequest k (request.length - k) :=
        if_pos (by omega)
      have hfit' : (n : ℤ) ≤ (request.length - k : ℕ) := by omega
      simp only [machine, hpc, upstreamSend]
      rw [if_neg (by omega), if_pos hfit', Int.toNat_natCast, Nat.sub_sub, List.take_add])
    (fun k n hk hn => by
      have hpc : sendingRequest k (request.length - k) = .sendRequest k (request.length - k) :=
        if_pos (by omega)
      simp only [machine, hpc, upstreamSend]
      rw [if_pos hn])
    results 0 (Nat.zero_le _)
  refine ⟨as, has.trans ?_⟩
  simp [take_sendAll, sendingRequest]

/-- `send_simple_response`. -/
lemma run_sendResponse (request toUpstream : Bytes) (results : List ℤ) :
    ∃ as, machine.run ⟨request, sendingResponse 0 sendFailed.length, toUpstream, []⟩ as =
      some ⟨request, .returned, toUpstream, (sendAll results sendFailed).1⟩ := by
  obtain ⟨as, has⟩ := run_sendAll .clientSend
    (fun k => ⟨request, sendingResponse k (sendFailed.length - k), toUpstream, sendFailed.take k⟩)
    (fun k => ⟨request, .returned, toUpstream, sendFailed.take k⟩) sendFailed
    (fun k n hk hn hfit => by
      have hpc : sendingResponse k (sendFailed.length - k) =
        .sendResponse k (sendFailed.length - k) := if_pos (by omega)
      have hfit' : (n : ℤ) ≤ (sendFailed.length - k : ℕ) := by omega
      simp only [machine, hpc, sendResponse]
      rw [if_neg (by omega), if_pos hfit', Int.toNat_natCast, Nat.sub_sub, List.take_add])
    (fun k n hk hn => by
      have hpc : sendingResponse k (sendFailed.length - k) =
        .sendResponse k (sendFailed.length - k) := if_pos (by omega)
      simp only [machine, hpc, sendResponse]
      rw [if_pos hn])
    results 0 (Nat.zero_le _)
  rw [List.take_zero, Nat.sub_zero, List.drop_zero] at has
  refine ⟨as, has.trans ?_⟩
  split_ifs with hok
  · have hdone : sendingResponse sendFailed.length (sendFailed.length - sendFailed.length) =
        .returned := if_neg (by rw [Nat.sub_self]; exact lt_irrefl 0)
    rw [hdone, sendAll_whole hok, List.take_length]
  · simp [take_sendAll]

/-- The loop that sends a chunk. -/
lemma run_sendChunk (request toUpstream toClient chunk : Bytes) (results : List ℤ) :
    ∃ as, machine.run ⟨request, sendingChunk chunk 0, toUpstream, toClient⟩ as =
      some ⟨request, if (sendAll results chunk).2.1 then .receive else .returned, toUpstream,
        toClient ++ (sendAll results chunk).1⟩ := by
  obtain ⟨as, has⟩ := run_sendAll .clientSend
    (fun k => ⟨request, sendingChunk chunk k, toUpstream, toClient ++ chunk.take k⟩)
    (fun k => ⟨request, .returned, toUpstream, toClient ++ chunk.take k⟩) chunk
    (fun k n hk hn hfit => by
      have hpc : sendingChunk chunk k = .sendChunk chunk k := if_pos hk
      have hfit' : (n : ℤ) ≤ (chunk.length - k : ℕ) := by omega
      simp only [machine, hpc, sendChunk]
      rw [if_neg (by omega), if_pos hfit', Int.toNat_natCast, List.take_add, List.append_assoc])
    (fun k n hk hn => by
      have hpc : sendingChunk chunk k = .sendChunk chunk k := if_pos hk
      simp only [machine, hpc, sendChunk]
      rw [if_pos hn])
    results 0 (Nat.zero_le _)
  rw [List.take_zero, List.append_nil] at has
  refine ⟨as, has.trans ?_⟩
  rw [List.drop_zero]
  split_ifs with hok
  · simp [sendingChunk, sendAll_whole hok]
  · simp [take_sendAll]

/-- The loop that passes the answer on. -/
lemma run_relay (request toUpstream toClient : Bytes) (chunks : List Bytes) (results : List ℤ) :
    ∃ as, machine.run ⟨request, .receive, toUpstream, toClient⟩ as =
      some ⟨request, .returned, toUpstream, toClient ++ relay chunks results⟩ := by
  induction chunks generalizing toClient results with
  | nil =>
    refine ⟨[.upstreamRecv []], ?_⟩
    simp [Machine.run, machine, upstreamRecv, relay]
  | cons chunk chunks ih =>
    by_cases hnil : chunk.take 4096 = []
    · refine ⟨[.upstreamRecv []], ?_⟩
      simp [Machine.run, machine, upstreamRecv, relay, hnil]
    · have hrecv : machine.step ⟨request, .receive, toUpstream, toClient⟩
          (.upstreamRecv (chunk.take 4096)) =
          some ⟨request, sendingChunk (chunk.take 4096) 0, toUpstream, toClient⟩ := by
        have hfit : (chunk.take 4096).length ≤ bufferSize := List.length_take_le ..
        simp only [machine, upstreamRecv, if_neg hnil, if_pos hfit]
      obtain ⟨as, has⟩ := run_sendChunk request toUpstream toClient (chunk.take 4096) results
      have hfirst := machine.run_cons_eq_some.mpr ⟨_, hrecv, has⟩
      cases hok : (sendAll results (chunk.take 4096)).2.1 with
      | false =>
        refine ⟨_, hfirst.trans ?_⟩
        simp [relay, hnil, hok]
      | true =>
        rw [hok, if_pos rfl] at hfirst
        obtain ⟨bs, hbs⟩ := ih (toClient ++ (sendAll results (chunk.take 4096)).1)
          (sendAll results (chunk.take 4096)).2.2
        refine ⟨_, (machine.run_append hfirst hbs).trans ?_⟩
        simp [relay, hnil, hok]

/-- `process` does what some run does that makes its calls one by one. -/
theorem process_eq_run (hstart : start env conn gateway = some s) :
    ∃ as s', machine.run s as = some s' ∧ s'.pc = .returned ∧
      s'.toUpstream = (process env conn gateway).toUpstream ∧
      s'.toClient = (process env conn gateway).toClient := by
  obtain ⟨rfl, hupstream, hclient⟩ := process_of_start hstart
  rw [hupstream, hclient]
  obtain ⟨as, has⟩ := run_sendRequest conn.request env.upstreamSends
  split_ifs at has with hok
  · obtain ⟨bs, hbs⟩ := run_relay conn.request conn.request [] env.upstreamRecvs env.clientSends
    exact ⟨_, _, machine.run_append has hbs, rfl, (sendAll_whole hok).symm, by simp [hok]⟩
  · obtain ⟨bs, hbs⟩ := run_sendResponse conn.request (sendAll env.upstreamSends conn.request).1
      env.clientSends
    exact ⟨_, _, machine.run_append has hbs, rfl, rfl, by simp [hok]⟩

end Forwarding

end CoroutineGateway
