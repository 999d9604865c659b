import CoroutineGateway.Construction.GatewayServer

/-!
# What a handler has done

Whatever the other handlers do to the singletons while a handler waits, the handler itself has done
what its own calls make of it.  What it has read is what one call of `read_once` reads with one
limit, the one that was in force when the headers were complete; what it has sent is what one call
of `process` sends with the singletons that it found (`ClientHandler.Sound`).  `sound_of_run` has
this for every handler in every state of a run.
-/

namespace CoroutineGateway

open GatewayConn

variable {A : Type*}

/-! ## Reading with a limit that changes -/

namespace GatewayConn.Reading

variable {r r' : Reading} {m m' n : ℤ}

/-- The loop over the body asks for no limit. -/
lemma step_eq_of_ne_headers (hpc : r.pc ≠ .headers) : r.step m n = r.step m' n := by
  unfold step
  cases hr : r.pc with
  | headers => exact absurd hr hpc
  | body got => rfl
  | returned ok => rfl

lemma pc_atBody_ne (conn : GatewayConn) (got : ℕ) (pending : Bytes) :
    (atBody conn got pending).pc ≠ .headers := by
  unfold atBody
  split_ifs <;> simp

lemma pc_afterHeaders_ne (maxBody : ℤ) (conn : GatewayConn) (pending : Bytes) :
    (afterHeaders maxBody conn pending).pc ≠ .headers := by
  simp only [afterHeaders]
  split_ifs
  · simp
  · exact pc_atBody_ne _ _ _
  · simp

/-- Nor does the loop over the headers while they are not complete. -/
lemma atHeaders_eq {conn : GatewayConn} {pending : Bytes}
    (hpc : (atHeaders m conn pending).pc = .headers) :
    atHeaders m' conn pending = atHeaders m conn pending := by
  unfold atHeaders at hpc ⊢
  by_cases hfound : (Seq.find blankLine conn.request).isSome = true
  · rw [if_pos hfound] at hpc
    exact absurd hpc (pc_afterHeaders_ne _ _ _)
  · rw [if_neg hfound, if_neg hfound]

lemma gotHeaders_eq {conn : GatewayConn} {chunk pending : Bytes}
    (hpc : (gotHeaders m conn chunk pending).pc = .headers) :
    gotHeaders m' conn chunk pending = gotHeaders m conn chunk pending := by
  simp only [gotHeaders] at hpc ⊢
  split_ifs at hpc ⊢
  exact atHeaders_eq hpc

/-- What has come to the body does not go back. -/
lemma step_pc_ne (hpc : r.pc ≠ .headers) (hstep : r.step m n = some r') : r'.pc ≠ .headers := by
  unfold step at hstep
  cases hr : r.pc with
  | headers => exact absurd hr hpc
  | body got =>
    simp only [hr] at hstep
    obtain ⟨got, -, rfl⟩ := Option.map_eq_some_iff.mp hstep
    simp only [gotBody]
    split_ifs
    · simp
    · exact pc_atBody_ne _ _ _
  | returned ok =>
    simp only [hr] at hstep
    cases hstep

lemma step_headers (hpc : r.pc = .headers) (hstep : r.step m n = some r')
    (hpc' : r'.pc = .headers) (m' : ℤ) : r.step m' n = some r' := by
  simp only [step, hpc] at hstep ⊢
  obtain ⟨got, hgot, rfl⟩ := Option.map_eq_some_iff.mp hstep
  rw [hgot, Option.map_some, gotHeaders_eq hpc']

/-! ## Reading leaves the upstreams alone -/

lemma upstreams_atBody (conn : GatewayConn) (got : ℕ) (pending : Bytes) :
    (atBody conn got pending).conn.upstreams = conn.upstreams := by
  unfold atBody
  split_ifs <;> rfl

lemma upstreams_atHeaders (maxBody : ℤ) (conn : GatewayConn) (pending : Bytes) :
    (atHeaders maxBody conn pending).conn.upstreams = conn.upstreams := by
  simp only [atHeaders, afterHeaders]
  split_ifs
  · rfl
  · exact upstreams_atBody _ _ _
  · rfl
  · rfl
  · rfl

lemma step_upstreams (hstep : r.step m n = some r') : r'.conn.upstreams = r.conn.upstreams := by
  unfold step at hstep
  split at hstep
  · obtain ⟨got, -, rfl⟩ := Option.map_eq_some_iff.mp hstep
    simp only [gotHeaders]
    split_ifs
    · rfl
    · rfl
    · exact upstreams_atHeaders _ _ _
  · obtain ⟨got, -, rfl⟩ := Option.map_eq_some_iff.mp hstep
    have hrewind : (rewind r.conn).upstreams = r.conn.upstreams := by
      unfold rewind
      split_ifs <;> rfl
    simp only [gotBody]
    split_ifs
    · exact hrewind
    · exact (upstreams_atBody _ _ _).trans hrewind
  · cases hstep

lemma start_upstreams (maxBody : ℤ) (client : Client) :
    (start maxBody .init client).conn.upstreams = [] := by
  unfold start
  split_ifs
  · rfl
  · exact upstreams_atHeaders _ _ _

end GatewayConn.Reading

/-! ## Calls of `process` -/

namespace Forwarding

variable {env : Surroundings A} {conn : GatewayConn} {g : Gateway A} {f : Forwarding}

/-- A call that gets to no upstream sends nothing to one. -/
lemma toUpstream_of_start (h : start env conn g = none) :
    (GatewayConn.process env conn g).toUpstream = [] := by
  simp only [GatewayConn.process]
  cases hparse : parseRequestLine conn.request with
  | none => rfl
  | some parsed =>
    obtain ⟨method, path, version⟩ := parsed
    simp only [start, hparse] at h
    dsimp only
    split_ifs at h ⊢ with hmetrics hreload hok hoversize
    · rfl
    · rfl
    · rfl
    · rfl
    · simp only [filtered]
      cases hfilters : (g.filters.apply env.ssl g.config ⟨method, path, version,
        env.remoteAddress.getD [], conn.request⟩ env.clocks).1 with
      | reject status body => rfl
      | pass =>
        simp only [hfilters, Option.map_eq_none_iff] at h
        simp only [GatewayConn.forward, h]
        rfl

/-- A call that gets to an upstream leaves the singletons as they were then, but for the metrics
where the request is not taken. -/
theorem gateway_of_start (h : start env conn g = some f) :
    (GatewayConn.process env conn g).gateway =
      if (sendAll env.upstreamSends conn.request).2.1 then g.forwarding env conn
      else (g.forwarding env conn).afterCall (.upstreamSend 0) := by
  unfold start at h
  split at h
  · cases h
  · rename_i method path version hparse
    split_ifs at h with hmetrics hreload hoversize
    dsimp only at h
    split at h
    · cases h
    · rename_i hpass
      obtain ⟨found, hfound, -⟩ := Option.map_eq_some_iff.mp h
      simp only [GatewayConn.process, hparse, hmetrics, hreload, hoversize, filtered, hpass,
        GatewayConn.forward, hfound, if_false, Bool.false_eq_true, Gateway.forwarding]
      split_ifs with hok
      · rfl
      · rfl

end Forwarding

/-! ## A handler -/

namespace ClientHandler

variable {h : ClientHandler A} {r r' : Reading} {m n : ℤ}

/-- With the limit `m`, `read_once` has got to `r`. -/
def Reads (h : ClientHandler A) (m : ℤ) (r : Reading) : Prop :=
  (readMachine m).run (Reading.start m .init h.client) h.client.results = some r

/-- `read_once` has read the request that `conn` has from a valid client, with the limit that was in
force when the headers were complete. -/
def HasRead (h : ClientHandler A) (conn : GatewayConn) : Prop :=
  h.client.valid = true ∧ ∃ pending, h.Reads h.limit ⟨.returned true, conn, pending⟩

/-- What is known of a handler by its own calls. -/
def Sound (h : ClientHandler A) : Prop :=
  match h.state with
  | .absent | .rejected => True
  | .reading r =>
    h.client.valid = true ∧ h.Reads h.limit r ∧ (r.pc = .headers → ∀ m, h.Reads m r)
  | .forwarding c calls f => h.HasRead c.conn ∧
    ∃ f₀, Forwarding.start c.env c.conn c.gateway = some f₀ ∧
      Forwarding.machine.run f₀ calls = some f
  | .answered c p => h.HasRead c.conn ∧ Forwarding.start c.env c.conn c.gateway = none ∧
    p = GatewayConn.process c.env c.conn c.gateway

lemma HasRead.upstreams {conn : GatewayConn} (hread : h.HasRead conn) : conn.upstreams = [] := by
  obtain ⟨-, pending, hrun⟩ := hread
  exact Machine.run_invariant (M := readMachine h.limit) (I := fun r => r.conn.upstreams = [])
    (fun _ _ _ hr hstep => (Reading.step_upstreams hstep).trans hr)
    (Reading.start_upstreams _ _) hrun

lemma sound_init : (init : ClientHandler A).Sound := trivial

lemma sound_handleClient (maxBody : ℤ) (client : Client) :
    (handleClient maxBody client : ClientHandler A).Sound := by
  by_cases hvalid : client.valid = true
  · have hstate : (handleClient maxBody client : ClientHandler A).state =
        .reading (Reading.start maxBody .init client) := if_pos hvalid
    have hstart : ∀ m, Reading.start m .init client = Reading.atHeaders m .init client.pending :=
      fun m => by simp [Reading.start, hvalid]
    rw [Sound, hstate]
    refine ⟨hvalid, rfl, fun hpc m => ?_⟩
    rw [hstart] at hpc
    have heq : Reading.start m .init client = Reading.start maxBody .init client := by
      rw [hstart, hstart, Reading.atHeaders_eq hpc]
    exact congrArg some heq
  · have hstate : (handleClient maxBody client : ClientHandler A).state = .rejected :=
      if_neg hvalid
    rw [Sound, hstate]
    trivial

lemma Reads.recv (hread : h.Reads m r) (hstep : r.step m n = some r') (maxBody : ℤ) :
    (h.recv maxBody n r r').Reads m r' :=
  (readMachine m).run_append hread ((readMachine m).run_cons_eq_some.mpr ⟨r', hstep, rfl⟩)

/-- A handler that has not called `process` has sent nothing. -/
lemma sent_of_call_eq_none (hcall : h.call = none) : h.toUpstream = [] ∧ h.toClient = [] := by
  cases hstate : h.state with
  | absent | rejected | reading _ => simp [toUpstream, toClient, hstate]
  | forwarding c calls f | answered c p => simp [call, hstate] at hcall

/-- One that has called it has read its request, and passes it on, or has answered by itself. -/
lemma Sound.of_call (hs : h.Sound) {c : ServerCall A} (hc : c ∈ h.call) : h.HasRead c.conn ∧
    ((∃ calls f f₀, h.state = .forwarding c calls f ∧
        Forwarding.start c.env c.conn c.gateway = some f₀ ∧
        Forwarding.machine.run f₀ calls = some f) ∨
      (h.state = .answered c (GatewayConn.process c.env c.conn c.gateway) ∧
        Forwarding.start c.env c.conn c.gateway = none)) := by
  cases hstate : h.state with
  | absent | rejected | reading _ => simp [call, hstate] at hc
  | forwarding c' calls f =>
    obtain rfl : c' = c := by simpa [call, hstate] using hc
    rw [Sound, hstate] at hs
    obtain ⟨hread, f₀, hstart, hcalls⟩ := hs
    exact ⟨hread, .inl ⟨calls, f, f₀, rfl, hstart, hcalls⟩⟩
  | answered c' p =>
    obtain rfl : c' = c := by simpa [call, hstate] using hc
    rw [Sound, hstate] at hs
    obtain ⟨hread, hstart, rfl⟩ := hs
    exact ⟨hread, .inr ⟨rfl, hstart⟩⟩

/-- A `recv` reads on with the limit that is in force then, unless the headers were complete
before. -/
lemma Sound.recv (hs : h.Sound) (hr : h.state = .reading r) (hstep : r.step m n = some r') :
    (h.recv m n r r').Sound := by
  rw [Sound, hr] at hs
  obtain ⟨hvalid, hread, hany⟩ := hs
  by_cases hpc : r.pc = .headers
  · have hlimit : (h.recv m n r r').limit = m := if_pos hpc
    refine ⟨hvalid, ?_, fun hpc' m' => ?_⟩
    · rw [hlimit]
      exact (hany hpc m).recv hstep m
    · exact (hany hpc m').recv (Reading.step_headers hpc hstep hpc' m') m
  · have hlimit : (h.recv m n r r').limit = h.limit := if_neg hpc
    rw [Reading.step_eq_of_ne_headers hpc] at hstep
    refine ⟨hvalid, ?_, fun hpc' m' => ?_⟩
    · rw [hlimit]
      exact hread.recv hstep m
    · exact absurd hpc' (Reading.step_pc_ne hpc hstep)

end ClientHandler

/-! ## All handlers -/

namespace GatewayServer

variable {s s' : GatewayServer A} {a : ServerAction A} {o : ℕ} {h : ClientHandler A}

@[simp] lemma handler_setHandler_self : (s.setHandler o h).handler o = h :=
  Function.update_self ..

@[simp] lemma handler_setHandler_of_ne {x : ℕ} (hx : x ≠ o) :
    (s.setHandler o h).handler x = s.handler x := Function.update_of_ne hx ..

/-- A step is one of one handler, and leaves the others where they are. -/
lemma forall_handler {P : ClientHandler A → Prop} (hs : ∀ x, P (s.handler x)) (hh : P h) (x : ℕ) :
    P ((s.setHandler o h).handler x) := by
  by_cases hx : x = o
  · rw [hx, handler_setHandler_self]
    exact hh
  · rw [handler_setHandler_of_ne hx]
    exact hs x

/-- What each step does. -/
def StepSpec (s s' : GatewayServer A) : ServerAction A → Prop
  | .handleClient o client =>
      s' = s.setHandler o (.handleClient s.gateway.config.maxBodySize client)
  | .recv o n => ∃ r r', (s.handler o).state = .reading r ∧
      r.step s.gateway.config.maxBodySize n = some r' ∧
      s' = s.setHandler o ((s.handler o).recv s.gateway.config.maxBodySize n r r')
  | .process o env => ∃ conn pending,
      (s.handler o).state = .reading ⟨.returned true, conn, pending⟩ ∧ s' = s.process o env conn
  | .call o b => ∃ c calls f f', (s.handler o).state = .forwarding c calls f ∧
      Forwarding.machine.step f b = some f' ∧
      s' = { s.setHandler o { s.handler o with state := .forwarding c (calls ++ [b]) f' } with
        gateway := s.gateway.afterCall b }

lemma step_spec (hstep : machine.step s a = some s') : StepSpec s s' a := by
  cases a with
  | handleClient o client =>
    simp only [machine] at hstep
    split at hstep
    next => exact (Option.some.inj hstep).symm
    next => cases hstep
  | recv o n =>
    simp only [machine] at hstep
    split at hstep
    next r hr =>
      obtain ⟨r', hr', rfl⟩ := Option.map_eq_some_iff.mp hstep
      exact ⟨r, r', hr, hr', rfl⟩
    next => cases hstep
  | process o env =>
    simp only [machine] at hstep
    split at hstep
    next conn pending hr => exact ⟨conn, pending, hr, (Option.some.inj hstep).symm⟩
    next => cases hstep
  | call o b =>
    simp only [machine] at hstep
    split at hstep
    next c calls f hf =>
      obtain ⟨f', hf', rfl⟩ := Option.map_eq_some_iff.mp hstep
      exact ⟨c, calls, f, f', hf, hf', rfl⟩
    next => cases hstep

/-- The handler that takes a step remains sound. -/
lemma sound_step (hs : ∀ x, (s.handler x).Sound) (hstep : machine.step s a = some s') (x : ℕ) :
    (s'.handler x).Sound := by
  have hspec := step_spec hstep
  cases a with
  | handleClient o client =>
    obtain rfl := hspec
    exact forall_handler hs (ClientHandler.sound_handleClient _ _) x
  | recv o n =>
    obtain ⟨r, r', hr, hr', rfl⟩ := hspec
    exact forall_handler hs ((hs o).recv hr hr') x
  | process o env =>
    obtain ⟨conn, pending, hr, rfl⟩ := hspec
    obtain ⟨hvalid, hread, -⟩ : (s.handler o).client.valid = true ∧ _ := by
      have ho := hs o
      rwa [ClientHandler.Sound, hr] at ho
    simp only [process]
    cases hstart : Forwarding.start env conn s.gateway with
    | some f =>
      have hnew : ClientHandler.Sound
          { s.handler o with state := .forwarding ⟨env, conn, s.gateway⟩ [] f } :=
        ⟨⟨hvalid, pending, hread⟩, f, hstart, rfl⟩
      exact forall_handler hs hnew x
    | none =>
      have hnew : ClientHandler.Sound { s.handler o with
          state := .answered ⟨env, conn, s.gateway⟩ (GatewayConn.process env conn s.gateway) } :=
        ⟨⟨hvalid, pending, hread⟩, hstart, rfl⟩
      exact forall_handler hs hnew x
  | call o b =>
    obtain ⟨c, calls, f, f', hf, hf', rfl⟩ := hspec
    obtain ⟨hread, f₀, hstart, hrun⟩ : (s.handler o).HasRead c.conn ∧ _ := by
      have ho := hs o
      rwa [ClientHandler.Sound, hf] at ho
    have hcalls : Forwarding.machine.run f₀ (calls ++ [b]) = some f' :=
      Forwarding.machine.run_append hrun
        (Forwarding.machine.run_cons_eq_some.mpr ⟨f', hf', Machine.run_nil _ _⟩)
    have hnew : ClientHandler.Sound
        { s.handler o with state := .forwarding c (calls ++ [b]) f' } :=
      ⟨hread, f₀, hstart, hcalls⟩
    exact forall_handler hs hnew x

/-- **What a handler has done** is what its own calls make of it, in every state of the server. -/
theorem sound_of_run {lookup : Bytes → Option A} {files : Bytes → Option (Option Bytes)}
    {as : List (ServerAction A)} (hrun : machine.run (start lookup files) as = some s) (o : ℕ) :
    (s.handler o).Sound :=
  Machine.run_invariant (I := fun s : GatewayServer A => ∀ o, (s.handler o).Sound)
    (fun _ _ _ hs hstep => sound_step hs hstep) (fun _ => ClientHandler.sound_init) hrun o

end GatewayServer

end CoroutineGateway
