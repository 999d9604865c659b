import CoroutineGateway.Construction.ReadOnce

/-!
# How much `read_once` buffers

The two loops of `read_once` use `m_read_buf` differently: the one over the headers fills it from
`m_read_idx` on, the one over the body starts at its base every time.  In both the request grows by
what is received, so that the first loop keeps `m_request` as long as `m_read_idx`, and the second
as long as the header block with the `have` bytes after it (`Reading.Sound`).

`buffered_throughout` reads off the bounds for every state of a call.  That these are the states of
`readOnce` is `readOnce_run`.
-/

namespace CoroutineGateway

namespace GatewayConn

variable {maxBody : ℤ} {conn : GatewayConn} {pending chunk : Bytes} {got : ℕ}

namespace Reading

/-- What is to hold in every state of a call. -/
structure Buffered (maxBody : ℤ) (s : Reading) : Prop where
  readIdx_le : s.conn.readIdx ≤ READ_BUFFER_SIZE
  /-- A `recv` writes inside of `m_read_buf`. -/
  window_le : ∀ w ∈ s.window, w.1 + w.2 ≤ READ_BUFFER_SIZE
  length_lt : (s.conn.request.length : ℤ) < 2 * READ_BUFFER_SIZE + maxBody
  /-- A request that is not too large is returned with its header block and all of its body. -/
  complete : s.pc = .returned true → s.conn.oversize = false →
    ∃ pos, Seq.find blankLine s.conn.request = some pos ∧
      s.conn.contentLength = parseContentLength s.conn.request ∧
      (0 < s.conn.contentLength → pos + 4 + s.conn.contentLength ≤ s.conn.request.length)

/-- The header block ends at `pos + 4`, and the number has been taken from it. -/
structure Parsed (conn : GatewayConn) (pos : ℕ) : Prop where
  find : Seq.find blankLine conn.request = some pos
  length_eq : conn.contentLength = parseContentLength conn.request

/-- What each loop knows at its `recv`. -/
structure Sound (maxBody : ℤ) (s : Reading) : Prop extends Buffered maxBody s where
  headers : s.pc = .headers →
    s.conn.request.length = s.conn.readIdx ∧ s.conn.readIdx < READ_BUFFER_SIZE
  body : ∀ got, s.pc = .body got → ∃ pos, Parsed s.conn pos ∧ pos + 4 ≤ READ_BUFFER_SIZE ∧
    s.conn.request.length = pos + 4 + got ∧ got < s.conn.contentLength.toNat ∧
      s.conn.contentLength ≤ maxBody

/-! ## The conditions of the loops -/

lemma Parsed.append {pos : ℕ} (h : Parsed conn pos) (chunk : Bytes) :
    Parsed { conn with request := conn.request ++ chunk } pos := by
  have hfind : Seq.find blankLine (conn.request ++ chunk) = some pos :=
    Seq.find_append_left h.find
  refine ⟨hfind, h.length_eq.trans ?_⟩
  have hle : pos ≤ conn.request.length := (Seq.find_eq_some_iff.mp h.find).1
  have hhead : (conn.request ++ chunk).take pos = conn.request.take pos :=
    List.take_append_of_le_length hle
  simp only [parseContentLength, hfind, h.find, Seq.substr, List.drop_zero, hhead]

lemma sound_returned_false (hidx : conn.readIdx ≤ READ_BUFFER_SIZE)
    (hlen : (conn.request.length : ℤ) < 2 * READ_BUFFER_SIZE + maxBody) :
    Sound maxBody ⟨.returned false, conn, pending⟩ where
  readIdx_le := hidx
  window_le := by simp [window]
  length_lt := hlen
  complete h := by cases h
  headers h := by cases h
  body _ h := by cases h

/-- A call that returns true, with what it returns. -/
lemma sound_returned_true {pos : ℕ} (hidx : conn.readIdx ≤ READ_BUFFER_SIZE)
    (hlen : (conn.request.length : ℤ) < 2 * READ_BUFFER_SIZE + maxBody)
    (hparsed : Parsed conn pos)
    (hbody : 0 < conn.contentLength → pos + 4 + conn.contentLength ≤ conn.request.length) :
    Sound maxBody ⟨.returned true, conn, pending⟩ where
  readIdx_le := hidx
  window_le := by simp [window]
  length_lt := hlen
  complete _ _ := ⟨pos, hparsed.find, hparsed.length_eq, hbody⟩
  headers h := by cases h
  body _ h := by cases h

/-- At the condition of the loop over the body, its invariant gives what the next state needs. -/
lemma sound_atBody {pos : ℕ} (hidx : conn.readIdx ≤ READ_BUFFER_SIZE) (hparsed : Parsed conn pos)
    (hpos : pos + 4 ≤ READ_BUFFER_SIZE) (hlen : conn.request.length = pos + 4 + got)
    (hsize : (conn.request.length : ℤ) < 2 * READ_BUFFER_SIZE + maxBody)
    (hmax : conn.contentLength ≤ maxBody) : Sound maxBody (atBody conn got pending) := by
  unfold atBody
  by_cases hmore : got < conn.contentLength.toNat
  · rw [if_pos hmore]
    refine { readIdx_le := hidx, window_le := by simp [window], length_lt := hsize,
             complete := fun h => by cases h
             headers := fun h => by cases h
             body := fun got' hgot => ?_ }
    obtain rfl : got = got' := by simpa using hgot
    exact ⟨pos, hparsed, hpos, hlen, hmore, hmax⟩
  · rw [if_neg hmore]
    exact sound_returned_true hidx hsize hparsed fun hpositive => by omega

/-- At the condition of the loop over the headers, everything received is in the request. -/
lemma sound_atHeaders (hM : 1 ≤ maxBody) (hlen : conn.request.length = conn.readIdx)
    (hidx : conn.readIdx ≤ READ_BUFFER_SIZE) : Sound maxBody (atHeaders maxBody conn pending) := by
  have hsize : (conn.request.length : ℤ) < 2 * READ_BUFFER_SIZE + maxBody := by omega
  unfold atHeaders
  cases hfind : Seq.find blankLine conn.request with
  | none =>
    rw [if_neg (by simp)]
    by_cases hfull : READ_BUFFER_SIZE ≤ conn.readIdx
    · rw [if_pos hfull]
      exact sound_returned_false hidx hsize
    · rw [if_neg hfull]
      refine { readIdx_le := hidx, window_le := fun w hw => ?_, length_lt := hsize,
               complete := fun h => by cases h
               headers := fun _ => ⟨hlen, by simpa using hfull⟩
               body := fun _ h => by cases h }
      obtain rfl : (conn.readIdx, READ_BUFFER_SIZE - conn.readIdx) = w := by simpa [window] using hw
      show conn.readIdx + (READ_BUFFER_SIZE - conn.readIdx) ≤ READ_BUFFER_SIZE
      omega
  | some pos =>
    have hpos : pos + 4 ≤ conn.request.length := by
      obtain ⟨-, hocc, -⟩ := Seq.find_eq_some_iff.mp hfind
      exact hocc.le_length (by decide)
    rw [if_pos (by simp)]
    simp only [afterHeaders]
    split_ifs with hover hpositive
    · exact { readIdx_le := hidx, window_le := by simp [window], length_lt := hsize,
              complete := fun _ h => by cases h
              headers := fun h => by cases h
              body := fun _ h => by cases h }
    · refine sound_atBody hidx (show Parsed _ pos from ⟨hfind, rfl⟩) (by omega) ?_ hsize ?_
      · show conn.request.length =
          pos + 4 + (conn.request.length - ((Seq.find blankLine conn.request).getD 0 + 4))
        rw [hfind, Option.getD_some]
        omega
      · show parseContentLength conn.request ≤ maxBody
        omega
    · exact sound_returned_true hidx hsize ⟨hfind, rfl⟩ fun h => absurd h hpositive

/-! ## The steps -/

lemma length_le_of_recv {len : ℕ} {n : ℤ} {rest : Bytes}
    (h : recv len n pending = some (chunk, rest)) : chunk.length ≤ len := by
  unfold recv at h
  split_ifs at h with hn hfit
  · obtain ⟨rfl, -⟩ := Prod.mk.inj (Option.some.inj h)
    exact Nat.zero_le _
  · obtain ⟨rfl, -⟩ := Prod.mk.inj (Option.some.inj h)
    rw [List.length_take]
    omega

lemma rewind_request (conn : GatewayConn) : (rewind conn).request = conn.request := by
  unfold rewind
  split_ifs <;> rfl

lemma rewind_contentLength (conn : GatewayConn) :
    (rewind conn).contentLength = conn.contentLength := by
  unfold rewind
  split_ifs <;> rfl

lemma rewind_readIdx_le (h : conn.readIdx ≤ READ_BUFFER_SIZE) :
    (rewind conn).readIdx ≤ READ_BUFFER_SIZE := by
  unfold rewind
  split_ifs
  · exact Nat.zero_le _
  · exact h

lemma Parsed.rewind {pos : ℕ} (h : Parsed conn pos) : Parsed (rewind conn) pos :=
  ⟨by rw [rewind_request]; exact h.find,
    by rw [rewind_request, rewind_contentLength]; exact h.length_eq⟩

/-- One `recv`. -/
theorem Sound.step (hM : 1 ≤ maxBody) {s s' : Reading} {n : ℤ} (hs : Sound maxBody s)
    (h : s.step maxBody n = some s') : Sound maxBody s' := by
  unfold Reading.step at h
  cases hpc : s.pc with
  | headers =>
    obtain ⟨hlen, hidx⟩ := hs.headers hpc
    simp only [hpc] at h
    obtain ⟨⟨chunk, rest⟩, hrecv, rfl⟩ := Option.map_eq_some_iff.mp h
    have hchunk := length_le_of_recv hrecv
    have hsize := hs.length_lt
    simp only [gotHeaders]
    split_ifs
    · exact sound_returned_false hs.readIdx_le hsize
    · refine sound_returned_false ?_ ?_
      · show s.conn.readIdx + chunk.length ≤ READ_BUFFER_SIZE
        omega
      · show ((s.conn.request ++ chunk).length : ℤ) < 2 * READ_BUFFER_SIZE + maxBody
        rw [List.length_append]
        omega
    · refine sound_atHeaders hM ?_ ?_
      · show (s.conn.request ++ chunk).length = s.conn.readIdx + chunk.length
        rw [List.length_append, hlen]
      · show s.conn.readIdx + chunk.length ≤ READ_BUFFER_SIZE
        omega
  | body got =>
    obtain ⟨pos, hparsed, hpos, hlen, hmore, hmax⟩ := hs.body got hpc
    simp only [hpc] at h
    obtain ⟨⟨chunk, rest⟩, hrecv, rfl⟩ := Option.map_eq_some_iff.mp h
    have hchunk := length_le_of_recv hrecv
    have hidx := rewind_readIdx_le hs.readIdx_le
    unfold gotBody
    split_ifs
    · exact sound_returned_false hidx (by rw [rewind_request]; exact hs.length_lt)
    · have hgrown : ((rewind s.conn).request ++ chunk).length = pos + 4 + (got + chunk.length) := by
        rw [List.length_append, rewind_request, hlen]
        omega
      refine sound_atBody hidx (hparsed.rewind.append chunk) hpos hgrown ?_ ?_
      · show (((rewind s.conn).request ++ chunk).length : ℤ) < 2 * READ_BUFFER_SIZE + maxBody
        omega
      · show (rewind s.conn).contentLength ≤ maxBody
        rw [rewind_contentLength]
        exact hmax
  | returned ok =>
    simp only [hpc] at h
    cases h

/-! ## The states of a call -/

/-- Where the machine stands when `read_once` has returned, or has run out of results. -/
structure Ends (s : Reading) (r : Read) : Prop where
  conn : s.conn = r.conn
  pending : s.pending = r.pending
  ok : s.pc = .returned true ↔ r.ok = true

/-- Some of the results lead the machine to the outcome. -/
def LeadsTo (maxBody : ℤ) (s : Reading) (results : List ℤ) (r : Read) : Prop :=
  ∃ used s', used <+: results ∧ (readMachine maxBody).run s used = some s' ∧ Ends s' r

variable {results : List ℤ} {r : Read}

lemma LeadsTo.of_ends {s : Reading} (h : Ends s r) : LeadsTo maxBody s results r :=
  ⟨[], s, List.nil_prefix, rfl, h⟩

lemma LeadsTo.cons {s t : Reading} {n : ℤ} (hstep : s.step maxBody n = some t)
    (h : LeadsTo maxBody t results r) : LeadsTo maxBody s (n :: results) r := by
  obtain ⟨used, s', hpre, hrun, hends⟩ := h
  exact ⟨n :: used, s', List.cons_prefix_cons.mpr ⟨rfl, hpre⟩,
    (readMachine maxBody).run_cons_eq_some.mpr ⟨t, hstep, hrun⟩, hends⟩

lemma step_atBody {n : ℤ} {rest : Bytes} (hmore : got < conn.contentLength.toNat)
    (hrecv : recv READ_BUFFER_SIZE n pending = some (chunk, rest)) :
    (atBody conn got pending).step maxBody n = some (gotBody (rewind conn) got chunk rest) := by
  have hat : atBody conn got pending = ⟨.body got, conn, pending⟩ := if_pos hmore
  rw [hat, Reading.step]
  simp only [hrecv, Option.map_some]

lemma step_atHeaders {n : ℤ} {rest : Bytes} (hfound : ¬(Seq.find blankLine conn.request).isSome)
    (hroom : ¬READ_BUFFER_SIZE ≤ conn.readIdx)
    (hrecv : recv (READ_BUFFER_SIZE - conn.readIdx) n pending = some (chunk, rest)) :
    (atHeaders maxBody conn pending).step maxBody n =
      some (gotHeaders maxBody conn chunk rest) := by
  have hat : atHeaders maxBody conn pending = ⟨.headers, conn, pending⟩ := by
    rw [atHeaders, if_neg hfound, if_neg hroom]
  rw [hat, Reading.step]
  simp only [hrecv, Option.map_some]

lemma leadsTo_readBody (h : readBody conn got pending results = some r) :
    LeadsTo maxBody (atBody conn got pending) results r := by
  induction results generalizing conn pending got with
  | nil =>
    obtain rfl := Option.some.inj h
    refine LeadsTo.of_ends ?_
    unfold atBody
    split_ifs with hmore
    · exact ⟨rfl, rfl, by simpa using hmore⟩
    · exact ⟨rfl, rfl, by simpa using hmore⟩
  | cons n results ih =>
    by_cases hmore : got < conn.contentLength.toNat
    · rw [readBody, if_pos hmore] at h
      cases hrecv : recv READ_BUFFER_SIZE n pending with
      | none =>
        rw [hrecv] at h
        cases h
      | some p =>
        obtain ⟨chunk, rest⟩ := p
        refine LeadsTo.cons (step_atBody hmore hrecv) ?_
        rw [hrecv] at h
        cases chunk with
        | nil =>
          obtain rfl := Option.some.inj h
          exact LeadsTo.of_ends ⟨rfl, rfl, by simp [gotBody]⟩
        | cons c cs =>
          rw [gotBody, if_neg (List.cons_ne_nil c cs)]
          exact ih h
    · rw [readBody, if_neg hmore] at h
      obtain rfl := Option.some.inj h
      rw [atBody, if_neg hmore]
      exact LeadsTo.of_ends ⟨rfl, rfl, by simp⟩

lemma leadsTo_readRest {r' : Read} (hok : r.ok = true) (h : readRest maxBody r = some r') :
    LeadsTo maxBody (afterHeaders maxBody r.conn r.pending) r.results r' := by
  simp only [readRest] at h
  simp only [afterHeaders]
  split_ifs at h ⊢
  · obtain rfl := Option.some.inj h
    exact LeadsTo.of_ends ⟨rfl, rfl, by simpa using hok⟩
  · exact leadsTo_readBody h
  · obtain rfl := Option.some.inj h
    exact LeadsTo.of_ends ⟨rfl, rfl, by simpa using hok⟩

/-- The loop over the headers, with what follows it. -/
lemma leadsTo_readHeaders {r' : Read} (h : readHeaders conn pending results = some r)
    (h' : (if r.ok then readRest maxBody r else some r) = some r') :
    LeadsTo maxBody (atHeaders maxBody conn pending) results r' := by
  induction results generalizing conn pending with
  | nil =>
    obtain rfl := Option.some.inj h
    unfold atHeaders
    by_cases hfound : (Seq.find blankLine conn.request).isSome
    · rw [if_pos hfound]
      rw [if_pos hfound] at h'
      exact leadsTo_readRest (r := ⟨_, conn, pending, []⟩) hfound h'
    · rw [if_neg hfound]
      rw [if_neg hfound] at h'
      obtain rfl := Option.some.inj h'
      split_ifs <;> exact LeadsTo.of_ends ⟨rfl, rfl, by simpa using hfound⟩
  | cons n results ih =>
    by_cases hfound : (Seq.find blankLine conn.request).isSome
    · rw [readHeaders, if_pos hfound] at h
      obtain rfl := Option.some.inj h
      rw [atHeaders, if_pos hfound]
      exact leadsTo_readRest (r := ⟨true, conn, pending, n :: results⟩) rfl h'
    · by_cases hfull : READ_BUFFER_SIZE ≤ conn.readIdx
      · rw [readHeaders, if_neg hfound, if_pos hfull] at h
        obtain rfl := Option.some.inj h
        obtain rfl := Option.some.inj h'
        rw [atHeaders, if_neg hfound, if_pos hfull]
        exact LeadsTo.of_ends ⟨rfl, rfl, by simp⟩
      · rw [readHeaders, if_neg hfound, if_neg hfull] at h
        cases hrecv : recv (READ_BUFFER_SIZE - conn.readIdx) n pending with
        | none =>
          rw [hrecv] at h
          cases h
        | some p =>
          obtain ⟨chunk, rest⟩ := p
          refine LeadsTo.cons (step_atHeaders hfound hfull hrecv) ?_
          rw [hrecv] at h
          cases chunk with
          | nil =>
            obtain rfl := Option.some.inj h
            obtain rfl := Option.some.inj h'
            exact LeadsTo.of_ends ⟨rfl, rfl, by simp [gotHeaders]⟩
          | cons c cs =>
            simp only [gotHeaders, if_neg (List.cons_ne_nil c cs)]
            simp only at h
            split_ifs at h ⊢
            · obtain rfl := Option.some.inj h
              obtain rfl := Option.some.inj h'
              exact LeadsTo.of_ends ⟨rfl, rfl, by simp⟩
            · exact ih h

/-- `readOnce` is a run of the machine. -/
theorem readOnce_run {client : Client} (h : readOnce maxBody conn client = some r) :
    LeadsTo maxBody (start maxBody conn client) client.results r := by
  unfold readOnce at h
  unfold start
  split_ifs at h ⊢
  · obtain rfl := Option.some.inj h
    exact LeadsTo.of_ends ⟨rfl, rfl, by simp⟩
  · cases hheaders : readHeaders conn client.pending client.results with
    | none =>
      rw [hheaders] at h
      cases h
    | some r =>
      rw [hheaders] at h
      exact leadsTo_readHeaders hheaders h

end Reading

/-! ## The bounds -/

variable {A : Type} (env : Surroundings A)

lemma forward_request (conn : GatewayConn) (gateway : Gateway A) (request path : Bytes) :
    (forward env conn gateway request path).conn.request = conn.request ∧
      (forward env conn gateway request path).conn.readIdx = conn.readIdx := by
  simp only [forward]
  cases getUpstreamSocket env _ conn.upstreams with
  | none => exact ⟨rfl, rfl⟩
  | some found =>
    simp only
    split_ifs <;> exact ⟨rfl, rfl⟩

/-- `process` takes the request out of the connection. -/
lemma process_request (conn : GatewayConn) (gateway : Gateway A) :
    (process env conn gateway).conn.request = [] ∧ (process env conn gateway).conn.readIdx = 0 := by
  simp only [process]
  cases parseRequestLine conn.request with
  | none => exact ⟨rfl, rfl⟩
  | some parsed =>
    simp only
    split_ifs <;> try exact ⟨rfl, rfl⟩
    simp only [filtered]
    cases (gateway.filters.apply env.ssl gateway.config _ env.clocks).1 with
    | pass => exact forward_request env _ _ _ _
    | reject status body => exact ⟨rfl, rfl⟩

/-- A connection as `init` or `process` leaves it. -/
def Ready (conn : GatewayConn) : Prop :=
  conn = init ∨ ∃ (A : Type) (env : Surroundings A) (before : GatewayConn) (gateway : Gateway A),
    conn = (process env before gateway).conn

lemma Ready.request {conn : GatewayConn} (h : Ready conn) :
    conn.request = [] ∧ conn.readIdx = 0 := by
  rcases h with rfl | ⟨A, env, before, gateway, rfl⟩
  · exact ⟨rfl, rfl⟩
  · exact process_request env before gateway

open Reading

/-- Whatever a client sends and however it is received, a call of `read_once` keeps within its
buffer and within `2 * READ_BUFFER_SIZE + max_body_size` bytes of request, and returns complete
requests. -/
theorem buffered_throughout {maxBody : ℤ} (hM : 1 ≤ maxBody) {conn : GatewayConn}
    (hconn : Ready conn) (client : Client) :
    (readMachine maxBody).Throughout (Buffered maxBody) (start maxBody conn client)
        client.results ∧
      ∀ r, readOnce maxBody conn client = some r →
        Buffered maxBody ⟨.returned r.ok, r.conn, r.pending⟩ := by
  obtain ⟨hrequest, hidx⟩ := hconn.request
  have hstart : Sound maxBody (start maxBody conn client) := by
    unfold start
    split_ifs
    · refine sound_returned_false (by omega) ?_
      rw [hrequest]
      simp only [List.length_nil]
      omega
    · exact sound_atHeaders hM (by rw [hrequest, hidx]; rfl) (by omega)
  constructor
  · exact Machine.throughout_of_guarded (M := readMachine maxBody)
      (fun _ _ _ hs _ h => Sound.step hM hs h) (fun _ hs => hs.toBuffered) hstart
      (Machine.guarded_true _ _)
  · intro r hr
    obtain ⟨used, s, -, hrun, hends⟩ := readOnce_run hr
    have hs := Machine.run_invariant (M := readMachine maxBody)
      (fun _ _ _ hs h => Sound.step hM hs h) hstart hrun
    refine { readIdx_le := ?_, window_le := by simp [window], length_lt := ?_, complete := ?_ }
    · show r.conn.readIdx ≤ READ_BUFFER_SIZE
      exact hends.conn ▸ hs.readIdx_le
    · show (r.conn.request.length : ℤ) < 2 * READ_BUFFER_SIZE + maxBody
      exact hends.conn ▸ hs.length_lt
    · intro hok
      have hreturned := hends.ok.mpr (by simpa using hok)
      show r.conn.oversize = false → _
      rw [← hends.conn]
      exact hs.complete hreturned

/-- A client that sends a header block and half of the body at once, and the rest later. -/
def postClient : Client :=
  ⟨true, ascii "POST /a HTTP/1.1\r\nContent-Length: 4\r\n\r\nbody", [41, 2]⟩

theorem buffered_postClient :
    (readMachine 16).Throughout (Buffered 16) (start 16 init postClient) [41, 2] ∧
      ∃ r, readOnce 16 init postClient = some r ∧ r.ok = true ∧
        Buffered 16 ⟨.returned r.ok, r.conn, r.pending⟩ := by
  have hany : (readOnce 16 init postClient).any (·.ok) = true := by
    decide +kernel
  obtain ⟨r, hr, hok⟩ := (Option.any_eq_true _ _).mp hany
  have h := buffered_throughout (show (1 : ℤ) ≤ 16 by decide) (.inl rfl) postClient
  exact ⟨h.1, r, hr, hok, h.2 r hr⟩

end GatewayConn

end CoroutineGateway
