import CoroutineGateway.Construction.GatewayConn
import CoroutineGateway.Framework.HttpMessage

/-!
# What `read_once` takes for a request

A client sends requests back to back, and `recv` cuts the stream as it likes.  `read_once`
appends what every `recv` delivers to `m_request` and stops as soon as it has enough: the header
block and as many bytes as the number after the first `Content-Length:` in it says.  It never
cuts off what it has too much, so `m_request` is the stream up to the first end of a `recv` that
is far enough (`readOnce_spec`).

`framed_iff` says when that is the first request: exactly when the first such end is the end of
the request, or there is none.  Where the header block says `Content-Length:` nowhere but in the
field of that name, "far enough" is the end of the request (`target_eq`), and the condition is
that no `recv` delivers bytes from both sides of it.  Otherwise what follows is forwarded with the
first request, past the filters (`second_request_forwarded`).
-/

namespace CoroutineGateway

namespace GatewayConn

open Http

/-! ## The ends of the `recv` calls -/

/-- The position after the first `recv` that ends at `target` or later, for calls that start at
`acc` and return `results`; `none` if a call fails before. -/
def reach (target acc : ℕ) : List ℤ → Option ℕ
  | [] => if target ≤ acc then some acc else none
  | n :: results =>
    if target ≤ acc then some acc
    else if n ≤ 0 then none
    else reach target (acc + n.toNat) results

/-- The number that follows the first `Content-Length:` in a header block; zero if there is
none. -/
def declared (first : Request) : ℤ :=
  match first.after (ascii "Content-Length:") with
  | none => 0
  | some line =>
    match Text.trim line with
    | none => 0
    | some num => Text.strtol num

/-- Where reading stops: after the header block and the declared number of bytes, unless that is
too much to be read at all. -/
def target (maxBody : ℤ) (first : Request) : ℕ :=
  first.head.length + if declared first > maxBody then 0 else (declared first).toNat

/-- The first `recv` that reaches the target, if one does, ends where the request ends. -/
def Aligned (maxBody : ℤ) (first : Request) (client : Client) : Prop :=
  client.valid = true → ∀ k, reach (target maxBody first) 0 client.results = some k →
    k = first.text.length

variable {goal acc : ℕ} {results : List ℤ}

lemma reach_of_le (h : goal ≤ acc) : reach goal acc results = some acc := by
  cases results <;> simp [reach, h]

lemma reach_cons_of_pos {n : ℤ} (h : acc < goal) (hn : 0 < n) :
    reach goal acc (n :: results) = reach goal (acc + n.toNat) results := by
  rw [reach, if_neg (by omega), if_neg (by omega)]

lemma reach_cons_of_nonpos {n : ℤ} (h : acc < goal) (hn : n ≤ 0) :
    reach goal acc (n :: results) = none := by
  rw [reach, if_neg (by omega), if_pos hn]

lemma reach_nil_of_lt (h : acc < goal) : reach goal acc [] = none := if_neg (by omega)

/-! ## One `recv` -/

variable {len : ℕ} {n : ℤ} {pending stream rest chunk : Bytes}

/-- A `recv` fails, or it delivers the next bytes of the stream. -/
lemma recv_eq_some (h : recv len n (stream.drop acc) = some (chunk, rest))
    (hacc : acc ≤ stream.length) :
    (n ≤ 0 ∧ chunk = []) ∨
      (0 < n ∧ chunk ≠ [] ∧ chunk.length = n.toNat ∧ n.toNat ≤ len ∧
        acc + n.toNat ≤ stream.length ∧ stream.take acc ++ chunk = stream.take (acc + n.toNat) ∧
        rest = stream.drop (acc + n.toNat)) := by
  unfold recv at h
  by_cases hn : n ≤ 0
  · rw [if_pos hn] at h
    exact .inl ⟨hn, (Prod.mk.inj (Option.some.inj h)).1.symm⟩
  · rw [if_neg hn] at h
    by_cases hfit : n ≤ len ∧ n ≤ (stream.drop acc).length
    · rw [if_pos hfit] at h
      obtain ⟨rfl, rfl⟩ := Prod.mk.inj (Option.some.inj h)
      have hlen : ((stream.drop acc).take n.toNat).length = n.toNat := by
        rw [List.length_take]
        omega
      have hfit' := hfit.2
      rw [List.length_drop] at hfit'
      refine .inr ⟨by omega, fun hnil => ?_, hlen, by omega, by omega, List.take_add.symm, ?_⟩
      · rw [hnil] at hlen
        simp only [List.length_nil] at hlen
        omega
      · rw [List.drop_drop]
    · rw [if_neg hfit] at h
      cases h

/-! ## The loops -/

/-- `acc` bytes of the stream have been read, and they are the request so far. -/
structure At (stream : Bytes) (acc : ℕ) (conn : GatewayConn) (pending : Bytes) : Prop where
  le : acc ≤ stream.length
  request : conn.request = stream.take acc
  pending : pending = stream.drop acc

variable {conn : GatewayConn} {r : Read} {pos : ℕ}

/-- The headers are complete once the bytes read reach the end of the header block. -/
lemma complete_iff (hpos : Seq.find blankLine stream = some pos)
    (hat : At stream acc conn pending) :
    (Seq.find blankLine conn.request).isSome = true ↔ pos + 4 ≤ acc := by
  have hne : blankLine ≠ [] := List.cons_ne_nil _ _
  rw [hat.request]
  constructor
  · intro h
    by_contra hlt
    have hnone := Seq.find_take_eq_none hne hpos (p := acc) (by simpa using hlt)
    rw [hnone] at h
    cases h
  · intro h
    rw [Seq.find_take hne hpos (by simpa using h)]
    rfl

/-- The first loop: it ends after the first `recv` that reaches the end of the header block, or
the results end before.  Positions beyond the header block are reached by what it leaves. -/
lemma readHeaders_spec (hpos : Seq.find blankLine stream = some pos)
    (hhead : pos + 4 ≤ READ_BUFFER_SIZE) (hat : At stream acc conn pending)
    (hidx : conn.readIdx = acc) (h : readHeaders conn pending results = some r) :
    (r.ok = true ∧ ∃ k, At stream k r.conn r.pending ∧ pos + 4 ≤ k ∧
        ∀ goal, pos + 4 ≤ goal → reach goal acc results = reach goal k r.results) ∨
      (r.ok = false ∧ ∀ goal, pos + 4 ≤ goal → reach goal acc results = none) := by
  induction results generalizing conn pending acc with
  | nil =>
    obtain rfl := Option.some.inj h
    by_cases hdone : pos + 4 ≤ acc
    · exact .inl ⟨(complete_iff hpos hat).mpr hdone, acc, hat, hdone, fun _ _ => rfl⟩
    · refine .inr ⟨?_, fun goal hgoal => reach_nil_of_lt (by omega)⟩
      exact Bool.eq_false_iff.mpr fun h => hdone ((complete_iff hpos hat).mp h)
  | cons n results ih =>
    by_cases hdone : pos + 4 ≤ acc
    · rw [readHeaders, if_pos ((complete_iff hpos hat).mpr hdone)] at h
      obtain rfl := Option.some.inj h
      exact .inl ⟨rfl, acc, hat, hdone, fun _ _ => rfl⟩
    · -- the buffer has room, since the header block fits into it
      have hroom : ¬ READ_BUFFER_SIZE ≤ conn.readIdx := by omega
      rw [readHeaders, if_neg fun h => hdone ((complete_iff hpos hat).mp h), if_neg hroom] at h
      cases hrecv : recv (READ_BUFFER_SIZE - conn.readIdx) n pending with
      | none =>
        rw [hrecv] at h
        cases h
      | some got =>
        obtain ⟨chunk, rest⟩ := got
        rw [hrecv] at h
        rw [hat.pending] at hrecv
        rcases recv_eq_some hrecv hat.le with ⟨hn, rfl⟩ |
          ⟨hn, hne, hlen, hwindow, hle, htake, hrest⟩
        · obtain rfl := Option.some.inj h
          exact .inr ⟨rfl, fun goal hgoal => reach_cons_of_nonpos (by omega) hn⟩
        · obtain ⟨c, cs, rfl⟩ := List.exists_cons_of_ne_nil hne
          have hat' : At stream (acc + n.toNat) { conn with
              readIdx := conn.readIdx + (c :: cs).length, request := conn.request ++ (c :: cs) }
              rest := ⟨hle, by rw [← htake, hat.request], hrest⟩
          have hshort : ¬ (conn.request ++ (c :: cs)).length > 64 * 1024 := by
            rw [List.length_append, hat.request, List.length_take, hlen]
            have hsize : READ_BUFFER_SIZE = 16 * 1024 := rfl
            omega
          simp only [if_neg hshort] at h
          have hreach : ∀ goal, pos + 4 ≤ goal →
              reach goal acc (n :: results) = reach goal (acc + n.toNat) results :=
            fun goal hgoal => reach_cons_of_pos (by omega) hn
          rcases ih hat' (by rw [hidx, hlen]) h with ⟨hok, k, hk, hpk, hgoal⟩ | ⟨hok, hgoal⟩
          · exact .inl ⟨hok, k, hk, hpk, fun g hg => (hreach g hg).trans (hgoal g hg)⟩
          · exact .inr ⟨hok, fun g hg => (hreach g hg).trans (hgoal g hg)⟩

/-- The second loop: it ends after the first `recv` that reaches the end of the body. -/
lemma readBody_spec {start got : ℕ} (hat : At stream acc conn pending) (hstart : start + got = acc)
    (h : readBody conn got pending results = some r) :
    (r.ok = true ∧ ∃ k, At stream k r.conn r.pending ∧
        reach (start + conn.contentLength.toNat) acc results = some k) ∨
      (r.ok = false ∧ reach (start + conn.contentLength.toNat) acc results = none) := by
  induction results generalizing conn pending acc got with
  | nil =>
    obtain rfl := Option.some.inj h
    by_cases hdone : conn.contentLength.toNat ≤ got
    · exact .inl ⟨decide_eq_true hdone, acc, hat, reach_of_le (by omega)⟩
    · exact .inr ⟨decide_eq_false hdone, reach_nil_of_lt (by omega)⟩
  | cons n results ih =>
    by_cases hmore : got < conn.contentLength.toNat
    · rw [readBody, if_pos hmore] at h
      cases hrecv : recv READ_BUFFER_SIZE n pending with
      | none =>
        simp only [hrecv] at h
        cases h
      | some chunk =>
        obtain ⟨chunk, rest⟩ := chunk
        simp only [hrecv] at h
        rw [hat.pending] at hrecv
        -- whether the position in the buffer is reset does not matter from here on
        set conn' : GatewayConn :=
          if READ_BUFFER_SIZE ≤ conn.readIdx then { conn with readIdx := 0 } else conn with hconn'
        have hrequest : conn'.request = conn.request := by
          rw [hconn']
          split_ifs <;> rfl
        have hlength : conn'.contentLength = conn.contentLength := by
          rw [hconn']
          split_ifs <;> rfl
        rcases recv_eq_some hrecv hat.le with ⟨hn, rfl⟩ | ⟨hn, hne, hlen, -, hle, htake, hrest⟩
        · obtain rfl := Option.some.inj h
          exact .inr ⟨rfl, reach_cons_of_nonpos (by omega) hn⟩
        · obtain ⟨c, cs, rfl⟩ := List.exists_cons_of_ne_nil hne
          have hat' : At stream (acc + n.toNat)
              { conn' with request := conn'.request ++ (c :: cs) } rest :=
            ⟨hle, by rw [← htake, ← hat.request, ← hrequest], hrest⟩
          have hgot : start + (got + (c :: cs).length) = acc + n.toNat := by omega
          rw [reach_cons_of_pos (by omega) hn, ← hlength]
          have hrest := ih hat' hgot h
          exact hrest
    · rw [readBody, if_neg hmore] at h
      obtain rfl := Option.some.inj h
      exact .inl ⟨rfl, acc, hat, reach_of_le (by omega)⟩

/-! ## `read_once` -/

variable {first : Request}

/-- As soon as the header block is complete, `read_once` finds the declared length in it. -/
lemma parseContentLength_take {k : ℕ} (hstream : stream = first.head ++ rest)
    (hpos : Seq.find blankLine stream = some pos) (hlen : pos + 4 = first.head.length)
    (hk : pos + 4 ≤ k) : parseContentLength (stream.take k) = declared first := by
  have hne : blankLine ≠ [] := List.cons_ne_nil _ _
  have hkey : IsLine (ascii "Content-Length:") := by decide
  have hheaders : Seq.substr (stream.take k) 0 (Seq.find blankLine (stream.take k)) =
      (first.head ++ rest).take pos := by
    rw [Seq.find_take hne hpos (by simpa using hk), hstream]
    simp only [Seq.substr, List.drop_zero, List.take_take]
    congr 1
    omega
  rw [parseContentLength, hheaders, first.afterUntil_eq hkey rest hlen]
  rfl

/-- What follows the first loop, on a connection that has read the header block. -/
lemma readRest_spec {maxBody : ℤ} {r' : Read} {k : ℕ} (hpos : Seq.find blankLine stream = some pos)
    (hlen : pos + 4 = first.head.length) (hat : At stream k r'.conn r'.pending) (hk : pos + 4 ≤ k)
    (hok : r'.ok = true) (hdeclared : parseContentLength r'.conn.request = declared first)
    (h : readRest maxBody r' = some r) :
    (r.ok = true ∧ ∃ k', At stream k' r.conn r.pending ∧
        reach (target maxBody first) k r'.results = some k') ∨
      (r.ok = false ∧ reach (target maxBody first) k r'.results = none) := by
  simp only [readRest, hdeclared] at h
  by_cases hover : declared first > 0 ∧ declared first > maxBody
  · rw [if_pos hover] at h
    obtain rfl := Option.some.inj h
    have htarget : target maxBody first = first.head.length := by
      rw [target, if_pos hover.2, Nat.add_zero]
    exact .inl ⟨hok, k, ⟨hat.le, hat.request, hat.pending⟩, reach_of_le (by omega)⟩
  · rw [if_neg hover] at h
    have htarget : target maxBody first = first.head.length + (declared first).toNat := by
      rw [target]
      split_ifs <;> omega
    by_cases hbody : declared first > 0
    · rw [if_pos hbody] at h
      have hgot : pos + 4 + (r'.conn.request.length -
          ((Seq.find blankLine r'.conn.request).getD 0 + 4)) = k := by
        have hne : blankLine ≠ [] := List.cons_ne_nil _ _
        have hle := hat.le
        rw [hat.request, Seq.find_take hne hpos (by simpa using hk), Option.getD_some,
          List.length_take]
        omega
      have hat' : At stream k { r'.conn with contentLength := declared first } r'.pending :=
        ⟨hat.le, hat.request, hat.pending⟩
      rw [htarget, ← hlen]
      exact readBody_spec hat' hgot h
    · rw [if_neg hbody] at h
      obtain rfl := Option.some.inj h
      exact .inl ⟨hok, k, ⟨hat.le, hat.request, hat.pending⟩, reach_of_le (by omega)⟩

/-- `read_once` on a stream that starts with a request: it returns true with the bytes up to the
end of the first `recv` that reaches the target, and false if there is none. -/
theorem readOnce_spec {maxBody : ℤ} {client : Client}
    (hfirst : first.head.length ≤ READ_BUFFER_SIZE)
    (hstream : client.pending = first.head ++ rest) (hreq : conn.request = [])
    (hidx : conn.readIdx = 0) (h : readOnce maxBody conn client = some r) :
    (r.ok = true ∧ client.valid = true ∧ ∃ k, At client.pending k r.conn r.pending ∧
        reach (target maxBody first) 0 client.results = some k) ∨
      (r.ok = false ∧
        (client.valid = true → reach (target maxBody first) 0 client.results = none)) := by
  obtain ⟨pos, hpos, hlen⟩ := first.find_blankLine rest
  rw [← hstream] at hpos
  have hat : At client.pending 0 conn client.pending := ⟨Nat.zero_le _, hreq, rfl⟩
  cases hvalid : client.valid with
  | false =>
    simp only [readOnce, hvalid, Bool.not_false, if_true, Option.some.injEq] at h
    exact .inr ⟨h ▸ rfl, fun h => by cases h⟩
  | true =>
    simp only [readOnce, hvalid, Bool.not_true, Bool.false_eq_true, if_false] at h
    cases hheaders : readHeaders conn client.pending client.results with
    | none =>
      rw [hheaders] at h
      cases h
    | some r' =>
      rw [hheaders] at h
      have hgoal : pos + 4 ≤ target maxBody first := by
        rw [target, hlen]
        exact Nat.le_add_right _ _
      rcases readHeaders_spec hpos (hlen ▸ hfirst) hat hidx hheaders with
        ⟨hok, k, hatk, hk, hreach⟩ | ⟨hok, hreach⟩
      · simp only [hok, if_true] at h
        rw [hreach _ hgoal]
        have hdeclared : parseContentLength r'.conn.request = declared first := by
          rw [hatk.request]
          exact parseContentLength_take hstream hpos hlen hk
        rcases readRest_spec hpos hlen hatk hk hok hdeclared h with ⟨hok', hrest⟩ | ⟨hok', hrest⟩
        · exact .inl ⟨hok', rfl, hrest⟩
        · exact .inr ⟨hok', fun _ => hrest⟩
      · simp only [hok, Bool.false_eq_true, if_false, Option.some.injEq] at h
        exact .inr ⟨h ▸ hok, fun _ => hreach _ hgoal⟩

/-! ## What is forwarded -/

/-- What a loop has sent is the beginning of what it had to send. -/
lemma sendAll_prefix (sends : List ℤ) (buf : Bytes) : (sendAll sends buf).1 <+: buf := by
  induction sends generalizing buf with
  | nil => cases buf <;> exact List.nil_prefix
  | cons n sends ih =>
    cases buf with
    | nil => exact List.nil_prefix
    | cons c buf =>
      rw [sendAll]
      split_ifs
      · exact List.nil_prefix
      · obtain ⟨t, ht⟩ := ih ((c :: buf).drop n.toNat)
        refine ⟨t, ?_⟩
        rw [List.append_assoc, ht, List.take_append_drop]

variable {A : Type*} (env : Surroundings A)

lemma forward_toUpstream (conn : GatewayConn) (gateway : Gateway A) (request path : Bytes) :
    (forward env conn gateway request path).toUpstream <+: request := by
  simp only [forward]
  cases getUpstreamSocket env _ conn.upstreams with
  | none => exact List.nil_prefix
  | some found =>
    simp only
    split_ifs <;> exact sendAll_prefix env.upstreamSends request

/-- `process` sends nothing to an upstream but the request, from its beginning. -/
theorem process_toUpstream (conn : GatewayConn) (gateway : Gateway A) :
    (process env conn gateway).toUpstream <+: conn.request := by
  simp only [process]
  cases parseRequestLine conn.request with
  | none => exact List.nil_prefix
  | some parsed =>
    simp only
    split_ifs <;> try exact List.nil_prefix
    simp only [filtered]
    cases (gateway.filters.apply env.ssl gateway.config _ env.clocks).1 with
    | pass => exact forward_toUpstream env _ _ _ _
    | reject status body => exact List.nil_prefix

/-- `read_once` hands on exactly the first request: what it leaves in `m_request` is that request,
and `process` forwards nothing that is not of it. -/
def Framed (first : Request) (r : Read) : Prop :=
  r.ok = true → r.conn.request = first.text ∧
    ∀ (A : Type) (env : Surroundings A) (gateway : Gateway A),
      (process env r.conn gateway).toUpstream <+: first.text

/-- On a stream of requests, `read_once` hands on exactly the first one, if and only if the first
`recv` that reaches the target ends at the end of that request, or none reaches it. -/
theorem framed_iff {maxBody : ℤ} (first : Request) (more : List Request) (client : Client)
    (hstream : client.pending = Request.stream (first :: more))
    (hhead : first.head.length ≤ READ_BUFFER_SIZE) (hreq : conn.request = [])
    (hidx : conn.readIdx = 0) (h : readOnce maxBody conn client = some r) :
    Framed first r ↔ Aligned maxBody first client := by
  have hsplit : client.pending = first.text ++ Request.stream more := by
    rw [hstream]
    rfl
  have hstream' : client.pending = first.head ++ (first.body ++ Request.stream more) := by
    rw [hsplit, Request.text, List.append_assoc]
  rcases readOnce_spec hhead hstream' hreq hidx h with ⟨hok, hvalid, k, hat, hreach⟩ | ⟨hok, hreach⟩
  · have hk : r.conn.request = first.text ↔ k = first.text.length := by
      rw [hat.request, hsplit]
      constructor
      · intro heq
        have hlen := congrArg List.length heq
        have hle := hat.le
        rw [hsplit] at hle
        rw [List.length_take] at hlen
        omega
      · rintro rfl
        exact List.take_left
    constructor
    · intro hframed _ k' hk'
      obtain rfl : k = k' := Option.some.inj (hreach.symm.trans hk')
      exact hk.mp (hframed hok).1
    · intro haligned _
      have hrequest := hk.mpr (haligned hvalid k hreach)
      exact ⟨hrequest, fun A env gateway => hrequest ▸ process_toUpstream env r.conn gateway⟩
  · constructor
    · intro _ hvalid k hk
      rw [hreach hvalid] at hk
      cases hk
    · intro _ htrue
      rw [hok] at htrue
      cases htrue

/-- Where the header block has `Content-Length:` only in the field of that name, the target is the
end of the request. -/
theorem target_eq {maxBody : ℤ} (hplain : first.PlainLength) (hbody : first.body.length ≤ maxBody)
    (hmax : maxBody < 2 ^ 63) : target maxBody first = first.text.length := by
  have hkey : ascii "Content-Length:" = Request.lengthKey := by decide
  have hdeclared : declared first = first.body.length := by
    rw [declared, hkey]
    rcases hplain.after_eq with ⟨value, hafter, hvalue⟩ | ⟨hafter, hnil⟩
    · obtain ⟨digits, htrim, hnum⟩ := hvalue.strtol_trim (by omega)
      simp only [hafter, htrim, hnum]
    · simp only [hafter, hnil]
      rfl
  rw [target, hdeclared, if_neg (by omega), Request.text, List.length_append, Int.toNat_natCast]

/-! ## Two requests in one `recv` -/

/-- A request with a body. -/
def sampleFirst : Request where
  method := ascii "POST"
  path := ascii "/a"
  version := ascii "HTTP/1.1"
  fields := [⟨Http.contentLength, ascii " 2", by decide, by decide, by decide⟩]
  body := ascii "hi"
  method_line := by decide
  path_line := by decide
  version_line := by decide
  method_blank := by decide
  path_blank := by decide
  one_length := by decide
  announced := by decide
  no_body := by decide

/-- A request that needs a token and has none. -/
def sampleSecond : Request where
  method := ascii "GET"
  path := ascii "/b"
  version := ascii "HTTP/1.1"
  fields := []
  body := []
  method_line := by decide
  path_line := by decide
  version_line := by decide
  method_blank := by decide
  path_blank := by decide
  one_length := by decide
  announced := by decide
  no_body := by decide

/-- A client that sends both requests, which are received as `results` says. -/
def sampleClient (results : List ℤ) : Client :=
  ⟨true, Request.stream [sampleFirst, sampleSecond], results⟩

/-- Received with a cut at its end, the first request is framed. -/
theorem framed_sampleClient_iff :
    ∃ r, readOnce 4194304 init (sampleClient [30, 9, 2]) = some r ∧ r.ok = true ∧
      (Framed sampleFirst r ↔ Aligned 4194304 sampleFirst (sampleClient [30, 9, 2])) := by
  have hany : (readOnce 4194304 init (sampleClient [30, 9, 2])).any (·.ok) = true := by
    decide +kernel
  obtain ⟨r, hr, hok⟩ := (Option.any_eq_true _ _).mp hany
  exact ⟨r, hr, hok, framed_iff sampleFirst [sampleSecond] _ rfl (by decide +kernel) rfl rfl hr⟩

/-- A gateway that asks for a token on `/b`. -/
def sampleGateway : Gateway Bytes where
  config := (GatewayConfig.init.loadFromFile .init some [] (some
    (ascii "route / 10.0.0.1:80\nroute /b 10.0.0.1:80\ntoken /b secret\n"))).2.1
  filters := .init
  metrics := .init
  index := 0

def sampleSurroundings : Surroundings Bytes where
  ssl := ⟨fun _ _ => [], fun _ => [], fun _ => []⟩
  lookup := some
  toString addr := addr
  configFile := none
  remoteAddress := some (ascii "10.0.0.2:4711")
  clocks := ⟨0, 0, 0⟩
  cachedConnected := false
  connects := true
  upstreamSends := [1000]
  upstreamRecvs := []
  clientSends := [1000]

/-- Received at once, both requests are forwarded, although the second one by itself would have
been rejected. -/
theorem second_request_forwarded :
    ∃ r, readOnce 4194304 init (sampleClient [60]) = some r ∧ r.ok = true ∧
      (process sampleSurroundings r.conn sampleGateway).toUpstream =
        sampleFirst.text ++ sampleSecond.text ∧
      (process sampleSurroundings { r.conn with request := sampleSecond.text }
        sampleGateway).toUpstream = [] ∧
      ¬ Framed sampleFirst r := by
  have hany : (readOnce 4194304 init (sampleClient [60])).any (fun r => r.ok &&
      ((process sampleSurroundings r.conn sampleGateway).toUpstream =
        sampleFirst.text ++ sampleSecond.text) &&
      ((process sampleSurroundings { r.conn with request := sampleSecond.text }
        sampleGateway).toUpstream = []) &&
      (r.conn.request ≠ sampleFirst.text)) = true := by
    decide +kernel
  obtain ⟨r, hr, h⟩ := (Option.any_eq_true _ _).mp hany
  simp only [Bool.and_eq_true, decide_eq_true_eq] at h
  obtain ⟨⟨⟨hok, hboth⟩, halone⟩, hrequest⟩ := h
  exact ⟨r, hr, hok, hboth, halone, fun hframed => hrequest (hframed hok).1⟩

end GatewayConn

end CoroutineGateway
