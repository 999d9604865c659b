import CoroutineGateway.Construction.Jwt
import CoroutineGateway.Framework.Base64

/-!
# Signing and verifying

What `sign_hs256` writes, `verify_hs256` reads: `accepts_signHs256_iff` says exactly when a signed
token is accepted.  Three things have to be exact for every text.

* The parts of a token do not contain a point, and what `b64_to_b64url` does to a base64 text is
  undone by `b64url_to_b64` (`b64urlToB64_b64ToB64url`, `parts_join`).
* A search in the payload ends at the member it is meant for.  The payload is a text between
  quotes (`payload_eq`), and the issuer and the audience are two of its pieces, so a member is
  found as long as neither of the two is the name of a member (`extractString_payload_iss` and the
  two lemmas after it).
* The expiry is the number that was written (`Text.decimalValue_toDecimal`).
-/

namespace CoroutineGateway

/-- What is relied on of OpenSSL: what is encoded is decoded, the encoded text is a padded base64
text, and the hash has 32 bytes. -/
structure OpenSsl.Standard (ssl : OpenSsl) : Prop where
  decode_encode : ∀ data ≠ [], ssl.base64Decode (ssl.base64Encode data) = data
  padded : ∀ data, Base64.Padded (ssl.base64Encode data)
  length_hmac : ∀ secret data, (ssl.hmacSha256 secret data).length = 32

namespace Jwt

variable {ssl : OpenSsl}

/-! ## The parts of a token -/

/-- The symbol of the URL alphabet for one of the base64 alphabet. -/
def urlSymbol (c : UInt8) : UInt8 := if c = 43 then 45 else if c = 47 then 95 else c

lemma urlSymbol_spec : ∀ c ∈ Base64.alphabet, urlSymbol c ≠ 61 ∧ urlSymbol c ≠ 46 ∧
    (if urlSymbol c = 45 then 43 else if urlSymbol c = 95 then 47 else urlSymbol c) = c := by
  decide +kernel

lemma b64ToB64url_append {body : Bytes} (hbody : ∀ c ∈ body, c ∈ Base64.alphabet) (n : ℕ) :
    b64ToB64url (body ++ List.replicate n Base64.pad) = body.map urlSymbol := by
  have hpads : (List.replicate n Base64.pad).map urlSymbol = List.replicate n 61 := by
    rw [List.map_replicate]
    rfl
  have hbody' : (body.map urlSymbol).reverse.dropWhile (· = 61) = (body.map urlSymbol).reverse := by
    rw [List.dropWhile_eq_self_iff]
    intro h hpad
    have hmem := List.mem_reverse.mp (List.getElem_mem h)
    obtain ⟨c, hc, heq⟩ := List.mem_map.mp hmem
    exact (urlSymbol_spec c (hbody c hc)).1 (heq.trans (by simpa using hpad))
  have hall : ∀ c ∈ List.replicate n (61 : UInt8), decide (c = 61) = true := fun c hc => by
    simp [List.eq_of_mem_replicate hc]
  change (((body ++ List.replicate n Base64.pad).map urlSymbol).reverse.dropWhile
    (· = 61)).reverse = body.map urlSymbol
  rw [List.map_append, hpads, List.reverse_append, List.reverse_replicate,
    List.dropWhile_append_of_pos hall, hbody', List.reverse_reverse]

lemma notMem_b64ToB64url {s : Bytes} (hs : Base64.Padded s) : 46 ∉ b64ToB64url s := by
  obtain ⟨-, body, n, rfl, -, hbody⟩ := hs
  rw [b64ToB64url_append hbody]
  intro h
  obtain ⟨c, hc, heq⟩ := List.mem_map.mp h
  exact (urlSymbol_spec c (hbody c hc)).2.1 heq

/-- The padding is put back. -/
lemma b64urlToB64_b64ToB64url {s : Bytes} (hs : Base64.Padded s) :
    b64urlToB64 (b64ToB64url s) = s := by
  obtain ⟨hdvd, body, n, rfl, hn, hbody⟩ := hs
  have hmap : (body.map urlSymbol).map (fun c => if c = 45 then 43 else if c = 95 then 47 else c) =
      body := by
    rw [List.map_map]
    exact (List.map_congr_left fun c hc => (urlSymbol_spec c (hbody c hc)).2.2).trans body.map_id
  have hpads : (4 - body.length % 4) % 4 = n := by
    rw [List.length_append, List.length_replicate] at hdvd
    omega
  rw [b64ToB64url_append hbody, b64urlToB64]
  simp only [hmap, hpads]

lemma parts_join {h p s : Bytes} (hh : 46 ∉ h) (hp : 46 ∉ p) :
    parts (h ++ ascii "." ++ p ++ ascii "." ++ s) = some (h, p, s) := by
  have hdot : ascii "." = [46] := rfl
  have htoken : h ++ ascii "." ++ p ++ ascii "." ++ s = h ++ 46 :: (p ++ 46 :: s) := by
    simp [hdot]
  have hdrop : (h ++ 46 :: (p ++ 46 :: s)).drop (h.length + 1) = p ++ 46 :: s := by
    rw [List.drop_length_add_append]
    rfl
  have hdrop' : (h ++ 46 :: (p ++ 46 :: s)).drop (h.length + 1 + (p.length + 1)) = s := by
    rw [← List.drop_drop, hdrop, List.drop_length_add_append]
    rfl
  have hle : h.length + 1 ≤ (h ++ 46 :: (p ++ 46 :: s)).length := by simp
  have hcut : p.length + (h.length + 1) - (h.length + 1) = p.length := by omega
  have hend : p.length + (h.length + 1) + 1 = h.length + 1 + (p.length + 1) := by omega
  rw [htoken, parts, Seq.find_symbol hh]
  simp only [Option.bind_eq_bind, Option.bind_some, Seq.findFrom, if_pos hle, hdrop,
    Seq.find_symbol hp, Option.map_some, Option.pure_def, Seq.substr, List.take_left, hend, hdrop',
    Nat.sub_sub]
  rw [hcut, List.take_left]

/-! ## Reading a member -/

lemma after_some {needle s : Bytes} {i : ℕ} (h : Seq.find needle s = some i) :
    Seq.after needle s = some (s.drop (i + needle.length)) ∧ i + needle.length ≤ s.length := by
  obtain ⟨hle, hocc, -⟩ := Seq.find_eq_some_iff.mp h
  refine ⟨by rw [Seq.after, h]; rfl, ?_⟩
  have hlen := List.IsPrefix.length_le hocc
  rw [List.length_drop] at hlen
  omega

/-- What follows the colon after a member's name. -/
def memberText (json key : Bytes) : Option Bytes :=
  (Seq.after (quoted key) json).bind (Seq.after [58])

/-- The number that a text starts with, after blanks. -/
def numeral (s : Bytes) : Option ℤ :=
  let digits := (s.dropWhile (· ∈ Text.blanks)).takeWhile Text.isDigit
  if digits = [] then none else some (Text.strtol digits)

/-- What stands between the first two quotes of a text. -/
def quotedText (s : Bytes) : Option Bytes :=
  (Seq.after [34] s).bind fun t => (Seq.find [34] t).map t.take

/-- The colon both functions go on from. -/
def colonOf (json key : Bytes) : Option ℕ :=
  (Seq.find (quoted key) json).bind fun p => Seq.findFrom [58] json (p + (quoted key).length)

/-- A search from a position inside of a text is a search in the rest. -/
lemma findFrom_eq {sym s : Bytes} {i : ℕ} (h : i ≤ s.length) :
    Seq.findFrom sym s i = (Seq.find sym (s.drop i)).map (· + i) := if_pos h

lemma memberText_eq (json key : Bytes) :
    memberText json key = (colonOf json key).map fun c => json.drop (c + 1) := by
  unfold memberText colonOf
  cases hname : Seq.find (quoted key) json with
  | none => simp [Seq.after, hname]
  | some p =>
    obtain ⟨hafter, hle⟩ := after_some hname
    rw [hafter, Option.bind_some, Option.bind_some, findFrom_eq hle, Seq.after, Option.map_map]
    congr 1
    funext c
    simp only [Function.comp_apply, List.drop_drop, List.length_cons, List.length_nil]
    congr 1
    omega

lemma lt_of_colonOf {json key : Bytes} {c : ℕ} (h : colonOf json key = some c) :
    c < json.length := by
  obtain ⟨p, hp, hc⟩ := Option.bind_eq_some_iff.mp h
  rw [findFrom_eq (after_some hp).2] at hc
  obtain ⟨i, hi, rfl⟩ := Option.map_eq_some_iff.mp hc
  have hle := (after_some hi).2
  rw [List.length_drop, List.length_singleton] at hle
  omega

/-- `extract_number` reads the number behind the colon of the member. -/
theorem extractNumber_eq (json key : Bytes) :
    extractNumber json key = (memberText json key).bind numeral := by
  have hcolon : extractNumber json key =
      (colonOf json key).bind fun c => numeral (json.drop (c + 1)) := by
    rw [colonOf, Option.bind_assoc]
    rfl
  rw [hcolon, memberText_eq, Option.bind_map]
  rfl

/-- `extract_string` reads the text between the next two quotes. -/
theorem extractString_eq (json key : Bytes) :
    extractString json key = (memberText json key).bind quotedText := by
  have hcolon : extractString json key = (colonOf json key).bind fun c =>
      (Seq.findFrom [34] json (c + 1)).bind fun s =>
        (Seq.findFrom [34] json (s + 1)).bind fun e =>
          some (Seq.substr json (s + 1) (some (e - s - 1))) := by
    rw [colonOf, Option.bind_assoc]
    rfl
  rw [hcolon, memberText_eq, Option.bind_map]
  cases hc : colonOf json key with
  | none => rfl
  | some c =>
    have hlt := lt_of_colonOf hc
    rw [Option.bind_some, Option.bind_some, findFrom_eq hlt, Function.comp_apply, quotedText]
    cases hopen : Seq.find [34] (json.drop (c + 1)) with
    | none => simp [Seq.after, hopen]
    | some s =>
      obtain ⟨hafter, hle⟩ := after_some hopen
      have hpos : s + (c + 1) + 1 = c + 1 + (s + 1) := by omega
      rw [List.length_singleton, List.length_drop] at hle
      rw [List.length_singleton, List.drop_drop] at hafter
      rw [hafter, Option.map_some, Option.bind_some, Option.bind_some, hpos,
        findFrom_eq (by omega), Option.bind_map, Option.map_eq_bind]
      congr 1
      funext e
      have hcut : e + (c + 1 + (s + 1)) - (s + (c + 1)) - 1 = e := by omega
      simp only [Function.comp_apply, Seq.substr, hcut]

/-- A string member whose value holds no quote. -/
lemma extractString_of_member {json key value rest : Bytes}
    (h : memberText json key = some (34 :: (value ++ 34 :: rest))) (hvalue : 34 ∉ value) :
    extractString json key = some value := by
  have hopen : Seq.after [34] (34 :: (value ++ 34 :: rest)) = some (value ++ 34 :: rest) :=
    Seq.after_symbol (l := []) (by simp)
  rw [extractString_eq, h, Option.bind_some, quotedText, hopen, Option.bind_some,
    Seq.find_symbol hvalue, Option.map_some, List.take_left]

/-- Blanks, digits and a symbol that ends them. -/
lemma numeral_digits {l digits rest : Bytes} {c : UInt8} (hl : ∀ b ∈ l, b ∈ Text.blanks)
    (hne : digits ≠ []) (hdigits : ∀ d ∈ digits, Text.isDigit d = true)
    (hc : Text.isDigit c = false) :
    numeral (l ++ (digits ++ c :: rest)) = some (Text.strtol digits) := by
  obtain ⟨d, ds, rfl⟩ := List.exists_cons_of_ne_nil hne
  have hblank : d ∉ Text.blanks :=
    Text.not_mem_blanks_of_isDigit (hdigits d List.mem_cons_self)
  have hskip : (l ++ (d :: ds ++ c :: rest)).dropWhile (· ∈ Text.blanks) =
      d :: ds ++ c :: rest := by
    rw [List.dropWhile_append_of_pos fun b hb => by simpa using hl b hb, List.cons_append,
      List.dropWhile_cons_of_neg (by simpa using hblank)]
  have htake : (d :: ds ++ c :: rest).takeWhile Text.isDigit = d :: ds := by
    rw [List.takeWhile_append_of_pos hdigits, List.takeWhile_cons_of_neg (by simp [hc]),
      List.append_nil]
  simp only [numeral, hskip, htake, List.cons_ne_nil, if_false]

/-- A number member. -/
lemma extractNumber_of_member {json key digits rest : Bytes} {c : UInt8}
    (h : memberText json key = some (digits ++ c :: rest)) (hne : digits ≠ [])
    (hdigits : ∀ d ∈ digits, Text.isDigit d = true) (hc : Text.isDigit c = false) :
    extractNumber json key = some (Text.strtol digits) := by
  rw [extractNumber_eq, h, Option.bind_some]
  exact numeral_digits (List.forall_mem_nil _) hne hdigits hc

/-! ## The payload -/

/-- The payload that `sign_hs256` writes. -/
def payloadOf (cfg : Settings) (exp : ℤ) : Bytes :=
  ascii "\x7b\"iss\":\"" ++ cfg.issuer ++ ascii "\",\"aud\":\"" ++ cfg.audience ++
    ascii "\",\"exp\":" ++ Text.intToString exp ++ ascii "\x7d"

/-- A text that can stand in the payload: no quote, and not the name of a member. -/
def Plain (s : Bytes) : Prop := 34 ∉ s ∧ s ∉ [ascii "iss", ascii "aud", ascii "exp"]

instance (s : Bytes) : Decidable (Plain s) := inferInstanceAs (Decidable (_ ∧ _))

variable {cfg : Settings} {exp : ℤ}

/-- The payload, cut at its quotes: a member's name stands behind pieces that are not this name,
and in front of a colon. -/
lemma memberText_of_pieces {key first rest : Bytes} {lines : List Bytes} (hfirst : 34 ∉ first)
    (hlines : ∀ m ∈ lines, 34 ∉ m ∧ m ≠ key) (hkey : 34 ∉ key) :
    memberText (Seq.joinLines [34] (first :: lines) ++ (key ++ 34 :: 58 :: rest)) key =
      some rest := by
  rw [memberText, show quoted key = 34 :: (key ++ [34]) from rfl,
    Seq.after_quoted hfirst hlines hkey, Option.bind_some]
  exact Seq.after_symbol (l := []) (by simp)

lemma extractString_of_pieces {json key first value rest : Bytes} {lines : List Bytes}
    (h : json = Seq.joinLines [34] (first :: lines) ++
      (key ++ 34 :: 58 :: 34 :: (value ++ 34 :: rest)))
    (hfirst : 34 ∉ first) (hlines : ∀ m ∈ lines, 34 ∉ m ∧ m ≠ key) (hkey : 34 ∉ key)
    (hvalue : 34 ∉ value) : extractString json key = some value :=
  extractString_of_member (h ▸ memberText_of_pieces hfirst hlines hkey) hvalue

lemma Plain.piece {s key : Bytes} (hs : Plain s)
    (h : key ∈ [ascii "iss", ascii "aud", ascii "exp"]) :
    34 ∉ s ∧ s ≠ key :=
  ⟨hs.1, fun heq => hs.2 (heq ▸ h)⟩

lemma extractString_payload_iss (exp : ℤ) (hi : 34 ∉ cfg.issuer) :
    extractString (payloadOf cfg exp) (ascii "iss") = some cfg.issuer := by
  have hpieces : payloadOf cfg exp = Seq.joinLines [34] [ascii "\x7b"] ++ (ascii "iss" ++
      34 :: 58 :: 34 :: (cfg.issuer ++ 34 :: (ascii ",\"aud\":\"" ++ cfg.audience ++
        ascii "\",\"exp\":" ++ Text.intToString exp ++ ascii "\x7d"))) := by
    simp only [payloadOf, Seq.joinLines_cons, List.append_assoc]
    rfl
  exact extractString_of_pieces hpieces (by decide) (by simp) (by decide) hi

lemma extractString_payload_aud (exp : ℤ) (hi : Plain cfg.issuer) (ha : 34 ∉ cfg.audience) :
    extractString (payloadOf cfg exp) (ascii "aud") = some cfg.audience := by
  have hpieces : payloadOf cfg exp =
      Seq.joinLines [34] (ascii "\x7b" :: [ascii "iss", ascii ":", cfg.issuer, ascii ","]) ++
        (ascii "aud" ++ 34 :: 58 :: 34 :: (cfg.audience ++ 34 :: (ascii ",\"exp\":" ++
          Text.intToString exp ++ ascii "\x7d"))) := by
    simp only [payloadOf, Seq.joinLines_cons, List.append_assoc]
    rfl
  refine extractString_of_pieces hpieces (by decide) (fun m hm => ?_) (by decide) ha
  simp only [List.mem_cons, List.not_mem_nil, or_false] at hm
  obtain rfl | rfl | rfl | rfl := hm
  · decide
  · decide
  · exact hi.piece (by decide)
  · decide

lemma extractNumber_payload (hi : Plain cfg.issuer) (ha : Plain cfg.audience) (hexp : 0 ≤ exp)
    (hlt : exp < 2 ^ 63) : extractNumber (payloadOf cfg exp) (ascii "exp") = some exp := by
  have hdigits : Text.intToString exp = Text.toDecimal exp.natAbs := if_neg (not_lt.mpr hexp)
  have hpieces : payloadOf cfg exp = Seq.joinLines [34] (ascii "\x7b" :: [ascii "iss", ascii ":",
      cfg.issuer, ascii ",", ascii "aud", ascii ":", cfg.audience, ascii ","]) ++
        (ascii "exp" ++ 34 :: 58 :: (Text.toDecimal exp.natAbs ++ 125 :: [])) := by
    simp only [payloadOf, hdigits, Seq.joinLines_cons, List.append_assoc]
    rfl
  have hmember : memberText (payloadOf cfg exp) (ascii "exp") =
      some (Text.toDecimal exp.natAbs ++ 125 :: []) := by
    rw [hpieces]
    refine memberText_of_pieces (by decide) (fun m hm => ?_) (by decide)
    simp only [List.mem_cons, List.not_mem_nil, or_false] at hm
    obtain rfl | rfl | rfl | rfl | rfl | rfl | rfl | rfl := hm
    · decide
    · decide
    · exact hi.piece (by decide)
    · decide
    · decide
    · decide
    · exact ha.piece (by decide)
    · decide
  have hvalue : Text.decimalValue (Text.toDecimal exp.natAbs) = exp.natAbs :=
    Text.decimalValue_toDecimal _
  rw [extractNumber_of_member hmember (Text.toDecimal_ne_nil _) (Text.isDigit_toDecimal _)
    (by decide), Text.strtol_digits (Text.toDecimal_ne_nil _) (Text.isDigit_toDecimal _)
      (by omega), hvalue, Int.natAbs_of_nonneg hexp]

/-! ## Signed tokens -/

/-- The header that `sign_hs256` writes. -/
def headerText : Bytes := ascii "\x7b\"alg\":\"HS256\",\"typ\":\"JWT\"\x7d"

/-- The text that `sign_hs256` signs. -/
def signingInput (ssl : OpenSsl) (cfg : Settings) (exp : ℤ) : Bytes :=
  b64ToB64url (ssl.base64Encode headerText) ++ ascii "." ++
    b64ToB64url (ssl.base64Encode (payloadOf cfg exp))

/-- A part of a token is read as it was written. -/
lemma decode_part (hssl : ssl.Standard) {data : Bytes} (h : data ≠ []) :
    ssl.base64Decode (b64urlToB64 (b64ToB64url (ssl.base64Encode data))) = data := by
  rw [b64urlToB64_b64ToB64url (hssl.padded data), hssl.decode_encode data h]

lemma payloadOf_ne_nil (cfg : Settings) (exp : ℤ) : payloadOf cfg exp ≠ [] := by
  simp [payloadOf, ascii]

lemma claimFails_eq_false_iff {payload key found : Bytes} (value : Bytes)
    (h : extractString payload key = some found) :
    claimFails payload key value = false ↔ value = [] ∨ found = value := by
  simp [claimFails, h, or_iff_not_imp_left]

lemma hmac_ne_nil (hssl : ssl.Standard) (secret data : Bytes) :
    ssl.hmacSha256 secret data ≠ [] := by
  intro h
  have hlen := hssl.length_hmac secret data
  rw [h] at hlen
  cases hlen

lemma parts_signHs256 (hssl : ssl.Standard) (cfg : Settings) (exp : ℤ) :
    parts (signHs256 ssl cfg exp) =
      some (b64ToB64url (ssl.base64Encode headerText),
        b64ToB64url (ssl.base64Encode (payloadOf cfg exp)),
        b64ToB64url (ssl.base64Encode (ssl.hmacSha256 cfg.secret (signingInput ssl cfg exp)))) :=
  parts_join (notMem_b64ToB64url (hssl.padded _)) (notMem_b64ToB64url (hssl.padded _))

/-- What is asked of a signed token, apart from its expiry. -/
lemma genuine_signHs256_iff (hssl : ssl.Standard) {signer verifier : Settings}
    (hi : Plain signer.issuer) (ha : Plain signer.audience) :
    Genuine ssl (signHs256 ssl signer exp) verifier ↔
      ssl.hmacSha256 signer.secret (signingInput ssl signer exp) =
        ssl.hmacSha256 verifier.secret (signingInput ssl signer exp) ∧
      (verifier.issuer = [] ∨ signer.issuer = verifier.issuer) ∧
      (verifier.audience = [] ∨ signer.audience = verifier.audience) := by
  have hparts := parts_signHs256 hssl signer exp
  have hheader := decode_part hssl (show headerText ≠ [] by decide)
  have hpayload := decode_part hssl (payloadOf_ne_nil signer exp)
  have hsig := decode_part hssl (hmac_ne_nil hssl signer.secret (signingInput ssl signer exp))
  have hiss := claimFails_eq_false_iff verifier.issuer
    (extractString_payload_iss exp hi.1)
  have haud := claimFails_eq_false_iff verifier.audience
    (extractString_payload_aud exp hi ha.1)
  rw [← hiss, ← haud]
  constructor
  · rintro ⟨h, p, s, heq, -, -, -, -, hmac, hissuer, haudience⟩
    obtain ⟨rfl, rfl, rfl⟩ : _ = h ∧ _ = p ∧ _ = s := by simpa using hparts.symm.trans heq
    rw [hsig] at hmac
    rw [hpayload] at hissuer haudience
    exact ⟨hmac, hissuer, haudience⟩
  · rintro ⟨hmac, hissuer, haudience⟩
    refine ⟨_, _, _, hparts, ?_, ?_, ?_, ?_, ?_, ?_, ?_⟩
    · rw [hheader]
      decide
    · rw [hpayload]
      exact payloadOf_ne_nil signer exp
    · rw [hsig]
      exact hmac_ne_nil hssl _ _
    · rw [hheader]
      decide
    · rw [hsig]
      exact hmac
    · rwa [hpayload]
    · rwa [hpayload]

lemma getExp_signHs256 (hssl : ssl.Standard) (hi : Plain cfg.issuer) (ha : Plain cfg.audience)
    (hexp : 0 ≤ exp) (hlt : exp < 2 ^ 63) : getExp ssl (signHs256 ssl cfg exp) = some exp := by
  have hpayload := decode_part hssl (payloadOf_ne_nil cfg exp)
  simp only [getExp, parts_signHs256 hssl cfg exp, hpayload, payloadOf_ne_nil, if_false,
    Option.bind_eq_bind, Option.bind_some, extractNumber_payload hi ha hexp hlt]

/-- **Signing and verifying.**  A signed token is accepted exactly if the two secrets give the
signed text one hash, it has not expired, and each of issuer and audience is the configured one,
where one is configured. -/
theorem accepts_signHs256_iff (hssl : ssl.Standard) {signer verifier : Settings} {now : ℤ}
    (hi : Plain signer.issuer) (ha : Plain signer.audience) (hexp : 0 ≤ exp) (hlt : exp < 2 ^ 63) :
    accepts ssl now (signHs256 ssl signer exp) verifier = true ↔
      ssl.hmacSha256 signer.secret (signingInput ssl signer exp) =
        ssl.hmacSha256 verifier.secret (signingInput ssl signer exp) ∧
      exp ≥ now ∧ (verifier.issuer = [] ∨ signer.issuer = verifier.issuer) ∧
      (verifier.audience = [] ∨ signer.audience = verifier.audience) := by
  rw [accepts_iff, genuine_signHs256_iff hssl hi ha, getExp_signHs256 hssl hi ha hexp hlt]
  simp only [Option.mem_some_iff, forall_eq', ge_iff_le]
  constructor
  · rintro ⟨⟨hmac, hissuer, haudience⟩, hnow⟩
    exact ⟨hmac, hnow, hissuer, haudience⟩
  · rintro ⟨hmac, hnow, hissuer, haudience⟩
    exact ⟨⟨hmac, hissuer, haudience⟩, hnow⟩

/-- OpenSSL, with the hashes of one text under the secrets `secret` and `other`. -/
def signingSsl : OpenSsl where
  hmacSha256 secret data :=
    if data ≠ ascii ("eyJhbGciOiJIUzI1NiIsInR5cCI6IkpXVCJ9." ++
        "eyJpc3MiOiJnYXRld2F5IiwiYXVkIjoid2ViIiwiZXhwIjoxNzAwMDAwMzAwfQ") then List.replicate 32 0
    else if secret = ascii "secret" then
      [62, 4, 22, 141, 91, 48, 14, 229, 83, 53, 73, 104, 188, 123, 16, 101, 143, 102, 139, 127, 76,
        200, 132, 156, 66, 162, 55, 166, 119, 86, 210, 72]
    else if secret = ascii "other" then
      [232, 38, 16, 239, 1, 19, 25, 196, 114, 128, 130, 162, 89, 13, 125, 208, 48, 111, 153, 47, 33,
        12, 104, 200, 239, 92, 148, 159, 169, 3, 168, 249]
    else List.replicate 32 0
  base64Decode text := (Base64.decode text).getD []
  base64Encode := Base64.encode

lemma signingSsl_standard : signingSsl.Standard where
  decode_encode data _ := by
    simp only [signingSsl, Base64.decode_encode, Option.getD_some]
  padded := Base64.padded_encode
  length_hmac secret data := by
    simp only [signingSsl]
    split_ifs <;> rfl

/-- A token for the issuer `gateway` and the audience `web` is accepted where that issuer and no
audience is configured, and not under another secret. -/
theorem accepts_signHs256_sample :
    let signer : Settings := ⟨ascii "secret", ascii "gateway", ascii "web"⟩
    accepts signingSsl 1700000000 (signHs256 signingSsl signer 1700000300)
        ⟨ascii "secret", ascii "gateway", []⟩ = true ∧
      accepts signingSsl 1700000000 (signHs256 signingSsl signer 1700000300)
        ⟨ascii "other", ascii "gateway", []⟩ ≠ true := by
  have hi : Plain (ascii "gateway") := by decide
  have ha : Plain (ascii "web") := by decide
  constructor
  · exact (accepts_signHs256_iff signingSsl_standard hi ha (by decide) (by decide)).mpr
      ⟨rfl, by decide, .inr rfl, .inl rfl⟩
  · intro h
    have hmac := ((accepts_signHs256_iff signingSsl_standard hi ha (by decide) (by decide)).mp h).1
    exact absurd hmac (by decide +kernel)

end Jwt

end CoroutineGateway
