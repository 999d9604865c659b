import CoroutineGateway.Framework.Text

/-!
# Tokens

`util/jwt_utils.cpp`.  OpenSSL is a parameter: the keyed hash, and the two base64 functions the
file builds from its BIO filters.  A reading of the clock is an argument of the function that
takes it.
-/

namespace CoroutineGateway

/-- What the gateway uses of OpenSSL. -/
structure OpenSsl where
  /-- `HMAC(EVP_sha256(), secret, data)` -/
  hmacSha256 : Bytes → Bytes → Bytes
  /-- `base64_decode`, which is empty where decoding fails. -/
  base64Decode : Bytes → Bytes
  /-- `base64_encode` -/
  base64Encode : Bytes → Bytes

namespace Jwt

/-- `b64url_to_b64` -/
def b64urlToB64 (s : Bytes) : Bytes :=
  let out := s.map fun c => if c = 45 then 43 else if c = 95 then 47 else c
  out ++ List.replicate ((4 - out.length % 4) % 4) 61

/-- `b64_to_b64url` -/
def b64ToB64url (s : Bytes) : Bytes :=
  let out := s.map fun c => if c = 43 then 45 else if c = 47 then 95 else c
  (out.reverse.dropWhile (· = 61)).reverse

/-- A member name as it stands in a JSON text. -/
def quoted (key : Bytes) : Bytes := 34 :: key ++ [34]

/-- `extract_string` -/
def extractString (json key : Bytes) : Option Bytes := do
  let k := quoted key
  let p ← Seq.find k json
  let c ← Seq.findFrom [58] json (p + k.length)
  let s ← Seq.findFrom [34] json (c + 1)
  let e ← Seq.findFrom [34] json (s + 1)
  return Seq.substr json (s + 1) (some (e - s - 1))

/-- `extract_number` -/
def extractNumber (json key : Bytes) : Option ℤ := do
  let k := quoted key
  let p ← Seq.find k json
  let c ← Seq.findFrom [58] json (p + k.length)
  let rest := (json.drop (c + 1)).dropWhile (· ∈ Text.blanks)
  let digits := rest.takeWhile Text.isDigit
  if digits = [] then none else return Text.strtol digits

/-- The three parts of a token: the text before the first point, between the first two, and
after the second. -/
def parts (token : Bytes) : Option (Bytes × Bytes × Bytes) := do
  let p1 ← Seq.find [46] token
  let p2 ← Seq.findFrom [46] token (p1 + 1)
  return (token.take p1, Seq.substr token (p1 + 1) (some (p2 - p1 - 1)), token.drop (p2 + 1))

/-- `get_exp` -/
def getExp (ssl : OpenSsl) (token : Bytes) : Option ℤ := do
  let (_, p, _) ← parts token
  let payload := ssl.base64Decode (b64urlToB64 p)
  if payload = [] then none else extractNumber payload (ascii "exp")

/-- What a token is verified against. -/
structure Settings where
  secret : Bytes
  issuer : Bytes
  audience : Bytes
  deriving DecidableEq

/-- A member has to have the configured value, unless none is configured. -/
def claimFails (payload key value : Bytes) : Bool :=
  value ≠ [] ∧ extractString payload key ≠ some value

/-- `verify_hs256`; `now` is the clock it reads, and the error is its `err`. -/
def verifyHs256 (ssl : OpenSsl) (now : ℤ) (token : Bytes) (cfg : Settings) :
    Except String Unit :=
  match parts token with
  | none => .error "format"
  | some (h, p, s) =>
    let header := ssl.base64Decode (b64urlToB64 h)
    let payload := ssl.base64Decode (b64urlToB64 p)
    let sig := ssl.base64Decode (b64urlToB64 s)
    if header = [] ∨ payload = [] ∨ sig = [] then .error "b64"
    else if Seq.find (ascii "\"alg\":\"HS256\"") header = none then .error "alg"
    else if sig ≠ ssl.hmacSha256 cfg.secret (h ++ ascii "." ++ p) then .error "sig"
    else if ∃ exp ∈ extractNumber payload (ascii "exp"), exp < now then .error "exp"
    else if claimFails payload (ascii "iss") cfg.issuer then .error "iss"
    else if claimFails payload (ascii "aud") cfg.audience then .error "aud"
    else .ok ()

/-- Whether `verify_hs256` returns true. -/
def accepts (ssl : OpenSsl) (now : ℤ) (token : Bytes) (cfg : Settings) : Bool :=
  (verifyHs256 ssl now token cfg).isOk

/-- `sign_hs256` -/
def signHs256 (ssl : OpenSsl) (cfg : Settings) (exp : ℤ) : Bytes :=
  let header := ascii "\x7b\"alg\":\"HS256\",\"typ\":\"JWT\"\x7d"
  let payload := ascii "\x7b\"iss\":\"" ++ cfg.issuer ++ ascii "\",\"aud\":\"" ++ cfg.audience ++
    ascii "\",\"exp\":" ++ Text.intToString exp ++ ascii "\x7d"
  let hB64 := b64ToB64url (ssl.base64Encode header)
  let pB64 := b64ToB64url (ssl.base64Encode payload)
  let signingInput := hB64 ++ ascii "." ++ pB64
  let sig := ssl.hmacSha256 cfg.secret signingInput
  signingInput ++ ascii "." ++ b64ToB64url (ssl.base64Encode sig)

/-! ## The clock -/

variable {ssl : OpenSsl} {now : ℤ} {token : Bytes} {cfg : Settings}

/-- What `verify_hs256` asks of a token apart from its expiry. -/
def Genuine (ssl : OpenSsl) (token : Bytes) (cfg : Settings) : Prop :=
  ∃ h p s, parts token = some (h, p, s) ∧
    ssl.base64Decode (b64urlToB64 h) ≠ [] ∧ ssl.base64Decode (b64urlToB64 p) ≠ [] ∧
    ssl.base64Decode (b64urlToB64 s) ≠ [] ∧
    Seq.find (ascii "\"alg\":\"HS256\"") (ssl.base64Decode (b64urlToB64 h)) ≠ none ∧
    ssl.base64Decode (b64urlToB64 s) = ssl.hmacSha256 cfg.secret (h ++ ascii "." ++ p) ∧
    claimFails (ssl.base64Decode (b64urlToB64 p)) (ascii "iss") cfg.issuer = false ∧
    claimFails (ssl.base64Decode (b64urlToB64 p)) (ascii "aud") cfg.audience = false

/-- A token is accepted exactly when it is genuine and not past the expiry `get_exp` reads. -/
theorem accepts_iff : accepts ssl now token cfg = true ↔
    Genuine ssl token cfg ∧ ∀ exp ∈ getExp ssl token, now ≤ exp := by
  unfold accepts verifyHs256 Genuine getExp
  cases hparts : parts token with
  | none => simp [Except.isOk, Except.toBool]
  | some hps =>
    obtain ⟨h, p, s⟩ := hps
    by_cases hempty : ssl.base64Decode (b64urlToB64 h) = [] ∨
        ssl.base64Decode (b64urlToB64 p) = [] ∨ ssl.base64Decode (b64urlToB64 s) = []
    · simp only [if_pos hempty]
      constructor
      · intro hok
        simp [Except.isOk, Except.toBool] at hok
      · rintro ⟨⟨h', p', s', heq, hh, hp, hs, -⟩, -⟩
        obtain ⟨rfl, rfl, rfl⟩ : h = h' ∧ p = p' ∧ s = s' := by simpa using heq
        exact absurd hempty (by simp [hh, hp, hs])
    · obtain ⟨hh, hp, hs⟩ : ssl.base64Decode (b64urlToB64 h) ≠ [] ∧
          ssl.base64Decode (b64urlToB64 p) ≠ [] ∧ ssl.base64Decode (b64urlToB64 s) ≠ [] := by
        simpa [not_or] using hempty
      simp only [if_neg hempty]
      split_ifs <;> simp_all [Except.isOk, Except.toBool]

end Jwt

end CoroutineGateway
