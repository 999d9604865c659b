import CoroutineGateway.Construction.FilterChain
import CoroutineGateway.Properties.ByteOrder
import CoroutineGateway.Properties.ConfigFile

/-!
# The blacklist

A `black` line names an address the way people write it, four numbers with points between them.
`process` gives the filters the address of the client as `IPv4Address::insert` prints it, which
appends a colon and the port.  The two texts are compared as they are and never agree, so that a
blacklist of addresses blocks nobody (`apply_eq_pass`), and the filter does what it is for
exactly for the clients that are not listed (`blocks_iff`).
-/

namespace CoroutineGateway

/-- An address as it is written in a configuration file. -/
structure DottedAddress where
  parts : Bytes × Bytes × Bytes × Bytes
  decimal : ∀ p ∈ [parts.1, parts.2.1, parts.2.2.1, parts.2.2.2],
    p ≠ [] ∧ (∀ c ∈ p, Text.isDigit c = true) ∧ Text.decimalValue p < 256

namespace DottedAddress

/-- The four numbers with points between them. -/
def text (d : DottedAddress) : Bytes :=
  d.parts.1 ++ ascii "." ++ d.parts.2.1 ++ ascii "." ++ d.parts.2.2.1 ++ ascii "." ++ d.parts.2.2.2

/-- The address that is meant. -/
def address (d : DottedAddress) : ℕ :=
  Text.decimalValue d.parts.1 * 2 ^ 24 + Text.decimalValue d.parts.2.1 * 2 ^ 16 +
    Text.decimalValue d.parts.2.2.1 * 2 ^ 8 + Text.decimalValue d.parts.2.2.2

/-- A dotted address is a text of digits and points. -/
lemma colon_notMem_text (d : DottedAddress) : (58 : UInt8) ∉ d.text := by
  have hpart : ∀ p ∈ [d.parts.1, d.parts.2.1, d.parts.2.2.1, d.parts.2.2.2], (58 : UInt8) ∉ p := by
    intro p hp h
    exact absurd ((d.decimal p hp).2.1 58 h) (by decide)
  have hpoint : (58 : UInt8) ∉ ascii "." := by decide
  simp only [text, List.mem_append, not_or]
  exact ⟨⟨⟨⟨⟨⟨hpart _ (by simp), hpoint⟩, hpart _ (by simp)⟩, hpoint⟩, hpart _ (by simp)⟩, hpoint⟩,
    hpart _ (by simp)⟩

end DottedAddress

namespace IPv4Address

/-- Every address can be written so, and `insert` writes it so. -/
theorem exists_dotted (addr : UInt32) :
    ∃ d : DottedAddress, d.text = dotted addr ∧ d.address = addr.toNat := by
  have hpart : ∀ v : UInt32, Text.toDecimal (v &&& 0xff).toNat ≠ [] ∧
      (∀ c ∈ Text.toDecimal (v &&& 0xff).toNat, Text.isDigit c = true) ∧
        Text.decimalValue (Text.toDecimal (v &&& 0xff).toNat) < 256 := by
    intro v
    refine ⟨Text.toDecimal_ne_nil _, Text.isDigit_toDecimal _, ?_⟩
    rw [Text.decimalValue_toDecimal, toNat_octet]
    exact Nat.mod_lt _ (by decide)
  let octet (v : UInt32) : Bytes := Text.toDecimal (v &&& 0xff).toNat
  refine ⟨⟨⟨octet (addr >>> 24), octet (addr >>> 16), octet (addr >>> 8), octet addr⟩, ?_⟩, rfl, ?_⟩
  · intro p hp
    simp only [List.mem_cons, List.not_mem_nil, or_false] at hp
    rcases hp with rfl | rfl | rfl | rfl <;> exact hpart _
  · have h24 : (addr >>> 24).toNat = addr.toNat / 2 ^ 24 := by
      rw [UInt32.toNat_shiftRight]
      exact Nat.shiftRight_eq_div_pow _ _
    have h16 : (addr >>> 16).toNat = addr.toNat / 2 ^ 16 := by
      rw [UInt32.toNat_shiftRight]
      exact Nat.shiftRight_eq_div_pow _ _
    have h8 : (addr >>> 8).toNat = addr.toNat / 2 ^ 8 := by
      rw [UInt32.toNat_shiftRight]
      exact Nat.shiftRight_eq_div_pow _ _
    have hlt := addr.toNat_lt
    simp only [DottedAddress.address, octet, Text.decimalValue_toDecimal, toNat_octet, h24, h16, h8]
    omega

/-- What `toString` prints has a colon in it. -/
lemma colon_mem_toString (a : IPv4Address) : (58 : UInt8) ∈ a.toString := by
  have hcolon : (58 : UInt8) ∈ ascii ":" := by decide
  simp only [toString, List.mem_append]
  exact .inl (.inr hcolon)

end IPv4Address

namespace BlacklistFilter

variable {A : Type*} {cfg cfg' : GatewayConfig A} {cache cache' : JwtCache}
  {lookup : Bytes → Option A} {path text : Bytes} {listed : List DottedAddress}
  {client : IPv4Address}

/-- The filter rejects the requests of a client exactly if its address is listed. -/
def Blocks (cfg : GatewayConfig A) (listed : List DottedAddress) (client : IPv4Address) : Prop :=
  ∀ ctx : GatewayRequestContext, ctx.clientAddress = client.toString →
    ((∃ body, BlacklistFilter.apply cfg ctx = .reject HttpStatus.forbidden body) ↔
      ∃ d ∈ listed, d.address = client.addr.toNat)

/-- The blacklist after a load is that of the file. -/
lemma blacklist_of_load
    (hload : cfg.loadFromFile cache lookup path (some text) = (true, cfg', cache')) :
    cfg'.blacklist = (GatewayConfig.argsOf .black (GatewayConfig.fileLines text)).filterMap
      GatewayConfig.parseWord := by
  rw [GatewayConfig.loadFromFile_eq] at hload
  split_ifs at hload
  · obtain ⟨rfl, -⟩ := Prod.mk.inj (Prod.mk.inj hload).2
    rfl
  · cases (Prod.mk.inj hload).1

/-- A blacklist of addresses blocks nobody. -/
theorem apply_eq_pass (hlist : cfg.blacklist = listed.map DottedAddress.text)
    {ctx : GatewayRequestContext} (hctx : ctx.clientAddress = client.toString) :
    BlacklistFilter.apply cfg ctx = .pass := by
  have hnot : client.toString ∉ listed.map DottedAddress.text := by
    intro h
    obtain ⟨d, -, hd⟩ := List.mem_map.mp h
    exact d.colon_notMem_text (hd ▸ client.colon_mem_toString)
  unfold BlacklistFilter.apply
  rw [hlist, hctx, if_neg hnot]
  split_ifs <;> rfl

/-- **The blacklist.**  After a load of a file whose `black` lines are addresses, the filter blocks
whom it should exactly if the client is not listed, whatever its port. -/
theorem blocks_iff
    (hload : cfg.loadFromFile cache lookup path (some text) = (true, cfg', cache'))
    (hlisted : (GatewayConfig.argsOf .black (GatewayConfig.fileLines text)).filterMap
      GatewayConfig.parseWord = listed.map DottedAddress.text) (client : IPv4Address) :
    Blocks cfg' listed client ↔ ¬ ∃ d ∈ listed, d.address = client.addr.toNat := by
  have hlist := (blacklist_of_load hload).trans hlisted
  constructor
  · intro hblocks hmem
    obtain ⟨body, hreject⟩ := (hblocks ⟨[], [], [], client.toString, []⟩ rfl).mpr hmem
    have hpass : BlacklistFilter.apply cfg' ⟨[], [], [], client.toString, []⟩ = .pass :=
      apply_eq_pass hlist (show _ = client.toString from rfl)
    rw [hpass] at hreject
    cases hreject
  · intro hnot ctx hctx
    rw [apply_eq_pass hlist hctx]
    constructor
    · rintro ⟨body, hreject⟩
      cases hreject
    · exact fun hmem => absurd hmem hnot

/-- A file that lists `192.168.1.100`. -/
def sampleFile : Bytes := ascii "route / 127.0.0.1:8080\nblack 192.168.1.100\n"

/-- `192.168.1.100` -/
def sampleListed : DottedAddress where
  parts := (ascii "192", ascii "168", ascii "1", ascii "100")
  decimal := by decide +kernel

/-- `10.0.0.1`, port 50000 -/
def otherClient : IPv4Address := .ofAddress 0x0a000001 50000

/-- The configuration after loading the file. -/
def sampleLoad : Bool × GatewayConfig Bytes × JwtCache :=
  GatewayConfig.init.loadFromFile JwtCache.init some (ascii "gateway.conf") (some sampleFile)

lemma sampleLoad_eq : sampleLoad = (true, sampleLoad.2.1, sampleLoad.2.2) :=
  Prod.ext (by decide +kernel) rfl

theorem blocks_otherClient_iff : Blocks sampleLoad.2.1 [sampleListed] otherClient ↔
    ¬ ∃ d ∈ [sampleListed], d.address = otherClient.addr.toNat :=
  blocks_iff sampleLoad_eq (by decide +kernel) otherClient

/-- `192.168.1.100`, port 50000 -/
def listedClient : IPv4Address := .ofAddress 0xc0a80164 50000

/-- The listed client is let through. -/
theorem listedClient_passes :
    ¬ ∀ (cfg cfg' : GatewayConfig Bytes) (cache cache' : JwtCache) (lookup : Bytes → Option Bytes)
      (path text : Bytes) (listed : List DottedAddress) (client : IPv4Address),
      cfg.loadFromFile cache lookup path (some text) = (true, cfg', cache') →
      (GatewayConfig.argsOf .black (GatewayConfig.fileLines text)).filterMap
          GatewayConfig.parseWord = listed.map DottedAddress.text →
      Blocks cfg' listed client := by
  intro hall
  have hblocks := hall _ _ _ _ _ _ _ [sampleListed] listedClient sampleLoad_eq (by decide +kernel)
  have hlisted : ∃ d ∈ [sampleListed], d.address = listedClient.addr.toNat := by decide +kernel
  obtain ⟨body, hreject⟩ := (hblocks ⟨[], [], [], listedClient.toString, []⟩ rfl).mpr hlisted
  have hpass : BlacklistFilter.apply sampleLoad.2.1 ⟨[], [], [], listedClient.toString, []⟩ =
      .pass := by decide +kernel
  rw [hpass] at hreject
  cases hreject

end BlacklistFilter

end CoroutineGateway
