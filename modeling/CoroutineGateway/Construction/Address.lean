import CoroutineGateway.Framework.Text
import Mathlib.Data.List.FinRange
import Mathlib.Logic.Function.Basic

/-!
# Addresses

`IPv4Address` and `IPv6Address` (`util/address.h`, `address.cc`), on a little-endian machine.  The
members of a `sockaddr_in` and a `sockaddr_in6` hold the address and the port in network byte order.
The flow label and the scope of a `sockaddr_in6` are left out, since nothing here reads them.  Of
`Address::Lookup` the model has what it makes of the text before it calls `getaddrinfo`.
-/

namespace CoroutineGateway

/-- `bswap_32` -/
def byteswap32 (v : UInt32) : UInt32 :=
  let ff : UInt32 := 0xff
  ((v &&& ff) <<< 24) ||| (((v >>> 8) &&& ff) <<< 16) ||| (((v >>> 16) &&& ff) <<< 8) |||
    ((v >>> 24) &&& ff)

/-- `bswap_16` -/
def byteswap16 (v : UInt16) : UInt16 := (v <<< 8) ||| (v >>> 8)

/-- `CreateMask<T>`, for a type of `w` bits; the shift and the difference are those of an `int`.
With `w = 32` and no bits, as for an IPv4 prefix of length 0, C++ does not define the shift; that
case is outside of the model. -/
def createMask (w bits : ℕ) : BitVec w := ((1#32 <<< (w - bits)) - 1#32).setWidth w

/-- `IPv4Address` -/
structure IPv4Address where
  /-- `m_addr.sin_addr.s_addr` -/
  sAddr : UInt32
  /-- `m_addr.sin_port` -/
  sinPort : UInt16

namespace IPv4Address

/-- `IPv4Address(uint32_t address, uint16_t port)` -/
def ofAddress (address : UInt32) (port : UInt16) : IPv4Address :=
  ⟨byteswap32 address, byteswap16 port⟩

/-- The address as a number. -/
def addr (a : IPv4Address) : UInt32 := byteswap32 a.sAddr

/-- What `insert` writes before the colon. -/
def dotted (addr : UInt32) : Bytes :=
  let octet (v : UInt32) : Bytes := Text.toDecimal (v &&& 0xff).toNat
  octet (addr >>> 24) ++ ascii "." ++ octet (addr >>> 16) ++ ascii "." ++ octet (addr >>> 8) ++
    ascii "." ++ octet addr

/-- `insert`, and `toString` -/
def toString (a : IPv4Address) : Bytes :=
  dotted a.addr ++ ascii ":" ++ Text.toDecimal (byteswap16 a.sinPort).toNat

/-- `broadcastAddress` -/
def broadcastAddress (a : IPv4Address) (prefixLen : ℕ) : Option IPv4Address :=
  if prefixLen > 32 then none
  else some { a with sAddr := a.sAddr ||| byteswap32 ⟨createMask 32 prefixLen⟩ }

/-- `networdAddress` -/
def networdAddress (a : IPv4Address) (prefixLen : ℕ) : Option IPv4Address :=
  if prefixLen > 32 then none
  else some { a with sAddr := a.sAddr &&& byteswap32 ⟨createMask 32 prefixLen⟩ }

/-- `subnetMask` -/
def subnetMask (prefixLen : ℕ) : IPv4Address :=
  { sAddr := ~~~byteswap32 ⟨createMask 32 prefixLen⟩, sinPort := 0 }

end IPv4Address

/-- `IPv6Address` -/
structure IPv6Address where
  /-- `m_addr.sin6_addr.s6_addr` -/
  s6Addr : Fin 16 → UInt8
  /-- `m_addr.sin6_port` -/
  sin6Port : UInt16

namespace IPv6Address

/-- `addr[i]` in `insert`: two bytes, the first one the low one. -/
def group (a : IPv6Address) (i : Fin 8) : UInt16 :=
  (a.s6Addr ⟨2 * i, by omega⟩).toUInt16 ||| ((a.s6Addr ⟨2 * i + 1, by omega⟩).toUInt16 <<< 8)

/-- The local variables of the loop in `insert`. -/
structure Inserting where
  os : Bytes
  usedZeros : Bool
  /-- `addr[i - 1]`, if there is one. -/
  prev : Option UInt16

/-- One iteration of the loop, for `g = addr[i]`. -/
def insertGroup (st : Inserting) (g : UInt16) : Inserting :=
  if g = 0 ∧ st.usedZeros = false then { st with prev := some g }
  else
    let zeros : Bool := st.prev = some 0 ∧ st.usedZeros = false
    let os := if zeros then st.os ++ ascii ":" else st.os
    let os := if st.prev.isSome then os ++ ascii ":" else os
    { os := os ++ Text.toHex (byteswap16 g).toNat
      usedZeros := st.usedZeros || zeros
      prev := some g }

/-- What `insert` writes between the brackets. -/
def insertGroups (addr : List UInt16) : Bytes :=
  let st := addr.foldl insertGroup ⟨[], false, none⟩
  if st.usedZeros = false ∧ addr.getLast? = some 0 then st.os ++ ascii "::" else st.os

/-- `insert`, and `toString` -/
def toString (a : IPv6Address) : Bytes :=
  ascii "[" ++ insertGroups ((List.finRange 8).map a.group) ++ ascii "]:" ++
    Text.toDecimal (byteswap16 a.sin6Port).toNat

/-- `broadcastAddress` -/
def broadcastAddress (a : IPv6Address) (prefixLen : Fin 128) : Option IPv6Address :=
  let k : Fin 16 := ⟨prefixLen / 8, by omega⟩
  let addr := Function.update a.s6Addr k (a.s6Addr k ||| ⟨createMask 8 (prefixLen % 8)⟩)
  some { a with s6Addr := fun i => if k < i then 0xff else addr i }

/-- `networdAddress` -/
def networdAddress (a : IPv6Address) (prefixLen : Fin 128) : Option IPv6Address :=
  let k : Fin 16 := ⟨prefixLen / 8, by omega⟩
  let addr := Function.update a.s6Addr k (a.s6Addr k &&& ⟨createMask 8 (prefixLen % 8)⟩)
  some { a with s6Addr := fun i => if k < i then 0x00 else addr i }

/-- `subnetMask` -/
def subnetMask (prefixLen : Fin 128) : IPv6Address :=
  let k : Fin 16 := ⟨prefixLen / 8, by omega⟩
  let addr := Function.update (fun _ => 0) k (~~~⟨createMask 8 (prefixLen % 8)⟩)
  { s6Addr := fun i => if i < k then 0xff else addr i, sin6Port := 0 }

end IPv6Address

/-- `IPAddress` -/
inductive IPAddress where
  | v4 (a : IPv4Address)
  | v6 (a : IPv6Address)

/-- `toString` -/
def IPAddress.toString : IPAddress → Bytes
  | v4 a => a.toString
  | v6 a => a.toString

/-! ## Looking an address up -/

/-- What is read through `s.c_str()`. -/
def cStr (s : Bytes) : Bytes := s.takeWhile (· ≠ 0)

namespace Address

/-- `node` and `service` of `Lookup` after the block for brackets.  A pointer into the host is the
position it points to. -/
def lookupBracket (host : Bytes) : Bytes × Option ℕ :=
  if host.head? = some 91 then
    match Seq.findFrom [93] host 1 with
    | none => ([], none)
    | some endipv6 =>
      (Seq.substr host 1 (some (endipv6 - 1)),
        if host[endipv6 + 1]? = some 58 then some (endipv6 + 2) else none)
  else ([], none)

/-- `node` and `service` after the block for `node:service`, which is entered with an empty
`node`. -/
def lookupColon (host : Bytes) : Bytes × Option ℕ :=
  match Seq.find [58] host with
  | none => ([], none)
  | some service =>
    if (Seq.findFrom [58] host (service + 1)).isNone then (host.take service, some (service + 1))
    else ([], some service)

/-- The first two arguments of `getaddrinfo` in `Lookup`. -/
def lookupArgs (host : Bytes) : Bytes × Option Bytes :=
  let p := lookupBracket host
  let p := if p.1 = [] then lookupColon host else p
  let node := if p.1 = [] then host else p.1
  (cStr node, p.2.map fun service => cStr (host.drop service))

end Address

end CoroutineGateway
