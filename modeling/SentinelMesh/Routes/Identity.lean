/-
# Where an identity is fetched from

`is_public_ip` and `fetch_document` of `routes/identity.rs`.  The document of a domain is fetched from
the first address of the domain, and only if all of them are public.

An address is refused in some blocks of IPv4 (`refusedV4`) and of IPv6 (`refusedV6`), and an IPv6
address that maps an IPv4 address is what that is (`isPublicIp_iff`).  Mapping is one of four
translations: the others are not looked through, and a host of a refused block is reached by them
(`isPublicIp_embedded_iff`).
-/

import SentinelMesh.Lib.AddressBlock
import SentinelMesh.Basic

namespace SentinelMesh
namespace Routes
namespace Identity

open Lib

/-! ### Addresses -/

/-- `std::net::Ipv4Addr`. -/
@[ext] structure Ipv4Addr where
  a : UInt8
  b : UInt8
  c : UInt8
  d : UInt8
  deriving DecidableEq

namespace Ipv4Addr

/-- `Ipv4Addr::is_private`. -/
def isPrivate (ip : Ipv4Addr) : Bool :=
  ip.a == 10 || (ip.a == 172 && 16 ≤ ip.b && ip.b ≤ 31) || (ip.a == 192 && ip.b == 168)

/-- `Ipv4Addr::is_loopback`. -/
def isLoopback (ip : Ipv4Addr) : Bool := ip.a == 127

/-- `Ipv4Addr::is_link_local`. -/
def isLinkLocal (ip : Ipv4Addr) : Bool := ip.a == 169 && ip.b == 254

/-- `Ipv4Addr::is_multicast`. -/
def isMulticast (ip : Ipv4Addr) : Bool := 224 ≤ ip.a && ip.a ≤ 239

/-- `Ipv4Addr::is_broadcast`. -/
def isBroadcast (ip : Ipv4Addr) : Bool := ip == ⟨255, 255, 255, 255⟩

/-- `Ipv4Addr::is_unspecified`. -/
def isUnspecified (ip : Ipv4Addr) : Bool := ip == ⟨0, 0, 0, 0⟩

/-- The octets of two segments. -/
def ofSegments (hi lo : UInt16) : Ipv4Addr :=
  ⟨(hi >>> 8).toUInt8, hi.toUInt8, (lo >>> 8).toUInt8, lo.toUInt8⟩

end Ipv4Addr

/-- `std::net::Ipv6Addr`, in segments. -/
structure Ipv6Addr where
  s0 : UInt16
  s1 : UInt16
  s2 : UInt16
  s3 : UInt16
  s4 : UInt16
  s5 : UInt16
  s6 : UInt16
  s7 : UInt16
  deriving DecidableEq

namespace Ipv6Addr

/-- `::` -/
def unspecified : Ipv6Addr := ⟨0, 0, 0, 0, 0, 0, 0, 0⟩

/-- `::1` -/
def localhost : Ipv6Addr := ⟨0, 0, 0, 0, 0, 0, 0, 1⟩

/-- `Ipv6Addr::is_loopback`. -/
def isLoopback (ip : Ipv6Addr) : Bool := ip == localhost

/-- `Ipv6Addr::is_unspecified`. -/
def isUnspecified (ip : Ipv6Addr) : Bool := ip == unspecified

/-- `Ipv6Addr::is_multicast`. -/
def isMulticast (ip : Ipv6Addr) : Bool := ip.s0 &&& 0xff00 == 0xff00

/-- `Ipv6Addr::to_ipv4_mapped`. -/
def toIpv4Mapped (ip : Ipv6Addr) : Option Ipv4Addr :=
  if ip.s0 = 0 ∧ ip.s1 = 0 ∧ ip.s2 = 0 ∧ ip.s3 = 0 ∧ ip.s4 = 0 ∧ ip.s5 = 0xffff then
    some (.ofSegments ip.s6 ip.s7)
  else none

end Ipv6Addr

/-- `std::net::IpAddr`. -/
inductive IpAddr
  | v4 (ip : Ipv4Addr)
  | v6 (ip : Ipv6Addr)
  deriving DecidableEq

/-- `is_public_ip` of an IPv4 address. -/
def isPublicV4 (ip : Ipv4Addr) : Bool :=
  !(ip.isPrivate || ip.isLoopback || ip.isLinkLocal || ip.isMulticast || ip.isBroadcast ||
    ip.isUnspecified || ip.a == 0 || 240 ≤ ip.a || (ip.a == 100 && (64 ≤ ip.b && ip.b ≤ 127)) ||
    (ip.a == 192 && ip.b == 0) || (ip.a == 198 && (ip.b == 18 || ip.b == 19 || ip.b == 51)) ||
    (ip.a == 203 && ip.b == 0))

/-- `is_public_ip`. -/
def isPublicIp : IpAddr → Bool
  | .v4 ip => isPublicV4 ip
  | .v6 ip =>
    match ip.toIpv4Mapped with
    | some mapped => isPublicV4 mapped
    | none =>
      let first := ip.s0
      !(ip.isLoopback || ip.isUnspecified || ip.isMulticast || first &&& 0xfe00 == 0xfc00 ||
        first &&& 0xffc0 == 0xfe80 || (first == 0x2001 && ip.s1 == 0x0db8))

/-! ### Fetching -/

/-- `std::net::SocketAddr`. -/
structure SocketAddr where
  ip : IpAddr
  port : UInt16

/-- What the lookup of a domain comes to. -/
inductive Lookup
  | timeout
  | error
  | addresses (addresses : List SocketAddr)

/-- `Nip05Document`. -/
structure Nip05Document where
  names : List (String × String)

/-- `reqwest::Response`; a chunk that is `none` could not be read. -/
structure Response where
  isSuccess : Bool
  contentLength : Option ℕ
  chunks : List (Option (List UInt8))

/-- `MAX_RESPONSE_BYTES`. -/
def maxResponseBytes : ℕ := 64 * 1024

/-- The loop over the chunks of a response. -/
def readChunks (bytes : List UInt8) : List (Option (List UInt8)) → Except AppError (List UInt8)
  | [] => .ok bytes
  | none :: _ => .error (.unprocessable "NIP-05 document could not be read")
  | some chunk :: chunks =>
    if maxResponseBytes < bytes.length + chunk.length then
      .error (.unprocessable "NIP-05 document is too large")
    else readChunks (bytes ++ chunk) chunks

/-- What `fetch_document` makes of a response; `parse` is `serde_json::from_slice`. -/
def readDocument (parse : List UInt8 → Option Nip05Document) :
    Option Response → Except AppError Nip05Document
  | none => .error (.unprocessable "NIP-05 document could not be fetched")
  | some response =>
    if response.isSuccess = false then
      .error (.unprocessable "NIP-05 document was not available")
    else if maxResponseBytes < response.contentLength.getD 0 then
      .error (.unprocessable "NIP-05 document is too large")
    else
      match readChunks [] response.chunks with
      | .error e => .error e
      | .ok bytes =>
        match parse bytes with
        | none => .error (.unprocessable "NIP-05 document is invalid")
        | some document => .ok document

/-- What `fetch_document` meets: the client that is built, or the text of the error, the responses of
the addresses, and the parser. -/
structure Client where
  build : Except String Unit
  send : SocketAddr → Option Response
  parse : List UInt8 → Option Nip05Document

/-- `fetch_document`, and the address that it connects to. -/
def fetchDocument (lookup : Lookup) (client : Client) :
    Option SocketAddr × Except AppError Nip05Document :=
  match lookup with
  | .timeout => (none, .error (.unprocessable "NIP-05 domain could not be resolved"))
  | .error => (none, .error (.unprocessable "NIP-05 domain could not be resolved"))
  | .addresses [] => (none, .error (.unprocessable "NIP-05 domain does not resolve to a public address"))
  | .addresses (address :: addresses) =>
    if (address :: addresses).any fun address => !isPublicIp address.ip then
      (none, .error (.unprocessable "NIP-05 domain does not resolve to a public address"))
    else
      match client.build with
      | .error cause => (none, .error (.internal cause))
      | .ok () => (some address, readDocument client.parse (client.send address))

/-! ### Blocks -/

/-- The number of an IPv4 address, from its octets. -/
def octets (a b c d : ℕ) : ℕ := ((a * 256 + b) * 256 + c) * 256 + d

/-- The number of an IPv6 address, from its segments. -/
def segments (s0 s1 s2 s3 s4 s5 s6 s7 : ℕ) : ℕ :=
  ((((((s0 * 65536 + s1) * 65536 + s2) * 65536 + s3) * 65536 + s4) * 65536 + s5) * 65536 + s6) * 65536 +
    s7

def Ipv4Addr.toNat (ip : Ipv4Addr) : ℕ := octets ip.a.toNat ip.b.toNat ip.c.toNat ip.d.toNat

def Ipv6Addr.toNat (ip : Ipv6Addr) : ℕ :=
  segments ip.s0.toNat ip.s1.toNat ip.s2.toNat ip.s3.toNat ip.s4.toNat ip.s5.toNat ip.s6.toNat
    ip.s7.toNat

/-- The blocks of IPv4 that are refused. -/
def refusedV4 : List (Block 32) :=
  [.mk (octets 10 0 0 0) 8, .mk (octets 172 16 0 0) 12, .mk (octets 192 168 0 0) 16,
    .mk (octets 127 0 0 0) 8, .mk (octets 169 254 0 0) 16, .mk (octets 224 0 0 0) 4,
    .mk (octets 0 0 0 0) 8, .mk (octets 240 0 0 0) 4, .mk (octets 100 64 0 0) 10,
    .mk (octets 192 0 0 0) 16, .mk (octets 198 18 0 0) 15, .mk (octets 198 51 0 0) 16,
    .mk (octets 203 0 0 0) 16]

/-- The blocks of IPv6 that are refused, besides the two addresses that are. -/
def refusedV6 : List (Block 128) :=
  [.mk (segments 0xff00 0 0 0 0 0 0 0) 8, .mk (segments 0xfc00 0 0 0 0 0 0 0) 7,
    .mk (segments 0xfe80 0 0 0 0 0 0 0) 10, .mk (segments 0x2001 0x0db8 0 0 0 0 0 0) 32]

/-- The first octet says what is in a block that is not longer than it. -/
theorem mem_octet {ip : Ipv4Addr} {n length : ℕ} {hlength : length ≤ 32}
    {haligned : octets n 0 0 0 % 2 ^ (32 - length) = 0} (h : length ≤ 8) :
    ip.toNat ∈ Block.mk (octets n 0 0 0) length hlength haligned ↔
      n ≤ ip.a.toNat ∧ ip.a.toNat < n + 2 ^ (8 - length) := by
  have hb := ip.b.toNat_lt
  have hc := ip.c.toNat_lt
  have hd := ip.d.toNat_lt
  have hsize : 2 ^ (32 - length) = 2 ^ (8 - length) * 2 ^ 24 := by
    rw [show 32 - length = 8 - length + 24 by omega, pow_add]
  rw [Block.mem_iff, Block.size, hsize, Ipv4Addr.toNat]
  unfold octets
  dsimp only
  omega

/-- The first two octets say what is in a block that is not longer than them. -/
theorem mem_octets {ip : Ipv4Addr} {n m length : ℕ} {hlength : length ≤ 32}
    {haligned : octets n m 0 0 % 2 ^ (32 - length) = 0} (h : length ≤ 16)
    (hm : m + 2 ^ (16 - length) ≤ 256) :
    ip.toNat ∈ Block.mk (octets n m 0 0) length hlength haligned ↔
      ip.a.toNat = n ∧ m ≤ ip.b.toNat ∧ ip.b.toNat < m + 2 ^ (16 - length) := by
  have hb := ip.b.toNat_lt
  have hc := ip.c.toNat_lt
  have hd := ip.d.toNat_lt
  have hsize : 2 ^ (32 - length) = 2 ^ (16 - length) * 2 ^ 16 := by
    rw [show 32 - length = 16 - length + 16 by omega, pow_add]
  rw [Block.mem_iff, Block.size, hsize, Ipv4Addr.toNat]
  unfold octets
  dsimp only
  omega

/-- A test of octets, as one of numbers. -/
theorem octet_eq {x y : UInt8} : (x == y) = true ↔ x.toNat = y.toNat := by
  rw [beq_iff_eq, UInt8.toNat_inj]

theorem octet_le {x y : UInt8} : decide (x ≤ y) = true ↔ x.toNat ≤ y.toNat := by
  rw [decide_eq_true_iff, UInt8.le_iff_toNat_le]

/-- The tests of `is_public_ip` on an IPv4 address, as blocks. -/
theorem isPrivate_iff (ip : Ipv4Addr) : ip.isPrivate = true ↔
    ip.toNat ∈ (.mk (octets 10 0 0 0) 8 : Block 32) ∨
      ip.toNat ∈ (.mk (octets 172 16 0 0) 12 : Block 32) ∨
        ip.toNat ∈ (.mk (octets 192 168 0 0) 16 : Block 32) := by
  rw [mem_octet (by decide), mem_octets (by decide) (by decide), mem_octets (by decide) (by decide)]
  simp only [Ipv4Addr.isPrivate, Bool.or_eq_true, Bool.and_eq_true, octet_eq, octet_le,
    UInt8.reduceToNat]
  omega

theorem isLoopback_iff (ip : Ipv4Addr) : ip.isLoopback = true ↔
    ip.toNat ∈ (.mk (octets 127 0 0 0) 8 : Block 32) := by
  rw [mem_octet (by decide)]
  simp only [Ipv4Addr.isLoopback, octet_eq, UInt8.reduceToNat]
  omega

theorem isLinkLocal_iff (ip : Ipv4Addr) : ip.isLinkLocal = true ↔
    ip.toNat ∈ (.mk (octets 169 254 0 0) 16 : Block 32) := by
  rw [mem_octets (by decide) (by decide)]
  simp only [Ipv4Addr.isLinkLocal, Bool.and_eq_true, octet_eq, UInt8.reduceToNat]
  omega

theorem isMulticast_iff (ip : Ipv4Addr) : ip.isMulticast = true ↔
    ip.toNat ∈ (.mk (octets 224 0 0 0) 4 : Block 32) := by
  rw [mem_octet (by decide)]
  simp only [Ipv4Addr.isMulticast, Bool.and_eq_true, octet_le, UInt8.reduceToNat]
  omega

/-- The network of the unspecified address. -/
theorem zero_iff (ip : Ipv4Addr) : (ip.a == 0) = true ↔
    ip.toNat ∈ (.mk (octets 0 0 0 0) 8 : Block 32) := by
  rw [mem_octet (by decide)]
  simp only [octet_eq, UInt8.reduceToNat]
  omega

/-- The reserved addresses, and the broadcast address among them. -/
theorem reserved_iff (ip : Ipv4Addr) : decide (240 ≤ ip.a) = true ↔
    ip.toNat ∈ (.mk (octets 240 0 0 0) 4 : Block 32) := by
  have ha := ip.a.toNat_lt
  rw [mem_octet (by decide)]
  simp only [octet_le, UInt8.reduceToNat]
  omega

theorem shared_iff (ip : Ipv4Addr) :
    (ip.a == 100 && (decide (64 ≤ ip.b) && decide (ip.b ≤ 127))) = true ↔
      ip.toNat ∈ (.mk (octets 100 64 0 0) 10 : Block 32) := by
  rw [mem_octets (by decide) (by decide)]
  simp only [Bool.and_eq_true, octet_eq, octet_le, UInt8.reduceToNat]
  omega

/-- A test of the first two octets. -/
theorem octets_iff (ip : Ipv4Addr) (n m : UInt8) {hlength : 16 ≤ 32}
    {haligned : octets n.toNat m.toNat 0 0 % 2 ^ (32 - 16) = 0} :
    (ip.a == n && ip.b == m) = true ↔
      ip.toNat ∈ Block.mk (octets n.toNat m.toNat 0 0) 16 hlength haligned := by
  have hm := m.toNat_lt
  rw [mem_octets le_rfl (by rw [Nat.sub_self, pow_zero]; omega), Bool.and_eq_true, octet_eq, octet_eq,
    Nat.sub_self, pow_zero]
  omega

/-- The benchmarking addresses, and the network of documentation addresses beside them. -/
theorem benchmarking_iff (ip : Ipv4Addr) :
    (ip.a == 198 && (ip.b == 18 || ip.b == 19 || ip.b == 51)) = true ↔
      ip.toNat ∈ (.mk (octets 198 18 0 0) 15 : Block 32) ∨
        ip.toNat ∈ (.mk (octets 198 51 0 0) 16 : Block 32) := by
  rw [mem_octets (by decide) (by decide), mem_octets (by decide) (by decide)]
  simp only [Bool.and_eq_true, Bool.or_eq_true, octet_eq, UInt8.reduceToNat]
  omega

/-- **What is refused of IPv4.** -/
theorem isPublicV4_iff (ip : Ipv4Addr) :
    isPublicV4 ip = true ↔ ∀ b ∈ refusedV4, ip.toNat ∉ b := by
  have hbroadcast : ip.isBroadcast = true → decide (240 ≤ ip.a) = true := by
    intro h
    rw [beq_iff_eq.1 h]
    rfl
  have hunspecified : ip.isUnspecified = true → (ip.a == 0) = true := by
    intro h
    rw [beq_iff_eq.1 h]
    rfl
  have hprotocols : (ip.a == 192 && ip.b == 0) = true ↔
      ip.toNat ∈ (.mk (octets 192 0 0 0) 16 : Block 32) := octets_iff ip 192 0
  have hdocumentation : (ip.a == 203 && ip.b == 0) = true ↔
      ip.toNat ∈ (.mk (octets 203 0 0 0) 16 : Block 32) := octets_iff ip 203 0
  rw [isPublicV4, Bool.not_eq_true', ← Bool.not_eq_true]
  rw [reserved_iff] at hbroadcast
  rw [zero_iff] at hunspecified
  simp only [Bool.or_eq_true]
  rw [isPrivate_iff, isLoopback_iff, isLinkLocal_iff, isMulticast_iff, zero_iff, reserved_iff,
    shared_iff, hprotocols, benchmarking_iff, hdocumentation]
  simp only [refusedV4, List.forall_mem_cons, List.not_mem_nil, false_implies, implies_true, and_true,
    not_or]
  constructor
  · rintro ⟨⟨⟨⟨⟨⟨⟨⟨⟨⟨⟨hprivate, hloopback⟩, hlink⟩, hmulticast⟩, _⟩, _⟩, hzero⟩, hreserved⟩, hshared⟩,
      hprotocol⟩, hbenchmark⟩, hdocument⟩
    exact ⟨hprivate.1, hprivate.2.1, hprivate.2.2, hloopback, hlink, hmulticast, hzero, hreserved,
      hshared, hprotocol, hbenchmark.1, hbenchmark.2, hdocument⟩
  · rintro ⟨h10, h172, h192, hloopback, hlink, hmulticast, hzero, hreserved, hshared, hprotocol, h198,
      h51, hdocument⟩
    exact ⟨⟨⟨⟨⟨⟨⟨⟨⟨⟨⟨⟨h10, h172, h192⟩, hloopback⟩, hlink⟩, hmulticast⟩, mt hbroadcast hreserved⟩,
      mt hunspecified hzero⟩, hzero⟩, hreserved⟩, hshared⟩, hprotocol⟩, ⟨h198, h51⟩⟩, hdocument⟩

/-- The address is in a block of IPv4 that is refused. -/
def RefusedV4 (ip : Ipv4Addr) : Prop := ∃ b ∈ refusedV4, ip.toNat ∈ b

instance (ip : Ipv4Addr) : Decidable (RefusedV4 ip) :=
  inferInstanceAs (Decidable (∃ b ∈ refusedV4, ip.toNat ∈ b))

theorem isPublicV4_eq_true_iff (ip : Ipv4Addr) : isPublicV4 ip = true ↔ ¬ RefusedV4 ip := by
  rw [isPublicV4_iff, RefusedV4, not_exists]
  exact forall_congr' fun b => not_and.symm

/-- The ranges of IPv4 that are not public. -/
def nonPublicV4 : List (Block 32) :=
  [ -- private
    .mk (octets 10 0 0 0) 8, .mk (octets 172 16 0 0) 12, .mk (octets 192 168 0 0) 16,
    -- loopback, link-local, shared, benchmarking
    .mk (octets 127 0 0 0) 8, .mk (octets 169 254 0 0) 16, .mk (octets 100 64 0 0) 10,
    .mk (octets 198 18 0 0) 15,
    -- documentation
    .mk (octets 192 0 2 0) 24, .mk (octets 198 51 100 0) 24, .mk (octets 203 0 113 0) 24,
    -- multicast
    .mk (octets 224 0 0 0) 4,
    -- reserved: for protocols, and for later, with the broadcast address
    .mk (octets 192 0 0 0) 24, .mk (octets 240 0 0 0) 4,
    -- the unspecified address, and its network
    .mk (octets 0 0 0 0) 32, .mk (octets 0 0 0 0) 8]

/-- **The ranges that are not public are refused**: each is in a block that is. -/
theorem refusedV4_of_nonPublic {ip : Ipv4Addr} {b : Block 32} (hb : b ∈ nonPublicV4)
    (h : ip.toNat ∈ b) : RefusedV4 ip := by
  have hnested : ∀ b ∈ nonPublicV4, ∃ b' ∈ refusedV4, b'.length ≤ b.length ∧ b.first ∈ b' := by decide
  obtain ⟨b', hb', hlength, hfirst⟩ := hnested b hb
  exact ⟨b', hb', (Block.mem_congr hlength h).2 hfirst⟩

/-! ### Translations -/

/-- The translations of IPv4 addresses to IPv6 ones. -/
inductive Translation
  | mapped
  | compatible
  | nat64
  | sixToFour
  deriving DecidableEq

/-- The addresses of a translation. -/
def Translation.block : Translation → Block 128
  | mapped => .mk (segments 0 0 0 0 0 0xffff 0 0) 96
  | compatible => .mk (segments 0 0 0 0 0 0 0 0) 96
  | nat64 => .mk (segments 0x64 0xff9b 0 0 0 0 0 0) 96
  | sixToFour => .mk (segments 0x2002 0 0 0 0 0 0 0) 16

/-- The IPv4 address in an address of a translation. -/
def Translation.embedded : Translation → Ipv6Addr → Ipv4Addr
  | sixToFour, ip => .ofSegments ip.s1 ip.s2
  | _, ip => .ofSegments ip.s6 ip.s7

/-- Six segments say what is in a block of their length. -/
theorem mem_segments (ip : Ipv6Addr) (n0 n1 n2 n3 n4 n5 : UInt16) {hlength : 96 ≤ 128}
    {haligned : segments n0.toNat n1.toNat n2.toNat n3.toNat n4.toNat n5.toNat 0 0 % 2 ^ (128 - 96) = 0} :
    ip.toNat ∈ Block.mk (segments n0.toNat n1.toNat n2.toNat n3.toNat n4.toNat n5.toNat 0 0) 96
        hlength haligned ↔
      ip.s0 = n0 ∧ ip.s1 = n1 ∧ ip.s2 = n2 ∧ ip.s3 = n3 ∧ ip.s4 = n4 ∧ ip.s5 = n5 := by
  obtain ⟨s0, s1, s2, s3, s4, s5, s6, s7⟩ := ip
  simp only [← UInt16.toNat_inj]
  rw [Block.mem_iff, Block.size, Ipv6Addr.toNat]
  unfold segments
  dsimp only
  have := s0.toNat_lt
  have := s1.toNat_lt
  have := s2.toNat_lt
  have := s3.toNat_lt
  have := s4.toNat_lt
  have := s5.toNat_lt
  have := s6.toNat_lt
  have := s7.toNat_lt
  have := n0.toNat_lt
  have := n1.toNat_lt
  have := n2.toNat_lt
  have := n3.toNat_lt
  have := n4.toNat_lt
  have := n5.toNat_lt
  omega

/-- The first two segments, and the rest. -/
theorem exists_rest (ip : Ipv6Addr) : ∃ rest < 2 ^ 96,
    ip.toNat = (ip.s0.toNat * 65536 + ip.s1.toNat) * 2 ^ 96 + rest := by
  have := ip.s2.toNat_lt
  have := ip.s3.toNat_lt
  have := ip.s4.toNat_lt
  have := ip.s5.toNat_lt
  have := ip.s6.toNat_lt
  have := ip.s7.toNat_lt
  refine ⟨segments 0 0 ip.s2.toNat ip.s3.toNat ip.s4.toNat ip.s5.toNat ip.s6.toNat ip.s7.toNat, ?_, ?_⟩
  · unfold segments
    omega
  · unfold Ipv6Addr.toNat segments
    omega

/-- The first segment says what is in a block that is not longer than it. -/
theorem mem_segment {ip : Ipv6Addr} {n length : ℕ} {hlength : length ≤ 128}
    {haligned : segments n 0 0 0 0 0 0 0 % 2 ^ (128 - length) = 0} (h : length ≤ 16) :
    ip.toNat ∈ Block.mk (segments n 0 0 0 0 0 0 0) length hlength haligned ↔
      n ≤ ip.s0.toNat ∧ ip.s0.toNat < n + 2 ^ (16 - length) := by
  obtain ⟨rest, hrest, hnat⟩ := exists_rest ip
  have := ip.s1.toNat_lt
  have hsize : 2 ^ (128 - length) = 2 ^ (16 - length) * 2 ^ 112 := by
    rw [show 128 - length = 16 - length + 112 by omega, pow_add]
  rw [Block.mem_iff, Block.size, hsize, hnat]
  unfold segments
  dsimp only
  omega

/-- A mask on the first segment. -/
theorem mask_iff {ip : Ipv6Addr} {mask first : UInt16} {length : ℕ} {hlength : length ≤ 128}
    {haligned : segments first.toNat 0 0 0 0 0 0 0 % 2 ^ (128 - length) = 0} (h : length ≤ 16)
    (hfirst : first.toNat % 2 ^ (16 - length) = 0) (hmask : mask.toNat = 2 ^ 16 - 2 ^ (16 - length)) :
    (ip.s0 &&& mask == first) = true ↔
      ip.toNat ∈ Block.mk (segments first.toNat 0 0 0 0 0 0 0) length hlength haligned := by
  rw [mem_segment h, beq_iff_eq, ← UInt16.toNat_inj, UInt16.toNat_and, hmask]
  exact (@Block.and_mask_eq_iff 16 _ ⟨first.toNat, length, h, hfirst⟩ ip.s0.toNat_lt).trans
    Block.mem_iff

/-- The network of documentation addresses. -/
theorem documentation_iff (ip : Ipv6Addr) : (ip.s0 == 0x2001 && ip.s1 == 0x0db8) = true ↔
    ip.toNat ∈ (.mk (segments 0x2001 0x0db8 0 0 0 0 0 0) 32 : Block 128) := by
  obtain ⟨rest, hrest, hnat⟩ := exists_rest ip
  have := ip.s0.toNat_lt
  have := ip.s1.toNat_lt
  rw [Bool.and_eq_true, beq_iff_eq, beq_iff_eq, ← UInt16.toNat_inj, ← UInt16.toNat_inj, Block.mem_iff,
    Block.size, hnat]
  unfold segments
  simp only [UInt16.reduceToNat]
  omega

theorem toIpv4Mapped_of_mem {ip : Ipv6Addr} (h : ip.toNat ∈ Translation.mapped.block) :
    ip.toIpv4Mapped = some (Translation.mapped.embedded ip) :=
  if_pos ((mem_segments ip 0 0 0 0 0 0xffff).1 h)

theorem toIpv4Mapped_of_not_mem {ip : Ipv6Addr} (h : ip.toNat ∉ Translation.mapped.block) :
    ip.toIpv4Mapped = none :=
  if_neg fun hsegments => h ((mem_segments ip 0 0 0 0 0 0xffff).2 hsegments)

/-- **A mapped address is what it maps.** -/
theorem isPublicIp_of_mapped {ip : Ipv6Addr} (h : ip.toNat ∈ Translation.mapped.block) :
    isPublicIp (.v6 ip) = isPublicIp (.v4 (Translation.mapped.embedded ip)) := by
  simp only [isPublicIp, toIpv4Mapped_of_mem h]

/-- **What is refused of IPv6** that is not mapped. -/
theorem isPublicIp_of_not_mapped {ip : Ipv6Addr} (h : ip.toNat ∉ Translation.mapped.block) :
    isPublicIp (.v6 ip) = true ↔
      ip ≠ .localhost ∧ ip ≠ .unspecified ∧ ∀ b ∈ refusedV6, ip.toNat ∉ b := by
  have hmulticast : ip.isMulticast = true ↔
      ip.toNat ∈ (.mk (segments 0xff00 0 0 0 0 0 0 0) 8 : Block 128) :=
    @mask_iff ip 0xff00 0xff00 8 _ _ (by decide) (by decide) (by decide)
  have hlocal : (ip.s0 &&& 0xfe00 == 0xfc00) = true ↔
      ip.toNat ∈ (.mk (segments 0xfc00 0 0 0 0 0 0 0) 7 : Block 128) :=
    @mask_iff ip 0xfe00 0xfc00 7 _ _ (by decide) (by decide) (by decide)
  have hlink : (ip.s0 &&& 0xffc0 == 0xfe80) = true ↔
      ip.toNat ∈ (.mk (segments 0xfe80 0 0 0 0 0 0 0) 10 : Block 128) :=
    @mask_iff ip 0xffc0 0xfe80 10 _ _ (by decide) (by decide) (by decide)
  rw [isPublicIp, toIpv4Mapped_of_not_mem h]
  dsimp only
  rw [Bool.not_eq_true', ← Bool.not_eq_true]
  simp only [Bool.or_eq_true]
  rw [hmulticast, hlocal, hlink, documentation_iff, Ipv6Addr.isLoopback, Ipv6Addr.isUnspecified,
    beq_iff_eq, beq_iff_eq]
  simp only [refusedV6, List.forall_mem_cons, List.not_mem_nil, false_implies, implies_true, and_true,
    not_or, and_assoc]

/-- **The other translations are not looked through.** -/
theorem isPublicIp_of_translation {t : Translation} {ip : Ipv6Addr} (ht : t ≠ .mapped)
    (h : ip.toNat ∈ t.block) :
    isPublicIp (.v6 ip) = true ↔ ip ≠ .localhost ∧ ip ≠ .unspecified := by
  have hapart : ∀ b ∈ Translation.mapped.block :: refusedV6,
      b.first ∉ t.block ∧ t.block.first ∉ b := by
    cases t with
    | mapped => exact absurd rfl ht
    | compatible => decide
    | nat64 => decide
    | sixToFour => decide
  have hout : ∀ b ∈ Translation.mapped.block :: refusedV6, ip.toNat ∉ b := fun b hb =>
    Block.not_mem_of_apart (hapart b hb).1 (hapart b hb).2 h
  rw [isPublicIp_of_not_mapped (hout _ (List.mem_cons_self ..))]
  exact and_congr_right fun _ => and_iff_left fun b hb => hout b (List.mem_cons_of_mem _ hb)

/-! ### What is refused, and what is reached -/

/-- The address is refused, by its blocks. -/
def Refused : IpAddr → Prop
  | .v4 ip => RefusedV4 ip
  | .v6 ip =>
    if ip.toNat ∈ Translation.mapped.block then RefusedV4 (Translation.mapped.embedded ip)
    else ip = .localhost ∨ ip = .unspecified ∨ ∃ b ∈ refusedV6, ip.toNat ∈ b

/-- **What is public.** -/
theorem isPublicIp_iff (ip : IpAddr) : isPublicIp ip = true ↔ ¬ Refused ip := by
  cases ip with
  | v4 ip => exact isPublicV4_eq_true_iff ip
  | v6 ip =>
      rw [Refused]
      by_cases h : ip.toNat ∈ Translation.mapped.block
      · rw [if_pos h, isPublicIp_of_mapped h]
        exact isPublicV4_eq_true_iff _
      · rw [if_neg h, isPublicIp_of_not_mapped h, not_or, not_or, not_exists]
        exact and_congr_right fun _ => and_congr_right fun _ => forall_congr' fun b => not_and.symm

/-- The address is of a translation that is not looked through, and the IPv4 address in it is
refused. -/
def Hidden (ip : IpAddr) : Prop :=
  ∃ v6 t, ip = .v6 v6 ∧ t ≠ Translation.mapped ∧ v6.toNat ∈ t.block ∧ RefusedV4 (t.embedded v6)

/-- The IPv4 endpoint of an address is public, if it has one. -/
def ReachesPublic : IpAddr → Prop
  | .v4 ip => isPublicIp (.v4 ip) = true
  | .v6 ip => ∀ t : Translation, ip.toNat ∈ t.block → isPublicIp (.v4 (t.embedded ip)) = true

/-- **An address that is public** reaches a public endpoint, unless one is hidden in it. -/
theorem reachesPublic_iff {ip : IpAddr} (h : isPublicIp ip = true) : ReachesPublic ip ↔ ¬ Hidden ip := by
  cases ip with
  | v4 ip =>
      refine iff_of_true h ?_
      rintro ⟨v6, t, heq, _⟩
      cases heq
  | v6 ip =>
      constructor
      · rintro hreaches ⟨v6, t, heq, _, hblock, hrefused⟩
        obtain rfl := IpAddr.v6.inj heq
        exact (isPublicV4_eq_true_iff _).1 (hreaches t hblock) hrefused
      · intro hhidden t hblock
        by_cases ht : t = .mapped
        · subst ht
          rwa [← isPublicIp_of_mapped hblock]
        · refine (isPublicV4_eq_true_iff _).2 fun hrefused => ?_
          exact hhidden ⟨ip, t, rfl, ht, hblock, hrefused⟩

/-- **What is connected to**: the first address, if all are public. -/
theorem fetchDocument_connects_iff {lookup : Lookup} {client : Client} {address : SocketAddr} :
    (fetchDocument lookup client).1 = some address ↔ ∃ addresses,
      lookup = .addresses (address :: addresses) ∧ client.build = .ok () ∧
        ∀ x ∈ address :: addresses, isPublicIp x.ip = true := by
  cases lookup with
  | timeout => exact iff_of_false (fun h => nomatch h) fun ⟨_, h, _⟩ => nomatch h
  | error => exact iff_of_false (fun h => nomatch h) fun ⟨_, h, _⟩ => nomatch h
  | addresses l =>
      cases l with
      | nil => exact iff_of_false (fun h => nomatch h) fun ⟨_, h, _⟩ => nomatch h
      | cons first rest =>
          rw [fetchDocument]
          split_ifs with hany
          · refine iff_of_false (fun h => nomatch h) ?_
            rintro ⟨addresses, heq, _, hall⟩
            obtain ⟨x, hx, hrefused⟩ := List.any_eq_true.1 hany
            rw [Lookup.addresses.inj heq] at hx
            rw [hall x hx] at hrefused
            exact absurd hrefused (by decide)
          · have hall : ∀ x ∈ first :: rest, isPublicIp x.ip = true := by
              intro x hx
              by_contra hrefused
              exact hany (List.any_eq_true.2 ⟨x, hx, by simpa using hrefused⟩)
            cases hbuild : client.build with
            | error cause =>
                refine iff_of_false (fun h => nomatch h) ?_
                rintro ⟨_, _, h, _⟩
                cases h
            | ok u =>
                constructor
                · intro h
                  obtain rfl := Option.some.inj h
                  exact ⟨rest, rfl, rfl, hall⟩
                · rintro ⟨addresses, heq, _, _⟩
                  exact congrArg some (List.cons.inj (Lookup.addresses.inj heq)).1

/-- A client whose requests are not answered. -/
def demoClient : Client where
  build := .ok ()
  send _ := none
  parse _ := none

/-- **What the filter sees through.**  The ranges of IPv4 that are not public are refused.  An address of
a translation is public only if the address in it is, if and only if it is mapped, or refused itself,
or there is nothing to hide.  And what is connected to reaches a public endpoint, if and only if some
address of the domain is refused or the first one hides none. -/
theorem isPublicIp_embedded_iff (ip4 : Ipv4Addr) (t : Translation) (ip : Ipv6Addr) (lookup : Lookup) :
    (∀ b ∈ nonPublicV4, ip4.toNat ∈ b → isPublicIp (.v4 ip4) = false) ∧
    (ip.toNat ∈ t.block →
      ((isPublicIp (.v6 ip) = true → isPublicIp (.v4 (t.embedded ip)) = true) ↔
        t = .mapped ∨ ip = .localhost ∨ ip = .unspecified ∨ ¬ RefusedV4 (t.embedded ip))) ∧
    ((∀ client address, (fetchDocument lookup client).1 = some address → ReachesPublic address.ip) ↔
      ∀ address addresses, lookup = .addresses (address :: addresses) →
        (∃ x ∈ address :: addresses, Refused x.ip) ∨ ¬ Hidden address.ip) := by
  refine ⟨fun b hb h => ?_, fun h => ?_, ?_⟩
  · rw [← Bool.not_eq_true]
    exact fun hpublic => (isPublicV4_eq_true_iff ip4).1 hpublic (refusedV4_of_nonPublic hb h)
  · by_cases ht : t = .mapped
    · subst ht
      rw [isPublicIp_of_mapped h]
      exact iff_of_true id (Or.inl rfl)
    · rw [isPublicIp_of_translation ht h, or_iff_right ht]
      change (_ → isPublicV4 _ = true) ↔ _
      rw [isPublicV4_eq_true_iff]
      tauto
  · constructor
    · intro hconnects address addresses hlookup
      by_cases hrefused : ∃ x ∈ address :: addresses, Refused x.ip
      · exact Or.inl hrefused
      · have hall : ∀ x ∈ address :: addresses, isPublicIp x.ip = true := fun x hx =>
          (isPublicIp_iff x.ip).2 fun h => hrefused ⟨x, hx, h⟩
        refine Or.inr ((reachesPublic_iff (hall address (List.mem_cons_self ..))).1 ?_)
        exact hconnects demoClient address
          (fetchDocument_connects_iff.2 ⟨addresses, hlookup, rfl, hall⟩)
    · intro hcondition client address hconnects
      obtain ⟨addresses, hlookup, _, hall⟩ := fetchDocument_connects_iff.1 hconnects
      refine (reachesPublic_iff (hall address (List.mem_cons_self ..))).2 ?_
      refine (hcondition address addresses hlookup).resolve_left ?_
      rintro ⟨x, hx, hrefused⟩
      exact (isPublicIp_iff x.ip).1 (hall x hx) hrefused

/-- `64:ff9b::1.1.1.1` reaches what it says. -/
theorem isPublicIp_embedded_demo :
    isPublicIp (.v6 ⟨0x64, 0xff9b, 0, 0, 0, 0, 0x0101, 0x0101⟩) = true →
      isPublicIp (.v4 ⟨1, 1, 1, 1⟩) = true :=
  ((isPublicIp_embedded_iff ⟨1, 1, 1, 1⟩ .nat64 ⟨0x64, 0xff9b, 0, 0, 0, 0, 0x0101, 0x0101⟩
    .timeout).2.1 (by decide)).2 (Or.inr (Or.inr (Or.inr (by decide))))

/-- `64:ff9b::127.0.0.1` -/
def demoNat64 : Ipv6Addr := ⟨0x64, 0xff9b, 0, 0, 0, 0, 0x7f00, 1⟩

/-- `2002:7f00:1::` -/
def demoSixToFour : Ipv6Addr := ⟨0x2002, 0x7f00, 1, 0, 0, 0, 0, 0⟩

/-- `::127.0.0.1` -/
def demoCompatible : Ipv6Addr := ⟨0, 0, 0, 0, 0, 0, 0x7f00, 1⟩

/-- **The host itself is reached**, by any of the three. -/
theorem isPublicIp_hidden :
    (∀ x ∈ [(Translation.nat64, demoNat64), (.sixToFour, demoSixToFour), (.compatible, demoCompatible)],
      x.2.toNat ∈ x.1.block ∧ x.1.embedded x.2 = ⟨127, 0, 0, 1⟩ ∧ isPublicIp (.v6 x.2) = true) ∧
    isPublicIp (.v4 ⟨127, 0, 0, 1⟩) = false ∧
    (fetchDocument (.addresses [⟨.v6 demoNat64, 443⟩]) demoClient).1 = some ⟨.v6 demoNat64, 443⟩ := by
  refine ⟨by decide, by decide, ?_⟩
  exact fetchDocument_connects_iff.2 ⟨[], rfl, rfl, by decide⟩

end Identity
end Routes
end SentinelMesh
