import Giganto.Net.SocketAddr

/-!
# Writing socket addresses

The `Display` impls of `Ipv4Addr`, `Ipv6Addr`, `SocketAddrV4`, `SocketAddrV6` and
`SocketAddr`, the text `to_string` gives and `Serialize` writes for an address.
-/

namespace Giganto.Net

/-- An integer in decimal, as `{}` writes it. -/
def decimal (n : Nat) : List Char := Nat.toDigits 10 n

/-- An integer in lower-case hex without leading zeros, as `{:x}` writes it. -/
def hex (n : Nat) : List Char := Nat.toDigits 16 n

/-- `Display for Ipv4Addr`: `a.b.c.d`. -/
def Ipv4Addr.display (ip : Ipv4Addr) : List Char :=
  decimal ip.a.toNat ++ '.' :: decimal ip.b.toNat ++ '.' :: decimal ip.c.toNat ++
    '.' :: decimal ip.d.toNat

/-- `fmt_subslice`: the segments in hex, joined by `:`. -/
def fmtSubslice : List UInt16 → List Char
  | [] => []
  | g :: gs => hex g.toNat ++ gs.flatMap fun g => ':' :: hex g.toNat

/-- One step of the search for the longest run of zero segments: the longest run and the
current one, each as `(start, len)`. -/
def zeroSpanStep (spans : (Nat × Nat) × (Nat × Nat)) (seg : Nat × UInt16) :
    (Nat × Nat) × (Nat × Nat) :=
  let (longest, current) := spans
  if seg.2 = 0 then
    let current := (if current.2 = 0 then seg.1 else current.1, current.2 + 1)
    (if longest.2 < current.2 then current else longest, current)
  else (longest, (0, 0))

/-- The first longest run of zero segments, `(start, len)`. -/
def longestZeroSpan (segments : List UInt16) : Nat × Nat :=
  (segments.enum.foldl zeroSpanStep ((0, 0), (0, 0))).1

/-- `Ipv6Addr::to_ipv4_mapped`: `::ffff:a.b.c.d`. -/
def Ipv6Addr.toIpv4Mapped (ip : Ipv6Addr) : Option Ipv4Addr :=
  match ip.segments with
  | [s0, s1, s2, s3, s4, s5, ab, cd] =>
    if s0 = 0 ∧ s1 = 0 ∧ s2 = 0 ∧ s3 = 0 ∧ s4 = 0 ∧ s5 = 0xffff then
      some ⟨UInt8.ofNat (ab.toNat / 256), UInt8.ofNat (ab.toNat % 256),
        UInt8.ofNat (cd.toNat / 256), UInt8.ofNat (cd.toNat % 256)⟩
    else none
  | _ => none

/-- `Display for Ipv6Addr`: the IPv4-mapped form, or the segments with the first longest run
of at least two zero segments written `::`. -/
def Ipv6Addr.display (ip : Ipv6Addr) : List Char :=
  match ip.toIpv4Mapped with
  | some v4 => "::ffff:".toList ++ v4.display
  | none =>
    let (start, len) := longestZeroSpan ip.segments
    if 1 < len then
      fmtSubslice (ip.segments.take start) ++ "::".toList ++
        fmtSubslice (ip.segments.drop (start + len))
    else fmtSubslice ip.segments

/-- `Display for SocketAddrV4`: `ip:port`. -/
def SocketAddrV4.display (addr : SocketAddrV4) : List Char :=
  addr.ip.display ++ ':' :: decimal addr.port.toNat

/-- `Display for SocketAddrV6`: `[ip]:port`, or `[ip%scope]:port`; the flow info is not
written. -/
def SocketAddrV6.display (addr : SocketAddrV6) : List Char :=
  '[' :: addr.ip.display ++
    (if addr.scopeId = 0 then [] else '%' :: decimal addr.scopeId.toNat) ++
    ']' :: ':' :: decimal addr.port.toNat

/-- `Display for SocketAddr`. -/
def SocketAddr.display : SocketAddr → List Char
  | .v4 addr => addr.display
  | .v6 addr => addr.display

/-- `SocketAddr::to_string`. -/
def SocketAddr.toString (addr : SocketAddr) : String := ⟨addr.display⟩

end Giganto.Net
