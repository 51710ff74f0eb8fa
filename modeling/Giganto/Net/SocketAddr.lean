import Giganto.Net.Digits

/-!
# Socket addresses and their parser

`std::net::SocketAddr` and `<SocketAddr as FromStr>::from_str`, the parser of
`core::net::parser`. Every `Parser` method is a function from the remaining input to the value
read and the input left; `none` is a failed read, after which the caller goes on with the
input it had, as `read_atomically` restores it.
-/

namespace Giganto.Net

/-- `Ipv4Addr`, by its four octets. -/
structure Ipv4Addr where
  a : UInt8
  b : UInt8
  c : UInt8
  d : UInt8
deriving DecidableEq, Repr

/-- `Ipv6Addr`, by its eight 16-bit segments. -/
structure Ipv6Addr where
  segments : List UInt16
  length_eq : segments.length = 8
deriving DecidableEq, Repr

structure SocketAddrV4 where
  ip : Ipv4Addr
  port : UInt16
deriving DecidableEq, Repr

structure SocketAddrV6 where
  ip : Ipv6Addr
  port : UInt16
  flowinfo : UInt32
  scopeId : UInt32
deriving DecidableEq, Repr

inductive SocketAddr where
  | v4 (addr : SocketAddrV4)
  | v6 (addr : SocketAddrV6)
deriving DecidableEq, Repr

/-- The `[u16; 8]` array of `read_ipv6_addr`: the groups written from the front of an array
of zeros. -/
def Ipv6Addr.ofGroups (groups : List Nat) : Ipv6Addr :=
  ⟨(groups.map UInt16.ofNat ++ List.replicate 8 0).take 8, by simp⟩

/-- `read_given_char`. -/
def readGivenChar (target : Char) : List Char → Option (Unit × List Char)
  | c :: rest => if c = target then some ((), rest) else none
  | [] => none

/-- `read_separator`: the separator before every element but the first, then `inner`. -/
def readSeparator {α : Type} (sep : Char) (index : Nat)
    (inner : List Char → Option (α × List Char)) (s : List Char) : Option (α × List Char) :=
  if 0 < index then (readGivenChar sep s).bind fun (_, rest) => inner rest else inner s

/-- An octet of `read_ipv4_addr`: at most three decimal digits, no leading zero. -/
def readOctet (s : List Char) : Option (UInt8 × List Char) :=
  (readNumber 10 (some 3) false 8 s).map fun (n, rest) => (UInt8.ofNat n, rest)

/-- `Parser::read_ipv4_addr`. -/
def readIpv4Addr (s : List Char) : Option (Ipv4Addr × List Char) := do
  let (a, s) ← readSeparator '.' 0 readOctet s
  let (b, s) ← readSeparator '.' 1 readOctet s
  let (c, s) ← readSeparator '.' 2 readOctet s
  let (d, s) ← readSeparator '.' 3 readOctet s
  pure (⟨a, b, c, d⟩, s)

/-- A group of `read_ipv6_addr`: at most four hex digits, leading zeros allowed. -/
def readHexGroup (s : List Char) : Option (Nat × List Char) := readNumber 16 (some 4) true 16 s

/-- `read_groups` of `read_ipv6_addr`, at slot `i` of `limit` with `remaining` slots left: the
groups read, whether an embedded IPv4 address (two groups, tried while two slots are left)
ended them, and the rest of the input. -/
def readGroups (limit : Nat) : (i remaining : Nat) → List Char → List Nat × Bool × List Char
  | _, 0, s => ([], false, s)
  | i, remaining + 1, s =>
    let ipv4 := if i < limit - 1 then readSeparator ':' i readIpv4Addr s else none
    match ipv4 with
    | some (v4, rest) =>
      ([v4.a.toNat * 256 + v4.b.toNat, v4.c.toNat * 256 + v4.d.toNat], true, rest)
    | none =>
      match readSeparator ':' i readHexGroup s with
      | none => ([], false, s)
      | some (g, rest) =>
        let (gs, ipv4, rest) := readGroups limit (i + 1) remaining rest
        (g :: gs, ipv4, rest)

/-- `Parser::read_ipv6_addr`: the groups up to `::`, then the groups after it, the zeros the
`::` stands for in between. -/
def readIpv6Addr (s : List Char) : Option (Ipv6Addr × List Char) :=
  let (head, headIpv4, s) := readGroups 8 0 8 s
  if head.length = 8 then some (Ipv6Addr.ofGroups head, s)
  else if headIpv4 then none
  else do
    let (_, s) ← readGivenChar ':' s
    let (_, s) ← readGivenChar ':' s
    let limit := 8 - (head.length + 1)
    let (tail, _, s) := readGroups limit 0 limit s
    pure (Ipv6Addr.ofGroups (head ++ List.replicate (8 - head.length - tail.length) 0 ++ tail), s)

/-- `Parser::read_port`. -/
def readPort (s : List Char) : Option (UInt16 × List Char) := do
  let (_, s) ← readGivenChar ':' s
  let (n, s) ← readNumber 10 none true 16 s
  pure (UInt16.ofNat n, s)

/-- `Parser::read_scope_id`. -/
def readScopeId (s : List Char) : Option (UInt32 × List Char) := do
  let (_, s) ← readGivenChar '%' s
  let (n, s) ← readNumber 10 none true 32 s
  pure (UInt32.ofNat n, s)

/-- `Parser::read_socket_addr_v4`. -/
def readSocketAddrV4 (s : List Char) : Option (SocketAddrV4 × List Char) := do
  let (ip, s) ← readIpv4Addr s
  let (port, s) ← readPort s
  pure (⟨ip, port⟩, s)

/-- `Parser::read_socket_addr_v6`: the flow info is always `0`. -/
def readSocketAddrV6 (s : List Char) : Option (SocketAddrV6 × List Char) := do
  let (_, s) ← readGivenChar '[' s
  let (ip, s) ← readIpv6Addr s
  let (scopeId, s) := (readScopeId s).getD (0, s)
  let (_, s) ← readGivenChar ']' s
  let (port, s) ← readPort s
  pure (⟨ip, port, 0, scopeId⟩, s)

/-- `Parser::read_socket_addr`: IPv4 first, then IPv6. -/
def readSocketAddr (s : List Char) : Option (SocketAddr × List Char) :=
  match readSocketAddrV4 s with
  | some (a, rest) => some (.v4 a, rest)
  | none => (readSocketAddrV6 s).map fun (a, rest) => (.v6 a, rest)

/-- `AddrParseError`'s message for `AddrKind::Socket`. -/
def addrParseError : String := "invalid socket address syntax"

/-- `str::parse::<SocketAddr>`: `parse_with`, which also requires the whole input read. -/
def parseSocketAddr (s : String) : Except String SocketAddr :=
  match readSocketAddr s.toList with
  | some (a, []) => .ok a
  | _ => .error addrParseError

end Giganto.Net
