import PeerDiscovery.Address.Text

/-!
# Socket addresses

A transport may be bound to an IPv4 or an IPv6 address.  Only IPv4 addresses,
and IPv6 addresses that stand for one (`::ffff:a.b.c.d`), are addresses of
peers.

IPv6 addresses are written in their shortest form: groups without leading
zeros, and the first longest run of at least two zero groups as `::`.
-/

namespace PeerDiscovery

structure Ipv6 where
  groups : List UInt16
  length_groups : groups.length = 8
deriving DecidableEq

namespace Ipv6

def ofGroups? (groups : List UInt16) : Option Ipv6 :=
  if lengthEq : groups.length = 8 then some ⟨groups, lengthEq⟩ else none

def number (ip : Ipv6) : Nat :=
  ip.groups.foldl (fun number group => 65536 * number + group.toNat) 0

theorem number_injective {left right : Ipv6} (sameNumber : left.number = right.number) :
    left = right := by
  obtain ⟨leftGroups, leftLength⟩ := left
  obtain ⟨rightGroups, rightLength⟩ := right
  match leftGroups, rightGroups, leftLength, rightLength with
  | [a₁, b₁, c₁, d₁, e₁, f₁, g₁, h₁], [a₂, b₂, c₂, d₂, e₂, f₂, g₂, h₂], _, _ =>
    simp only [number, List.foldl_cons, List.foldl_nil] at sameNumber
    have bounds := fun group : UInt16 => group.toNat_lt
    have := bounds a₁; have := bounds a₂; have := bounds b₁; have := bounds b₂
    have := bounds c₁; have := bounds c₂; have := bounds d₁; have := bounds d₂
    have := bounds e₁; have := bounds e₂; have := bounds f₁; have := bounds f₂
    have := bounds g₁; have := bounds g₂; have := bounds h₁; have := bounds h₂
    simp only [mk.injEq, List.cons.injEq, ← UInt16.toNat_inj, and_true]
    refine ⟨?_, ?_, ?_, ?_, ?_, ?_, ?_, ?_⟩ <;> omega

def toIpv4? (ip : Ipv6) : Option Ipv4 :=
  match ip.groups with
  | [0, 0, 0, 0, 0, 0xffff, high, low] =>
    some ⟨(high >>> 8).toUInt8, high.toUInt8, (low >>> 8).toUInt8, low.toUInt8⟩
  | _ => none

def groupText (group : UInt16) : String :=
  String.ofList (Nat.toDigits 16 group.toNat)

def groupsText (groups : List UInt16) : String :=
  ":".intercalate (groups.map groupText)

def leadingZeros (groups : List UInt16) : Nat :=
  (groups.takeWhile (· == 0)).length

/-- Start and length of the first longest run of zero groups. -/
def longestZeroRun (groups : List UInt16) : Nat × Nat :=
  (List.range groups.length).foldl (fun longest start =>
    let length := leadingZeros (groups.drop start)
    if longest.2 < length then (start, length) else longest) (0, 0)

def text (ip : Ipv6) : String :=
  match ip.toIpv4? with
  | some ipv4 => "::ffff:" ++ ipv4.text
  | none =>
    let (start, length) := longestZeroRun ip.groups
    if 1 < length then
      groupsText (ip.groups.take start) ++ "::" ++
        groupsText (ip.groups.drop (start + length))
    else groupsText ip.groups

/-- A value with the separator in front, unless it is the first one. -/
def scanSeparated {Value : Type} (started : Bool) (scan : Scan Value) : Scan Value :=
  fun chars => do
    if started then
      let (_, chars) ← Scan.char ':' chars
      scan chars
    else scan chars

/-- At most `limit` groups with colons between them.  The last two may be
written as an IPv4 address; the flag tells whether they were. -/
def scanGroups : Nat → Bool → List Char → List UInt16 × Bool × List Char
  | 0, _, chars => ([], false, chars)
  | limit + 1, started, chars =>
    let embedded := if 0 < limit then scanSeparated started Ipv4.scan chars else none
    match embedded with
    | some (ip, rest) =>
      let pair (high low : UInt8) : UInt16 := .ofNat (high.toNat * 256 + low.toNat)
      ([pair ip.first ip.second, pair ip.third ip.fourth], true, rest)
    | none =>
      let group := Scan.number { radix := 16, maxDigits := some 4, bound := 65536 }
      match scanSeparated started group chars with
      | some (value, rest) =>
        let (groups, endsInIpv4, rest) := scanGroups limit true rest
        (.ofNat value :: groups, endsInIpv4, rest)
      | none => ([], false, chars)

def scan : Scan Ipv6 := fun chars =>
  let (head, endsInIpv4, chars) := scanGroups 8 false chars
  if head.length = 8 then (ofGroups? head).map (·, chars)
  else if endsInIpv4 then none
  else do
    let (_, chars) ← Scan.char ':' chars
    let (_, chars) ← Scan.char ':' chars
    let (tail, _, chars) := scanGroups (7 - head.length) false chars
    let zeros := List.replicate (8 - head.length - tail.length) 0
    let ip ← ofGroups? (head ++ zeros ++ tail)
    return (ip, chars)

end Ipv6

inductive SocketAddress where
  | v4 (address : Address)
  | v6 (ip : Ipv6) (port : UInt16) (scope : UInt32)
deriving DecidableEq

namespace SocketAddress

/-- The text of an address; an IPv6 address stands in brackets, with its scope
if that is not zero. -/
def text : SocketAddress → String
  | v4 address => address.text
  | v6 ip port scope =>
    let scopeText := if scope == 0 then "" else "%" ++ toString scope.toNat
    "[" ++ ip.text ++ scopeText ++ "]:" ++ toString port.toNat

def scanScope : Scan Nat := fun chars => do
  let (_, chars) ← Scan.char '%' chars
  Scan.number { bound := 4294967296 } chars

/-- An IPv6 address in brackets with its port; without a scope, that is zero. -/
def scanV6 : Scan SocketAddress := fun chars => do
  let (_, chars) ← Scan.char '[' chars
  let (ip, chars) ← Ipv6.scan chars
  let (scope, chars) := (scanScope chars).getD (0, chars)
  let (_, chars) ← Scan.char ']' chars
  let (port, chars) ← Address.scanPort chars
  return (v6 ip port (.ofNat scope), chars)

def scan : Scan SocketAddress := fun chars =>
  match Address.scan chars with
  | some (address, rest) => some (v4 address, rest)
  | none => scanV6 chars

def ofText (text : String) : Except AddressSyntaxError SocketAddress :=
  match Scan.whole scan text with
  | some address => .ok address
  | none => .error .socket

/-- The address under which peers know a socket, if they can. -/
def toAddress? : SocketAddress → Option Address
  | v4 address => some address
  | v6 ip port _ => ip.toIpv4?.map (⟨·, port⟩)

/-- What a transport bound here may take as its address on the local network
without asking the machine: the bound address, if it is a concrete one. -/
def localAddress? : SocketAddress → Option Address
  | v4 address =>
    if address.ip = .unspecified || address.isLoopback then none else some address
  | v6 .. => none

/-- The position of an address in an order: IPv4 addresses first, then by IP, port
and scope. -/
def rank : SocketAddress → Nat
  | v4 address => address.rank
  | v6 ip port scope => (1 <<< 48) + ((((ip.number <<< 16) + port.toNat) <<< 32) + scope.toNat)

theorem rank_v4_lt (address : Address) : (v4 address).rank < 1 <<< 48 := by
  have bound := Bytes.toNatBE_lt address.encode
  rw [Address.length_encode] at bound
  exact bound

theorem rank_injective {left right : SocketAddress} (sameRank : left.rank = right.rank) :
    left = right := by
  cases left with
  | v4 left =>
    cases right with
    | v4 right => exact congrArg v4 (Address.rank_injective sameRank)
    | v6 ip port scope =>
      have bound := rank_v4_lt left
      rw [sameRank] at bound
      simp only [rank] at bound
      omega
  | v6 leftIp leftPort leftScope =>
    cases right with
    | v4 right =>
      have bound := rank_v4_lt right
      rw [← sameRank] at bound
      simp only [rank] at bound
      omega
    | v6 rightIp rightPort rightScope =>
      have leftPortBound := leftPort.toNat_lt
      have rightPortBound := rightPort.toNat_lt
      have leftScopeBound := leftScope.toNat_lt
      have rightScopeBound := rightScope.toNat_lt
      simp only [rank] at sameRank
      have sameIp : leftIp = rightIp := Ipv6.number_injective (by omega)
      have samePort : leftPort = rightPort := UInt16.toNat_inj.mp (by omega)
      have sameScope : leftScope = rightScope := UInt32.toNat_inj.mp (by omega)
      rw [sameIp, samePort, sameScope]

instance : Ord SocketAddress := ⟨compareOn rank⟩

instance : Std.TransOrd SocketAddress :=
  inferInstanceAs (Std.TransCmp (compareOn rank))

instance : Std.LawfulEqOrd SocketAddress where
  eq_of_compare equalRanks :=
    rank_injective (Std.LawfulEqOrd.eq_of_compare equalRanks)

end SocketAddress

end PeerDiscovery
