import PeerDiscovery.Bytes
import PeerDiscovery.Error
import Std.Data.ExtTreeSet

/-!
# Addresses of peers

An address is an IPv4 address and a port.  The all-zero address stands for
"unknown".  On the wire an address takes six bytes, the port most significant
byte first; addresses are ordered by IP and then by port.
-/

namespace PeerDiscovery

@[ext]
structure Ipv4 where
  first : UInt8
  second : UInt8
  third : UInt8
  fourth : UInt8
deriving DecidableEq

namespace Ipv4

def unspecified : Ipv4 := ⟨0, 0, 0, 0⟩

/-- The addresses `127.0.0.0/8` of the machine itself. -/
def isLoopback (ip : Ipv4) : Bool :=
  ip.first == 127

/-- The private networks `10.0.0.0/8`, `172.16.0.0/12` and `192.168.0.0/16`. -/
def isPrivate (ip : Ipv4) : Bool :=
  ip.first == 10 || (ip.first == 172 && ip.second &&& 0xf0 == 16) ||
    (ip.first == 192 && ip.second == 168)

/-- The network `169.254.0.0/16`, which no router forwards. -/
def isLinkLocal (ip : Ipv4) : Bool :=
  ip.first == 169 && ip.second == 254

def octets (ip : Ipv4) : Bytes :=
  [ip.first, ip.second, ip.third, ip.fourth]

end Ipv4

@[ext]
structure Address where
  ip : Ipv4
  port : UInt16
deriving DecidableEq

namespace Address

def empty : Address := ⟨.unspecified, 0⟩

/-- Whether this is the address that stands for "unknown". -/
def isEmpty (address : Address) : Bool :=
  address == empty

def isLoopback (address : Address) : Bool :=
  address.ip.isLoopback

def isLan (address : Address) : Bool :=
  address.ip.isPrivate || address.ip.isLinkLocal

/-- The number of bytes an address takes on the wire. -/
def size : Nat := 6

/-- The wire form: four octets, then the port. -/
def encode (address : Address) : Bytes :=
  address.ip.octets ++ Bytes.ofNatBE 2 address.port.toNat

def ofBytes? : Bytes → Option Address
  | first :: second :: third :: fourth :: high :: low :: _ =>
    some ⟨⟨first, second, third, fourth⟩, UInt16.ofNat (Bytes.toNatBE [high, low])⟩
  | _ => none

def decode (bytes : Bytes) : Except PacketError Address :=
  match ofBytes? bytes with
  | some address => .ok address
  | none => .error (.tooShort size bytes.length)

/-- The position of an address in the order by IP and then by port. -/
def rank (address : Address) : Nat :=
  Bytes.toNatBE address.encode

instance : Ord Address := ⟨compareOn rank⟩

def sort (addresses : List Address) : List Address :=
  addresses.mergeSort fun left right => left.rank ≤ right.rank

@[simp]
theorem length_encode (address : Address) : address.encode.length = size := rfl

/-- A written address reads back, whatever follows it. -/
theorem ofBytes?_encode_append (address : Address) (rest : Bytes) :
    ofBytes? (address.encode ++ rest) = some address := by
  have portBound : address.port.toNat < Bytes.bound 2 := address.port.toNat_lt
  have written : ∀ value : Nat, Bytes.ofNatBE 2 value =
      [UInt8.ofNat (value / 256), UInt8.ofNat value] := fun _ => rfl
  have readBack : UInt16.ofNat (Bytes.toNatBE (Bytes.ofNatBE 2 address.port.toNat)) =
      address.port := by
    rw [Bytes.toNatBE_ofNatBE, Nat.mod_eq_of_lt portBound]
    exact UInt16.ofNat_toNat
  rw [written] at readBack
  simp only [encode, Ipv4.octets, written, List.cons_append, List.nil_append, ofBytes?,
    readBack]

theorem rank_injective {left right : Address} (sameRank : left.rank = right.rank) :
    left = right := by
  have sameBytes : left.encode = right.encode := by
    have leftWritten := Bytes.ofNatBE_toNatBE left.encode
    have rightWritten := Bytes.ofNatBE_toNatBE right.encode
    rw [length_encode] at leftWritten rightWritten
    rw [← leftWritten, ← rightWritten]
    exact congrArg (Bytes.ofNatBE size) sameRank
  have leftRead := ofBytes?_encode_append left []
  rw [sameBytes, ofBytes?_encode_append right []] at leftRead
  exact (Option.some.inj leftRead).symm

instance : Std.TransOrd Address :=
  inferInstanceAs (Std.TransCmp (compareOn rank))

instance : Std.LawfulEqOrd Address where
  eq_of_compare equalRanks :=
    rank_injective (Std.LawfulEqOrd.eq_of_compare equalRanks)

end Address

end PeerDiscovery
