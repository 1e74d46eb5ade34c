import PeerDiscovery.Bytes.Hex
import PeerDiscovery.Error
import PeerDiscovery.Hash.Sha
import Std.Data.ExtTreeSet

/-!
# Identifiers of members and services

A member is known by the SHA-1 digest of its serialized public key, an overlay
by the identifier of the service it offers.  Both have twenty bytes and are
ordered by them.
-/

namespace PeerDiscovery

namespace Block

instance {width : Nat} : Ord (Block width) := ⟨compareOn toNatBE⟩

instance {width : Nat} : Std.TransOrd (Block width) :=
  inferInstanceAs (Std.TransCmp (compareOn toNatBE))

instance {width : Nat} : Std.LawfulEqOrd (Block width) where
  eq_of_compare equalRanks :=
    toNatBE_injective (Std.LawfulEqOrd.eq_of_compare equalRanks)

end Block

@[ext]
structure MemberId where
  digest : Block 20
deriving DecidableEq

namespace MemberId

instance : Ord MemberId := ⟨compareOn digest⟩

instance : Std.TransOrd MemberId :=
  inferInstanceAs (Std.TransCmp (compareOn digest))

instance : Std.LawfulEqOrd MemberId where
  eq_of_compare equalRanks :=
    MemberId.ext (Std.LawfulEqOrd.eq_of_compare equalRanks)

def ofKeyBytes (key : Bytes) : MemberId := ⟨Hash.sha1 key⟩

def text (member : MemberId) : String :=
  Hex.encode member.digest.bytes

def describe (member : MemberId) : String :=
  "MemberId(" ++ Hex.encode (member.digest.bytes.take 8) ++ ")"

end MemberId

/-- The identifier of the service that an overlay offers. -/
@[ext]
structure ServiceId where
  id : Block 20
deriving DecidableEq

namespace ServiceId

instance : Ord ServiceId := ⟨compareOn id⟩

instance : Std.TransOrd ServiceId :=
  inferInstanceAs (Std.TransCmp (compareOn id))

instance : Std.LawfulEqOrd ServiceId where
  eq_of_compare equalRanks :=
    ServiceId.ext (Std.LawfulEqOrd.eq_of_compare equalRanks)

def text (service : ServiceId) : String :=
  Hex.encode service.id.bytes

def describe (service : ServiceId) : String :=
  "ServiceId(" ++ service.text ++ ")"

/-- The identifier that a text of forty hexadecimal digits spells. -/
def ofText (text : String) : Except PacketError ServiceId :=
  match Hex.decode? text with
  | none => .error (.malformed "service id is not hex")
  | some bytes =>
    match Block.ofBytes? 20 bytes with
    | none => .error (.malformed "service id must be 20 bytes")
    | some id => .ok ⟨id⟩

/-- What every packet of the overlay starts with: the version of the protocol
and the service. -/
def header (service : ServiceId) : Bytes :=
  0 :: 2 :: service.id.bytes

def headerSize : Nat := 22

@[simp]
theorem length_header (service : ServiceId) : service.header.length = headerSize := by
  simp [header, service.id.length_bytes, headerSize]

theorem header_injective {left right : ServiceId} (sameHeader : left.header = right.header) :
    left = right := by
  simp only [header, List.cons.injEq, true_and] at sameHeader
  exact ServiceId.ext (Block.ext sameHeader)

theorem ofText_text (service : ServiceId) : ofText service.text = .ok service := by
  simp [ofText, text, Hex.decode?_encode]

end ServiceId

end PeerDiscovery
