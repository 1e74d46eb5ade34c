import PeerDiscovery.Address.Basic
import PeerDiscovery.Text.Scan

/-!
# Addresses as text

An address is written as four decimal octets, a colon and the decimal port,
such as `10.0.0.1:8090`.  When it is read, an octet has at most three digits
and no superfluous zero; the port may have any number of leading zeros.
-/

namespace PeerDiscovery

inductive AddressSyntaxError where
  | ipv4Socket
  | socket
deriving DecidableEq

def AddressSyntaxError.message : AddressSyntaxError → String
  | ipv4Socket => "invalid IPv4 socket address syntax"
  | socket => "invalid socket address syntax"

namespace Ipv4

def text (ip : Ipv4) : String :=
  ".".intercalate (ip.octets.map fun octet => toString octet.toNat)

def scanOctet : Scan Nat :=
  Scan.number { maxDigits := some 3, leadingZeros := false, bound := 256 }

def scan : Scan Ipv4 := fun chars => do
  let (first, chars) ← scanOctet chars
  let (_, chars) ← Scan.char '.' chars
  let (second, chars) ← scanOctet chars
  let (_, chars) ← Scan.char '.' chars
  let (third, chars) ← scanOctet chars
  let (_, chars) ← Scan.char '.' chars
  let (fourth, chars) ← scanOctet chars
  return (⟨.ofNat first, .ofNat second, .ofNat third, .ofNat fourth⟩, chars)

end Ipv4

namespace Address

def text (address : Address) : String :=
  address.ip.text ++ ":" ++ toString address.port.toNat

def scanPort : Scan UInt16 := fun chars => do
  let (_, chars) ← Scan.char ':' chars
  let (port, chars) ← Scan.number { bound := 65536 } chars
  return (.ofNat port, chars)

def scan : Scan Address := fun chars => do
  let (ip, chars) ← Ipv4.scan chars
  let (port, chars) ← scanPort chars
  return (⟨ip, port⟩, chars)

def ofText (text : String) : Except AddressSyntaxError Address :=
  match Scan.whole scan text with
  | some address => .ok address
  | none => .error .ipv4Socket

end Address

end PeerDiscovery
