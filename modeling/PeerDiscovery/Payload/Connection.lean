import PeerDiscovery.Bytes

/-!
# The connection byte

Introduction messages carry one byte of flags: bit 0 asks for advice, bit 1 is
for tunnels, and bits 6 and 7 say how the sender is connected.  The other bits
are zero when written and ignored when read.
-/

namespace PeerDiscovery

inductive ConnectionType where
  | unknown
  | reachable
  /-- Every destination sees the node at another address. -/
  | symmetric
deriving DecidableEq

namespace ConnectionType

def text : ConnectionType → String
  | unknown => "unknown"
  | reachable => "public"
  | symmetric => "symmetric"

def ofText? : String → Option ConnectionType
  | "unknown" => some unknown
  | "public" => some reachable
  | "symmetric" => some symmetric
  | _ => none

def bits : ConnectionType → UInt8
  | unknown => 0x00
  | reachable => 0x80
  | symmetric => 0xc0

/-- The connection that the two highest bits of a byte say. -/
def ofBits (byte : UInt8) : ConnectionType :=
  if byte &&& 0xc0 = 0x80 then reachable
  else if byte &&& 0xc0 = 0xc0 then symmetric
  else unknown

end ConnectionType

structure ConnectionFlags where
  connection : ConnectionType
  advice : Bool
  tunnel : Bool
deriving DecidableEq

namespace ConnectionFlags

def encode (flags : ConnectionFlags) : UInt8 :=
  flags.connection.bits ||| (if flags.advice then 1 else 0) ||| (if flags.tunnel then 2 else 0)

def decode (byte : UInt8) : ConnectionFlags :=
  { connection := .ofBits byte
    advice := byte &&& 1 ≠ 0
    tunnel := byte &&& 2 ≠ 0 }

theorem decode_encode (flags : ConnectionFlags) : decode flags.encode = flags := by
  obtain ⟨connection, advice, tunnel⟩ := flags
  cases connection <;> cases advice <;> cases tunnel <;> decide

end ConnectionFlags

end PeerDiscovery
