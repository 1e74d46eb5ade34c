import PeerDiscovery.Payload.Connection
import PeerDiscovery.Payload.Format

/-!
# Introductions and punctures

A node asks another one to verify it and to introduce it to a third one; the
answer names the third one by its addresses.  Both messages tell the receiver
at which address the sender sees it.

Who introduces a walker to someone asks that one to send the walker a puncture,
a packet that opens a way back through the sender's router.  Both messages
carry a LAN address, a WAN address and the identifier of the introduction.
-/

namespace PeerDiscovery

/-- Asks the receiver to verify the sender and to introduce it to someone. -/
@[ext]
structure IntroductionRequest where
  /-- The receiver's address as the sender sees it. -/
  destination : Address
  sourceLan : Address
  sourceWan : Address
  advice : Bool
  connection : ConnectionType
  /-- Repeated in the answer and in the puncture request. -/
  identifier : UInt16
  extra : Bytes
deriving DecidableEq

namespace IntroductionRequest

def encode (request : IntroductionRequest) : Bytes :=
  request.destination.encode ++ request.sourceLan.encode ++ request.sourceWan.encode ++
    [ConnectionFlags.encode ⟨request.connection, request.advice, false⟩] ++
    Bytes.ofNatBE 2 request.identifier.toNat ++ request.extra

def decode (bytes : Bytes) : Except PacketError (IntroductionRequest × Bytes) := do
  let cursor := Cursor.start bytes
  let (destination, cursor) ← cursor.address
  let (sourceLan, cursor) ← cursor.address
  let (sourceWan, cursor) ← cursor.address
  let (byte, cursor) ← cursor.uint8
  let (identifier, cursor) ← cursor.uint16
  let flags := ConnectionFlags.decode byte
  return (⟨destination, sourceLan, sourceWan, flags.advice, flags.connection, identifier,
    cursor.rest⟩, [])

def format : Format IntroductionRequest := ⟨encode, decode⟩

end IntroductionRequest

/-- Answers an introduction request and may introduce someone. -/
@[ext]
structure IntroductionResponse where
  destination : Address
  sourceLan : Address
  sourceWan : Address
  /-- The addresses of whom the responder introduces, or empty ones. -/
  introLan : Address
  introWan : Address
  connection : ConnectionType
  tunnel : Bool
  identifier : UInt16
  extra : Bytes
deriving DecidableEq

namespace IntroductionResponse

def encode (response : IntroductionResponse) : Bytes :=
  response.destination.encode ++ response.sourceLan.encode ++ response.sourceWan.encode ++
    response.introLan.encode ++ response.introWan.encode ++
    [ConnectionFlags.encode ⟨response.connection, false, response.tunnel⟩] ++
    Bytes.ofNatBE 2 response.identifier.toNat ++ response.extra

def decode (bytes : Bytes) : Except PacketError (IntroductionResponse × Bytes) := do
  let cursor := Cursor.start bytes
  let (destination, cursor) ← cursor.address
  let (sourceLan, cursor) ← cursor.address
  let (sourceWan, cursor) ← cursor.address
  let (introLan, cursor) ← cursor.address
  let (introWan, cursor) ← cursor.address
  let (byte, cursor) ← cursor.uint8
  let (identifier, cursor) ← cursor.uint16
  let flags := ConnectionFlags.decode byte
  return (⟨destination, sourceLan, sourceWan, introLan, introWan, flags.connection,
    flags.tunnel, identifier, cursor.rest⟩, [])

def format : Format IntroductionResponse := ⟨encode, decode⟩

end IntroductionResponse

/-- A LAN address, a WAN address and an identifier: of the walker in a puncture
request, of the sender in a puncture. -/
@[ext]
structure Puncture where
  lan : Address
  wan : Address
  identifier : UInt16
deriving DecidableEq

namespace Puncture

def encode (puncture : Puncture) : Bytes :=
  puncture.lan.encode ++ puncture.wan.encode ++ Bytes.ofNatBE 2 puncture.identifier.toNat

def decode (bytes : Bytes) : Except PacketError (Puncture × Bytes) := do
  let cursor := Cursor.start bytes
  let (lan, cursor) ← cursor.address
  let (wan, cursor) ← cursor.address
  let (identifier, cursor) ← cursor.uint16
  return (⟨lan, wan, identifier⟩, cursor.rest)

def format : Format Puncture := ⟨encode, decode⟩

end Puncture

end PeerDiscovery
