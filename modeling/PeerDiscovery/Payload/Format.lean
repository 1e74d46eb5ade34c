import PeerDiscovery.Address.Basic

/-!
# Formats of fields

A payload is a row of fields of fixed width, sometimes followed by whatever is
left.  A `Cursor` walks over a byte string and refuses a field that ends behind
the string, telling where the field would end and how long the string is.  A
`Format` pairs the writing of a value with its reading.

A signed packet names its sender by a serialized public key with its length in
front, and every packet carries the sender's global time.
-/

namespace PeerDiscovery

/-- A place in a byte string. -/
structure Cursor where
  position : Nat
  rest : Bytes

namespace Cursor

def start (bytes : Bytes) : Cursor := ⟨0, bytes⟩

def take (cursor : Cursor) (count : Nat) : Except PacketError (Bytes × Cursor) :=
  if count ≤ cursor.rest.length then
    .ok (cursor.rest.take count, ⟨cursor.position + count, cursor.rest.drop count⟩)
  else .error (.tooShort (cursor.position + count) (cursor.position + cursor.rest.length))

def number (cursor : Cursor) (width : Nat) : Except PacketError (Nat × Cursor) := do
  let (bytes, cursor) ← cursor.take width
  return (Bytes.toNatBE bytes, cursor)

def uint8 (cursor : Cursor) : Except PacketError (UInt8 × Cursor) := do
  let (value, cursor) ← cursor.number 1
  return (.ofNat value, cursor)

def uint16 (cursor : Cursor) : Except PacketError (UInt16 × Cursor) := do
  let (value, cursor) ← cursor.number 2
  return (.ofNat value, cursor)

def uint64 (cursor : Cursor) : Except PacketError (UInt64 × Cursor) := do
  let (value, cursor) ← cursor.number 8
  return (.ofNat value, cursor)

def address (cursor : Cursor) : Except PacketError (Address × Cursor) := do
  let (bytes, cursor) ← cursor.take Address.size
  return ((Address.ofBytes? bytes).getD .empty, cursor)

end Cursor

/-- How values of a type are written, and how one is read from the front of a
byte string, together with the bytes behind it. -/
structure Format (Value : Type) where
  encode : Value → Bytes
  decode : Bytes → Except PacketError (Value × Bytes)

namespace Format

def raw : Format Bytes where
  encode bytes := bytes
  decode bytes := .ok (bytes, [])

end Format

namespace KeyField

/-- The length in two bytes, modulo `2 ^ 16`, and the key. -/
def encode (key : Bytes) : Bytes :=
  Bytes.ofNatBE 2 key.length ++ key

def decode (bytes : Bytes) : Except PacketError (Bytes × Bytes) := do
  let cursor := Cursor.start bytes
  let (length, cursor) ← cursor.uint16
  let (key, cursor) ← cursor.take length.toNat
  return (key, cursor.rest)

end KeyField

namespace GlobalTime

def encode (time : UInt64) : Bytes :=
  Bytes.ofNatBE 8 time.toNat

def decode (bytes : Bytes) : Except PacketError (UInt64 × Bytes) := do
  let (time, cursor) ← (Cursor.start bytes).uint64
  return (time, cursor.rest)

end GlobalTime

end PeerDiscovery
