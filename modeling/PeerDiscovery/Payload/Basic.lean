import PeerDiscovery.Payload.Introduction

/-!
# Payloads

What a packet may carry behind its global time, and the formats by kind.
-/

namespace PeerDiscovery

inductive PayloadKind where
  | key
  | time
  | request
  | response
  | punctureRequest
  | puncture
  | raw
deriving DecidableEq

def PayloadKind.name : PayloadKind → String
  | key => "auth"
  | time => "time"
  | request => "request"
  | response => "response"
  | punctureRequest => "puncture_request"
  | puncture => "puncture"
  | raw => "raw"

def PayloadKind.ofName? (name : String) : Option PayloadKind :=
  [key, time, request, response, punctureRequest, puncture, raw].find? (·.name == name)

inductive Payload where
  | key (key : Bytes)
  | time (time : UInt64)
  | request (request : IntroductionRequest)
  | response (response : IntroductionResponse)
  | punctureRequest (walker : Puncture)
  | puncture (sender : Puncture)
  | raw (bytes : Bytes)
deriving DecidableEq

namespace Payload

def encode : Payload → Bytes
  | key bytes => KeyField.encode bytes
  | time value => GlobalTime.encode value
  | request value => value.encode
  | response value => value.encode
  | punctureRequest value => value.encode
  | puncture value => value.encode
  | raw bytes => bytes

def decode (kind : PayloadKind) (bytes : Bytes) : Except PacketError (Payload × Bytes) :=
  match kind with
  | .key => (KeyField.decode bytes).map fun (value, rest) => (key value, rest)
  | .time => (GlobalTime.decode bytes).map fun (value, rest) => (time value, rest)
  | .request => (IntroductionRequest.decode bytes).map fun (value, rest) => (request value, rest)
  | .response =>
    (IntroductionResponse.decode bytes).map fun (value, rest) => (response value, rest)
  | .punctureRequest => (Puncture.decode bytes).map fun (value, rest) => (punctureRequest value, rest)
  | .puncture => (Puncture.decode bytes).map fun (value, rest) => (puncture value, rest)
  | .raw => .ok (raw bytes, [])

end Payload

namespace PayloadKind

def format (kind : PayloadKind) : Format Payload := ⟨Payload.encode, Payload.decode kind⟩

end PayloadKind

end PeerDiscovery
