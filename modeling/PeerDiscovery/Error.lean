/-!
# Errors of keys and packets

A `KeyError` is what can go wrong with a key, a signature or a sealed box; a
`PacketError` what can go wrong while one packet is built or read.  Their
wording is in one function each.
-/

namespace PeerDiscovery

/-- What can be wrong with a key, a signature or a sealed box. -/
inductive KeyError where
  | wrongLength (expected actual : Nat)
  | wrongMarker
  /-- The signing half of a public key is no point of the curve, or nothing can
  be agreed with its encryption half. -/
  | invalidPublicKey
  | invalidSignature
  | sealingFailed
  | openingFailed
deriving DecidableEq

namespace KeyError

def message : KeyError → String
  | wrongLength expected actual =>
    "invalid key length: expected " ++ toString expected ++ ", got " ++ toString actual
  | wrongMarker => "invalid key prefix"
  | invalidPublicKey => "invalid public key"
  | invalidSignature => "invalid signature"
  | sealingFailed => "encryption failed"
  | openingFailed => "decryption failed: authentication failure"

end KeyError

/-- What can go wrong while one packet is built or read. -/
inductive PacketError where
  /-- The bytes end before a field does: the field would end at `needed`. -/
  | tooShort (needed actual : Nat)
  | key (cause : KeyError)
  /-- A packet is to be sealed, but for nobody. -/
  | missingRecipient
  | malformed (reason : String)
deriving DecidableEq

namespace PacketError

def message : PacketError → String
  | tooShort needed actual =>
    "packet too short: expected at least " ++ toString needed ++
      " bytes, got " ++ toString actual
  | key cause => "crypto error: " ++ cause.message
  | missingRecipient => "recipient must be provided for encryption"
  | malformed reason => "malformed payload: " ++ reason

end PacketError

end PeerDiscovery
