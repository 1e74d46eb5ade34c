import PeerDiscovery.Bytes

/-!
# Words of byte strings

Hashes and ciphers work on words of 32 or 64 bits, read from byte strings in
pieces of four or eight bytes, in either byte order.
-/

namespace PeerDiscovery

namespace Words

def ofBytesBE32 (bytes : Bytes) : List UInt32 :=
  (bytes.pieces 4).map fun piece => .ofNat (Bytes.toNatBE piece)

def ofBytesLE32 (bytes : Bytes) : List UInt32 :=
  (bytes.pieces 4).map fun piece => .ofNat (Bytes.toNatLE piece)

def ofBytesBE64 (bytes : Bytes) : List UInt64 :=
  (bytes.pieces 8).map fun piece => .ofNat (Bytes.toNatBE piece)

def toBytesBE32 (words : List UInt32) : Bytes :=
  words.flatMap fun word => Bytes.ofNatBE 4 word.toNat

def toBytesLE32 (words : List UInt32) : Bytes :=
  words.flatMap fun word => Bytes.ofNatLE 4 word.toNat

def toBytesBE64 (words : List UInt64) : Bytes :=
  words.flatMap fun word => Bytes.ofNatBE 8 word.toNat

def rotateLeft32 (word count : UInt32) : UInt32 :=
  (word <<< count) ||| (word >>> (32 - count))

def rotateRight64 (word count : UInt64) : UInt64 :=
  (word >>> count) ||| (word <<< (64 - count))

@[simp]
theorem length_toBytesLE32 (words : List UInt32) :
    (toBytesLE32 words).length = 4 * words.length := by
  induction words with
  | nil => rfl
  | cons word rest ih =>
    have unfolded : toBytesLE32 (word :: rest) =
        Bytes.ofNatLE 4 word.toNat ++ toBytesLE32 rest := rfl
    rw [unfolded, List.length_append, Bytes.length_ofNatLE, ih, List.length_cons]
    omega

@[simp]
theorem length_toBytesBE32 (words : List UInt32) :
    (toBytesBE32 words).length = 4 * words.length := by
  induction words with
  | nil => rfl
  | cons word rest ih =>
    have unfolded : toBytesBE32 (word :: rest) =
        Bytes.ofNatBE 4 word.toNat ++ toBytesBE32 rest := rfl
    rw [unfolded, List.length_append, Bytes.length_ofNatBE, ih, List.length_cons]
    omega

@[simp]
theorem length_toBytesBE64 (words : List UInt64) :
    (toBytesBE64 words).length = 8 * words.length := by
  induction words with
  | nil => rfl
  | cons word rest ih =>
    have unfolded : toBytesBE64 (word :: rest) =
        Bytes.ofNatBE 8 word.toNat ++ toBytesBE64 rest := rfl
    rw [unfolded, List.length_append, Bytes.length_ofNatBE, ih, List.length_cons]
    omega

end Words

end PeerDiscovery
