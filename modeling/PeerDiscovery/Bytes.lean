/-!
# Byte strings

Byte strings are lists of bytes.  Numbers are written into them with a fixed
width, most significant byte first on the wire (`ofNatBE`) and least
significant byte first inside the cryptography (`ofNatLE`).  A `Block n` is a
byte string whose length is known to be `n`: identifiers, keys and signatures
are blocks.
-/

namespace PeerDiscovery

abbrev Bytes := List UInt8

namespace Bytes

/-- The number a byte string spells with its least significant byte first. -/
def toNatLE : Bytes → Nat
  | [] => 0
  | byte :: rest => byte.toNat + 256 * toNatLE rest

/-- The lowest `width` bytes of a number, least significant first. -/
def ofNatLE : Nat → Nat → Bytes
  | 0, _ => []
  | width + 1, value => UInt8.ofNat value :: ofNatLE width (value / 256)

/-- The numbers that fit into so many bytes are below this one. -/
def bound (width : Nat) : Nat := Nat.pow 256 width

/-- The number a byte string spells with its most significant byte first. -/
def toNatBE (bytes : Bytes) : Nat :=
  bytes.foldl (fun value byte => value * 256 + byte.toNat) 0

def ofNatBE (width value : Nat) : Bytes :=
  (ofNatLE width value).reverse

/-- Byte-wise exclusive or, as long as the shorter string. -/
def xor (left right : Bytes) : Bytes :=
  List.zipWith (· ^^^ ·) left right

/-- The bytes of a text that holds ASCII characters only. -/
def ofAscii (text : String) : Bytes :=
  text.toList.map fun char => UInt8.ofNat char.toNat

def filled (count : Nat) (byte : UInt8) : Bytes :=
  List.replicate count byte

/-- The first `count` pieces of `size` bytes of a string; the last one may be
shorter. -/
def piecesUpTo (size : Nat) : Nat → Bytes → List Bytes
  | _, [] => []
  | 0, _ => []
  | count + 1, bytes =>
    bytes.take size :: piecesUpTo size count (bytes.drop size)

/-- The string cut into pieces of `size` bytes; the last one may be shorter. -/
def pieces (size : Nat) (bytes : Bytes) : List Bytes :=
  piecesUpTo size (bytes.length / size + 1) bytes

theorem bound_zero : bound 0 = 1 := rfl

theorem bound_succ (width : Nat) : bound (width + 1) = bound width * 256 := rfl

@[simp]
theorem length_ofNatLE (width value : Nat) :
    (ofNatLE width value).length = width := by
  induction width generalizing value with
  | zero => rfl
  | succ width ih => simp [ofNatLE, ih]

@[simp]
theorem length_ofNatBE (width value : Nat) :
    (ofNatBE width value).length = width := by
  simp [ofNatBE]

/-- Reading back a written number gives it modulo its width. -/
theorem toNatLE_ofNatLE (width value : Nat) :
    toNatLE (ofNatLE width value) = value % bound width := by
  induction width generalizing value with
  | zero => simp [ofNatLE, toNatLE, bound_zero, Nat.mod_one]
  | succ width ih =>
    have lowByte : (UInt8.ofNat value).toNat = value % 256 := by
      simp
    rw [ofNatLE, toNatLE, ih, lowByte, bound_succ, Nat.mul_comm (bound width),
      Nat.mod_mul]

theorem toNatBE_eq_toNatLE_reverse (bytes : Bytes) :
    toNatBE bytes = toNatLE bytes.reverse := by
  have fromRight : ∀ reversed : Bytes,
      reversed.foldr (fun byte value => value * 256 + byte.toNat) 0 =
        toNatLE reversed := by
    intro reversed
    induction reversed with
    | nil => rfl
    | cons byte rest ih => simp only [List.foldr_cons, ih, toNatLE]; omega
  rw [toNatBE, ← fromRight, List.foldr_reverse]

theorem toNatBE_ofNatBE (width value : Nat) :
    toNatBE (ofNatBE width value) = value % bound width := by
  rw [toNatBE_eq_toNatLE_reverse, ofNatBE, List.reverse_reverse, toNatLE_ofNatLE]

/-- A byte string is below the number of strings of its length. -/
theorem toNatLE_lt (bytes : Bytes) : toNatLE bytes < bound bytes.length := by
  induction bytes with
  | nil => simp [toNatLE, bound_zero]
  | cons byte rest ih =>
    have byteBound := byte.toNat_lt
    simp only [toNatLE, List.length_cons, bound_succ]
    omega

/-- A byte string is the written form of the number it spells. -/
theorem ofNatLE_toNatLE (bytes : Bytes) :
    ofNatLE bytes.length (toNatLE bytes) = bytes := by
  induction bytes with
  | nil => rfl
  | cons byte rest ih =>
    have byteBound := byte.toNat_lt
    have quotient : (byte.toNat + 256 * toNatLE rest) / 256 = toNatLE rest := by
      omega
    have lowByte : UInt8.ofNat (byte.toNat + 256 * toNatLE rest) = byte := by
      apply UInt8.toNat_inj.1
      simp only [UInt8.toNat_ofNat']
      omega
    simp only [List.length_cons, ofNatLE, toNatLE, quotient, lowByte, ih]

theorem ofNatBE_toNatBE (bytes : Bytes) :
    ofNatBE bytes.length (toNatBE bytes) = bytes := by
  rw [toNatBE_eq_toNatLE_reverse, ofNatBE]
  have written := ofNatLE_toNatLE bytes.reverse
  rw [List.length_reverse] at written
  rw [written, List.reverse_reverse]

theorem toNatBE_lt (bytes : Bytes) : toNatBE bytes < bound bytes.length := by
  rw [toNatBE_eq_toNatLE_reverse, ← List.length_reverse]
  exact toNatLE_lt bytes.reverse

/-- Exclusive or with the same string twice changes nothing. -/
theorem xor_xor_cancel (text stream : Bytes)
    (covered : text.length ≤ stream.length) :
    xor (xor text stream) stream = text := by
  induction text generalizing stream with
  | nil => simp [xor]
  | cons byte rest ih =>
    cases stream with
    | nil => simp at covered
    | cons mask stream =>
      have tail := ih stream (by simpa using covered)
      simp only [xor, List.zipWith_cons_cons] at tail ⊢
      rw [tail, UInt8.xor_assoc, UInt8.xor_self, UInt8.xor_zero]

@[simp]
theorem length_xor (left right : Bytes) :
    (xor left right).length = min left.length right.length := by
  simp [xor]

end Bytes

/-- A byte string of a known length. -/
@[ext]
structure Block (width : Nat) where
  bytes : Bytes
  length_bytes : bytes.length = width
deriving DecidableEq

namespace Block

def ofBytes? (width : Nat) (bytes : Bytes) : Option (Block width) :=
  if lengthEq : bytes.length = width then some ⟨bytes, lengthEq⟩ else none

/-- The lowest bytes of a number, least significant first. -/
def ofNatLE (width value : Nat) : Block width :=
  ⟨Bytes.ofNatLE width value, Bytes.length_ofNatLE width value⟩

def toNatLE {width : Nat} (block : Block width) : Nat :=
  block.bytes.toNatLE

/-- The number a block spells with its most significant byte first.  It orders
blocks of one width by their bytes. -/
def toNatBE {width : Nat} (block : Block width) : Nat :=
  block.bytes.toNatBE

theorem toNatBE_injective {width : Nat} {left right : Block width}
    (sameNumber : left.toNatBE = right.toNatBE) : left = right := by
  apply Block.ext
  have leftWritten := Bytes.ofNatBE_toNatBE left.bytes
  have rightWritten := Bytes.ofNatBE_toNatBE right.bytes
  rw [left.length_bytes] at leftWritten
  rw [right.length_bytes] at rightWritten
  rw [← leftWritten, ← rightWritten]
  exact congrArg (Bytes.ofNatBE width) sameNumber

/-- `width` bytes of a string from `start` on, padded with zeros. -/
def slice (bytes : Bytes) (start width : Nat) : Block width :=
  let taken := (bytes.drop start).take width
  ⟨taken ++ Bytes.filled (width - taken.length) 0, by
    have short : taken.length ≤ width := List.length_take_le width _
    simp [Bytes.filled]
    omega⟩

/-- A block inside a longer string is found at its place. -/
theorem slice_append {width : Nat} (front : Bytes) (block : Block width) (rest : Bytes) :
    slice (front ++ block.bytes ++ rest) front.length width = block := by
  have taken : (block.bytes ++ rest).take width = block.bytes := by
    have front : (block.bytes ++ rest).take block.bytes.length = block.bytes :=
      List.take_left
    rwa [block.length_bytes] at front
  apply Block.ext
  simp [slice, taken, block.length_bytes, Bytes.filled]

@[simp]
theorem ofBytes?_bytes {width : Nat} (block : Block width) :
    ofBytes? width block.bytes = some block := by
  simp [ofBytes?, block.length_bytes]

theorem ofBytes?_eq_some_iff {width : Nat} {bytes : Bytes}
    {block : Block width} :
    ofBytes? width bytes = some block ↔ bytes = block.bytes := by
  constructor
  · intro read
    unfold ofBytes? at read
    split at read
    · cases read; rfl
    · cases read
  · rintro rfl
    exact ofBytes?_bytes block

end Block

end PeerDiscovery
