import PeerDiscovery.Bytes.Words

/-!
# Rows of four words

The ciphers and hashes that mix a square of four times four words treat its
columns alike, so a row of four words is worked on as a whole.  Turning the
rows brings the diagonals into the columns.
-/

namespace PeerDiscovery

@[ext]
structure Row where
  w0 : UInt32
  w1 : UInt32
  w2 : UInt32
  w3 : UInt32
deriving DecidableEq

namespace Row

def ofList (words : List UInt32) (start : Nat) : Row :=
  let word (index : Nat) := words.getD (start + index) 0
  ⟨word 0, word 1, word 2, word 3⟩

def toList (row : Row) : List UInt32 :=
  [row.w0, row.w1, row.w2, row.w3]

def add (left right : Row) : Row :=
  ⟨left.w0 + right.w0, left.w1 + right.w1, left.w2 + right.w2, left.w3 + right.w3⟩

def xor (left right : Row) : Row :=
  ⟨left.w0 ^^^ right.w0, left.w1 ^^^ right.w1, left.w2 ^^^ right.w2, left.w3 ^^^ right.w3⟩

def rotateLeft (row : Row) (count : UInt32) : Row :=
  ⟨Words.rotateLeft32 row.w0 count, Words.rotateLeft32 row.w1 count,
    Words.rotateLeft32 row.w2 count, Words.rotateLeft32 row.w3 count⟩

def turn (row : Row) : Row :=
  ⟨row.w1, row.w2, row.w3, row.w0⟩

instance : Add Row := ⟨add⟩

@[simp]
theorem length_toList (row : Row) : row.toList.length = 4 := rfl

end Row

@[ext]
structure Square where
  a : Row
  b : Row
  c : Row
  d : Row
deriving DecidableEq

namespace Square

def toList (square : Square) : List UInt32 :=
  square.a.toList ++ square.b.toList ++ square.c.toList ++ square.d.toList

def add (left right : Square) : Square :=
  ⟨left.a + right.a, left.b + right.b, left.c + right.c, left.d + right.d⟩

def diagonals (square : Square) : Square :=
  { square with
    b := square.b.turn
    c := square.c.turn.turn
    d := square.d.turn.turn.turn }

def columns (square : Square) : Square :=
  { square with
    b := square.b.turn.turn.turn
    c := square.c.turn.turn
    d := square.d.turn }

@[simp]
theorem length_toList (square : Square) : square.toList.length = 16 := rfl

end Square

end PeerDiscovery
