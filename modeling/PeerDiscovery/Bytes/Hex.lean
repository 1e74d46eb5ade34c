import PeerDiscovery.Bytes

/-!
# Hexadecimal text

Every byte is written as two lower-case digits; reading accepts both cases and
nothing between the digits.
-/

namespace PeerDiscovery

namespace Hex

def digit (value : Nat) : Char :=
  if value < 10 then Char.ofNat (48 + value) else Char.ofNat (87 + value)

def value? (char : Char) : Option Nat :=
  if '0' ≤ char ∧ char ≤ '9' then some (char.toNat - 48)
  else if 'a' ≤ char ∧ char ≤ 'f' then some (char.toNat - 87)
  else if 'A' ≤ char ∧ char ≤ 'F' then some (char.toNat - 55)
  else none

def digits (bytes : Bytes) : List Char :=
  bytes.flatMap fun byte => [digit (byte.toNat / 16), digit (byte.toNat % 16)]

def ofDigits? : List Char → Option Bytes
  | [] => some []
  | high :: low :: rest => do
    let high ← value? high
    let low ← value? low
    let rest ← ofDigits? rest
    return UInt8.ofNat (16 * high + low) :: rest
  | [_] => none

def encode (bytes : Bytes) : String :=
  String.ofList (digits bytes)

def decode? (text : String) : Option Bytes :=
  ofDigits? text.toList

theorem value?_digit (value : Nat) (below : value < 16) :
    value? (digit value) = some value := by
  have everyDigit : ∀ index : Fin 16, value? (digit index.val) = some index.val := by
    decide
  exact everyDigit ⟨value, below⟩

theorem ofDigits?_digits (bytes : Bytes) : ofDigits? (digits bytes) = some bytes := by
  induction bytes with
  | nil => rfl
  | cons byte rest ih =>
    have byteBound := byte.toNat_lt
    have unfolded : digits (byte :: rest) =
        digit (byte.toNat / 16) :: digit (byte.toNat % 16) :: digits rest := rfl
    have joined : UInt8.ofNat (16 * (byte.toNat / 16) + byte.toNat % 16) = byte := by
      rw [Nat.div_add_mod]
      exact UInt8.ofNat_toNat
    rw [unfolded, ofDigits?, value?_digit _ (by omega), value?_digit _ (by omega), ih]
    exact congrArg (fun written => some (written :: rest)) joined

theorem decode?_encode (bytes : Bytes) : decode? (encode bytes) = some bytes := by
  simp [decode?, encode, ofDigits?_digits]

end Hex

end PeerDiscovery
