import PeerDiscovery.Bytes.Hex

/-!
# Scanning text

A scanner takes a value from the front of a list of characters and gives the
rest, or refuses and takes nothing.
-/

namespace PeerDiscovery

/-- A value from the front of a text together with what follows it. -/
abbrev Scan (Value : Type) := List Char → Option (Value × List Char)

namespace Scan

def char (wanted : Char) : Scan Unit
  | found :: rest => if found = wanted then some ((), rest) else none
  | [] => none

def digitsToNat (radix : Nat) (digits : List Char) : Nat :=
  digits.foldl (fun value digit => value * radix + (Hex.value? digit).getD 0) 0

def isDigit (radix : Nat) (char : Char) : Bool :=
  (Hex.value? char).any (· < radix)

structure NumberForm where
  radix : Nat := 10
  /-- More digits than these are refused. -/
  maxDigits : Option Nat := none
  leadingZeros : Bool := true
  bound : Nat

def number (form : NumberForm) : Scan Nat := fun text =>
  let digits := text.takeWhile (isDigit form.radix)
  let value := digitsToNat form.radix digits
  if digits.isEmpty || form.maxDigits.any (· < digits.length) ||
      (!form.leadingZeros && digits.head? == some '0' && 1 < digits.length) ||
      form.bound ≤ value then none
  else some (value, text.dropWhile (isDigit form.radix))

def whole {Value : Type} (scan : Scan Value) (text : String) : Option Value :=
  match scan text.toList with
  | some (value, []) => some value
  | _ => none

end Scan

end PeerDiscovery
