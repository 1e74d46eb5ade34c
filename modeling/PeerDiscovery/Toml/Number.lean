import PeerDiscovery.Text.Scan
import PeerDiscovery.Toml.Value

/-!
# Numbers, dates and times of TOML

Digits may be set apart by single underscores.  An integer is decimal, without
superfluous zeros, or follows `0x`, `0o` or `0b`, and has 64 bits with sign; a
float has a fraction or an exponent, or is infinite or no number.  Dates and
times are checked against the calendar and kept as they are written.
-/

namespace PeerDiscovery

namespace Toml

/-- More digits, with an underscore in front of any of them. -/
def moreDigits (radix : Nat) : List Char → List Char × List Char
  | [] => ([], [])
  | '_' :: char :: rest =>
    if Scan.isDigit radix char then
      let (digits, rest) := moreDigits radix rest
      (char :: digits, rest)
    else ([], '_' :: char :: rest)
  | char :: rest =>
    if Scan.isDigit radix char then
      let (digits, rest) := moreDigits radix rest
      (char :: digits, rest)
    else ([], char :: rest)

def scanDigits (radix : Nat) : Scan (List Char)
  | char :: rest =>
    if Scan.isDigit radix char then
      let (digits, rest) := moreDigits radix rest
      some (char :: digits, rest)
    else none
  | [] => none

def scanWhole : Scan (List Char)
  | '0' :: rest => some (['0'], rest)
  | chars => scanDigits 10 chars

def integer? (negative : Bool) (magnitude : Nat) : Option Value :=
  let number : Int := if negative then -magnitude else magnitude
  if Int64.minValue.toInt ≤ number && number ≤ Int64.maxValue.toInt then some (.integer number) else none

def scanPrefixed (radix : Nat) : Scan Value := fun chars => do
  let (digits, rest) ← scanDigits radix chars
  let value ← integer? false (Scan.digitsToNat radix digits)
  return (value, rest)

def scanExponent : Scan Int := fun chars => do
  let (negative, chars) := Binary64.splitSign chars
  let (digits, rest) ← scanDigits 10 chars
  let value : Int := Scan.digitsToNat 10 digits
  return (if negative then -value else value, rest)

/-- A float from its digits.  One that is too large is refused. -/
def float? (negative : Bool) (whole fraction : List Char) (exponent : Int) : Option Value :=
  let units := Scan.digitsToNat 10 (whole ++ fraction)
  match Binary64.ofDecimal negative ⟨units, exponent - fraction.length⟩ with
  | .infinite false => none
  | number => some (.float number)

def scanFloat (negative : Bool) (whole : List Char) : Scan Value := fun chars => do
  let (fraction, chars) ← match chars with
    | '.' :: rest => scanDigits 10 rest
    | _ => some ([], chars)
  let (exponent, chars) ← match chars with
    | 'e' :: rest => scanExponent rest
    | 'E' :: rest => scanExponent rest
    | _ => some (0, chars)
  let value ← float? negative whole fraction exponent
  return (value, chars)

def scanNumber : Scan Value
  | '0' :: 'x' :: rest => scanPrefixed 16 rest
  | '0' :: 'o' :: rest => scanPrefixed 8 rest
  | '0' :: 'b' :: rest => scanPrefixed 2 rest
  | chars =>
    let (negative, chars) := Binary64.splitSign chars
    match chars with
    | 'i' :: 'n' :: 'f' :: rest => some (.float (.infinite negative), rest)
    | 'n' :: 'a' :: 'n' :: rest => some (.float .nan, rest)
    | _ => do
      let (whole, rest) ← scanWhole chars
      match rest with
      | '.' :: _ | 'e' :: _ | 'E' :: _ => scanFloat negative whole rest
      | _ =>
        let value ← integer? negative (Scan.digitsToNat 10 whole)
        return (value, rest)

def scanFixed (width low high : Nat) : Scan Nat := fun chars =>
  let digits := chars.take width
  let value := Scan.digitsToNat 10 digits
  if digits.length = width && digits.all (Scan.isDigit 10) && low ≤ value && value ≤ high then
    some (value, chars.drop width)
  else none

def daysIn (year month : Nat) : Nat :=
  if month = 2 then
    if year % 4 = 0 && (year % 100 ≠ 0 || year % 400 = 0) then 29 else 28
  else if month = 4 || month = 6 || month = 9 || month = 11 then 30
  else 31

def skipDate (chars : List Char) : Option (List Char) := do
  let (year, chars) ← scanFixed 4 0 9999 chars
  let (_, chars) ← Scan.char '-' chars
  let (month, chars) ← scanFixed 2 1 12 chars
  let (_, chars) ← Scan.char '-' chars
  let (_, chars) ← scanFixed 2 1 (daysIn year month) chars
  return chars

def skipTime (chars : List Char) : Option (List Char) := do
  let (_, chars) ← scanFixed 2 0 23 chars
  let (_, chars) ← Scan.char ':' chars
  let (_, chars) ← scanFixed 2 0 59 chars
  let (_, chars) ← Scan.char ':' chars
  let (_, chars) ← scanFixed 2 0 60 chars
  match chars with
  | '.' :: rest =>
    if rest.head?.any (Scan.isDigit 10) then some (rest.dropWhile (Scan.isDigit 10)) else none
  | _ => return chars

/-- The distance from universal time, if it is given. -/
def skipOffset : List Char → Option (List Char)
  | 'Z' :: rest => some rest
  | 'z' :: rest => some rest
  | '+' :: rest => distance rest
  | '-' :: rest => distance rest
  | chars => some chars
where
  distance (chars : List Char) : Option (List Char) := do
    let (_, chars) ← scanFixed 2 0 23 chars
    let (_, chars) ← Scan.char ':' chars
    let (_, chars) ← scanFixed 2 0 59 chars
    return chars

/-- Whether a text starts with so many digits and then some character. -/
def startsNumbered (count : Nat) (mark : Char) (chars : List Char) : Bool :=
  (chars.take count).all (Scan.isDigit 10) && chars[count]? = some mark

/-- What follows a date: a time behind `T` or a blank, if there is one. -/
def skipTimeOfDate (chars : List Char) : Option (List Char) :=
  match chars with
  | delimiter :: rest =>
    if (delimiter = 'T' || delimiter = 't' || delimiter = ' ') && startsNumbered 2 ':' rest then
      (skipTime rest).bind skipOffset
    else some chars
  | [] => some []

def scanTime : Scan Value := fun chars => do
  let rest ← if startsNumbered 4 '-' chars then (skipDate chars).bind skipTimeOfDate
    else skipTime chars
  return (.time (String.ofList (chars.take (chars.length - rest.length))), rest)

def scanNumeric : Scan Value := fun chars =>
  if startsNumbered 4 '-' chars || startsNumbered 2 ':' chars then scanTime chars
  else scanNumber chars

end Toml

end PeerDiscovery
