import PeerDiscovery.Text.Scan

/-!
# Strings and keys of TOML

A string stands in double quotes, with escapes, or in single quotes, without
any; in three of them it may run over several lines.  A key is a bare word or a
string on one line, and may be a path with dots between keys.
-/

namespace PeerDiscovery

namespace Toml

def isPlain (char : Char) : Bool :=
  char = '\t' || (' ' ≤ char && char ≠ '\x7f')

def isBlank (char : Char) : Bool := char = ' ' || char = '\t'

def skipBlanks (chars : List Char) : List Char := chars.dropWhile isBlank

def codePoint? (digits : List Char) : Option Char :=
  if digits.all (Scan.isDigit 16) then
    let code := Scan.digitsToNat 16 digits
    if code.isValidChar then some (Char.ofNat code) else none
  else none

def escaped? : Char → Option Char
  | 'b' => some '\x08'
  | 't' => some '\t'
  | 'n' => some '\n'
  | 'f' => some '\x0c'
  | 'r' => some '\r'
  | '"' => some '"'
  | '\\' => some '\\'
  | _ => none

def prepend (char : Char) (scanned : Option (List Char × List Char)) :
    Option (List Char × List Char) :=
  scanned.map fun (text, rest) => (char :: text, rest)

/-- The rest of a string in double quotes. -/
def basicRest : List Char → Option (List Char × List Char)
  | [] => none
  | '"' :: rest => some ([], rest)
  | '\\' :: 'u' :: a :: b :: c :: d :: rest =>
    (codePoint? [a, b, c, d]).bind fun char => prepend char (basicRest rest)
  | '\\' :: 'U' :: a :: b :: c :: d :: e :: f :: g :: h :: rest =>
    (codePoint? [a, b, c, d, e, f, g, h]).bind fun char => prepend char (basicRest rest)
  | '\\' :: letter :: rest => (escaped? letter).bind fun char => prepend char (basicRest rest)
  | char :: rest => if isPlain char && char ≠ '\\' then prepend char (basicRest rest) else none

def literalRest (chars : List Char) : Option (List Char × List Char) :=
  let (text, rest) := chars.span fun char => isPlain char && char ≠ '\''
  match rest with
  | '\'' :: rest => some (text, rest)
  | _ => none

/-- Where a string on several lines is being read. -/
inductive LineState where
  | text
  /-- Behind a backslash that is to be followed by a line break. -/
  | beforeBreak
  /-- Behind such a line break, where blanks and line breaks do not count. -/
  | afterBreak
deriving DecidableEq

/-- What is left after three closing quotes: up to two more belong to the text. -/
def closing (quote : Char) : List Char → List Char × List Char
  | first :: second :: rest =>
    if first = quote && second = quote then ([quote, quote], rest)
    else if first = quote then ([quote], second :: rest)
    else ([], first :: second :: rest)
  | [only] => if only = quote then ([quote], []) else ([], [only])
  | [] => ([], [])

/-- The rest of a string in three double quotes. -/
def basicLines : LineState → List Char → Option (List Char × List Char)
  | _, [] => none
  | .text, '"' :: '"' :: '"' :: rest => some (closing '"' rest)
  | .text, '\\' :: 'u' :: a :: b :: c :: d :: rest =>
    (codePoint? [a, b, c, d]).bind fun char => prepend char (basicLines .text rest)
  | .text, '\\' :: 'U' :: a :: b :: c :: d :: e :: f :: g :: h :: rest =>
    (codePoint? [a, b, c, d, e, f, g, h]).bind fun char => prepend char (basicLines .text rest)
  | .text, '\\' :: char :: rest =>
    if isBlank char then basicLines .beforeBreak rest
    else if char = '\n' then basicLines .afterBreak rest
    else if char = '\r' && rest.head? = some '\n' then basicLines .beforeBreak rest
    else (escaped? char).bind fun char => prepend char (basicLines .text rest)
  | .text, '\r' :: '\n' :: rest => prepend '\n' (basicLines .text rest)
  | .text, char :: rest =>
    if (isPlain char && char ≠ '\\') || char = '\n' then prepend char (basicLines .text rest)
    else none
  | .beforeBreak, char :: rest =>
    if char = '\n' then basicLines .afterBreak rest
    else if isBlank char || (char = '\r' && rest.head? = some '\n') then
      basicLines .beforeBreak rest
    else none
  | .afterBreak, '"' :: '"' :: '"' :: rest => some (closing '"' rest)
  | .afterBreak, '\\' :: 'u' :: a :: b :: c :: d :: rest =>
    (codePoint? [a, b, c, d]).bind fun char => prepend char (basicLines .text rest)
  | .afterBreak, '\\' :: 'U' :: a :: b :: c :: d :: e :: f :: g :: h :: rest =>
    (codePoint? [a, b, c, d, e, f, g, h]).bind fun char => prepend char (basicLines .text rest)
  | .afterBreak, '\\' :: char :: rest =>
    if isBlank char then basicLines .beforeBreak rest
    else if char = '\n' then basicLines .afterBreak rest
    else if char = '\r' && rest.head? = some '\n' then basicLines .beforeBreak rest
    else (escaped? char).bind fun char => prepend char (basicLines .text rest)
  | .afterBreak, char :: rest =>
    if isBlank char || char = '\n' || (char = '\r' && rest.head? = some '\n') then
      basicLines .afterBreak rest
    else if isPlain char && char ≠ '\\' then prepend char (basicLines .text rest)
    else none

def literalLines : List Char → Option (List Char × List Char)
  | [] => none
  | '\'' :: '\'' :: '\'' :: rest => some (closing '\'' rest)
  | '\r' :: '\n' :: rest => prepend '\n' (literalLines rest)
  | char :: rest =>
    if isPlain char || char = '\n' then prepend char (literalLines rest) else none

/-- Without the line break that follows three opening quotes. -/
def skipFirstBreak : List Char → List Char
  | '\n' :: rest => rest
  | '\r' :: '\n' :: rest => rest
  | chars => chars

def scanLine : Scan String
  | '"' :: rest => (basicRest rest).map fun (text, rest) => (String.ofList text, rest)
  | '\'' :: rest => (literalRest rest).map fun (text, rest) => (String.ofList text, rest)
  | _ => none

def scanString : Scan String
  | '"' :: '"' :: '"' :: rest =>
    (basicLines .text (skipFirstBreak rest)).map fun (text, rest) => (String.ofList text, rest)
  | '\'' :: '\'' :: '\'' :: rest =>
    (literalLines (skipFirstBreak rest)).map fun (text, rest) => (String.ofList text, rest)
  | chars => scanLine chars

def isBare (char : Char) : Bool :=
  char.isAlphanum || char = '_' || char = '-'

def scanKey : Scan String := fun chars =>
  match chars with
  | '"' :: _ | '\'' :: _ => scanLine chars
  | _ =>
    let (word, rest) := chars.span isBare
    if word.isEmpty then none else some (String.ofList word, rest)

/-- Keys with dots between them, with the blanks around them; at most `limit`. -/
def scanKeys : Nat → Scan (List String)
  | 0, _ => none
  | limit + 1, chars => do
    let (key, chars) ← scanKey (skipBlanks chars)
    match skipBlanks chars with
    | '.' :: rest =>
      let (keys, rest) ← scanKeys limit rest
      return (key :: keys, rest)
    | rest => return ([key], rest)

/-- How deep tables and arrays may be nested. -/
def maxDepth : Nat := 80

def scanPath : Scan (List String) := scanKeys (maxDepth - 1)

end Toml

end PeerDiscovery
