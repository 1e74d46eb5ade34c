import PeerDiscovery.Toml.Number
import PeerDiscovery.Toml.Text

/-!
# Reading TOML documents

A document is a row of lines: pairs of a key and a value, headers of tables,
comments, and empty lines.  A value may be an array, which may run over several
lines, or an inline table, which may not.
-/

namespace PeerDiscovery

namespace Toml

def skipSpace (inComment : Bool) : List Char → List Char
  | [] => []
  | '\r' :: '\n' :: rest => skipSpace false rest
  | char :: rest =>
    if char = '\n' then skipSpace false rest
    else if inComment then
      if isPlain char then skipSpace true rest else char :: rest
    else if char = '#' then skipSpace true rest
    else if isBlank char then skipSpace false rest
    else char :: rest

def scanItems (item : Scan Value) : Nat → Scan (List Value)
  | 0, _ => none
  | limit + 1, chars =>
    match skipSpace false chars with
    | ']' :: rest => some ([], rest)
    | chars => do
      let (value, chars) ← item chars
      match skipSpace false chars with
      | ',' :: rest =>
        let (values, rest) ← scanItems item limit rest
        return (value :: values, rest)
      | ']' :: rest => return ([value], rest)
      | _ => none

def scanPair (value : Scan Value) : Scan (List String × Value) := fun chars => do
  let (path, chars) ← scanPath chars
  let (_, chars) ← Scan.char '=' chars
  let (value, chars) ← value (skipBlanks chars)
  return ((path, value), chars)

def scanPairs (value : Scan Value) : Nat → Scan (List (List String × Value))
  | 0, _ => none
  | limit + 1, chars => do
    let (pair, chars) ← scanPair value chars
    match skipBlanks chars with
    | ',' :: rest =>
      let (pairs, rest) ← scanPairs value limit rest
      return (pair :: pairs, rest)
    | '\x7d' :: rest => return ([pair], rest)
    | _ => none

def scanInlineTable (value : Scan Value) : Scan Value := fun chars =>
  match skipBlanks chars with
  | '\x7d' :: rest => some (.table .inline [], rest)
  | chars => do
    let (pairs, rest) ← scanPairs value (chars.length + 1) chars
    let entries ← pairs.foldlM Entries.insertPair []
    return (.table .inline entries, rest)

def scanValue : Nat → Scan Value
  | 0, _ => none
  | depth + 1, chars =>
    match chars with
    | '"' :: _ | '\'' :: _ => (scanString chars).map fun (text, rest) => (.string text, rest)
    | '[' :: rest =>
      if depth = 0 then none
      else (scanItems (scanValue depth) (rest.length + 1) rest).map fun (items, rest) =>
        (.array items, rest)
    | '\x7b' :: rest => if depth = 0 then none else scanInlineTable (scanValue depth) rest
    | 't' :: 'r' :: 'u' :: 'e' :: rest => some (.boolean true, rest)
    | 'f' :: 'a' :: 'l' :: 's' :: 'e' :: rest => some (.boolean false, rest)
    | _ => scanNumeric chars

/-- The end of a line: blanks, a comment, and a line break or the end of the
document. -/
def skipLineEnd (chars : List Char) : Option (List Char) :=
  let chars := skipBlanks chars
  let rest := if chars.head? = some '#' then (chars.drop 1).dropWhile isPlain else chars
  match rest with
  | [] => some []
  | '\n' :: rest => some rest
  | '\r' :: '\n' :: rest => some rest
  | _ => none

inductive Statement where
  | pair (path : List String) (value : Value)
  | header (path : List String) (isRow : Bool)

def scanHeader : Scan Statement
  | '[' :: '[' :: rest => do
    let (path, chars) ← scanPath rest
    let (_, chars) ← Scan.char ']' chars
    let (_, chars) ← Scan.char ']' chars
    return (.header path true, chars)
  | '[' :: rest => do
    let (path, chars) ← scanPath rest
    let (_, chars) ← Scan.char ']' chars
    return (.header path false, chars)
  | _ => none

def scanStatement : Scan Statement := fun chars =>
  if chars.head? = some '[' then scanHeader chars
  else (scanPair (scanValue maxDepth) chars).map fun ((path, value), rest) => (.pair path value, rest)

def readLines : Nat → List Char → Option (List Statement)
  | 0, _ => none
  | limit + 1, chars =>
    match skipBlanks chars with
    | [] => some []
    | chars => do
      if chars.head? = some '#' || chars.head? = some '\n' || chars.head? = some '\r' then
        readLines limit (← skipLineEnd chars)
      else
        let (statement, chars) ← scanStatement chars
        let statements ← readLines limit (← skipLineEnd chars)
        return statement :: statements

namespace Document

def addFront (statement : Statement) (document : Document) : Document :=
  match statement with
  | .pair path value => { document with pairs := (path, value) :: document.pairs }
  | .header path isRow =>
    { pairs := []
      sections := ⟨path, isRow, document.pairs⟩ :: document.sections }

/-- The document that a text spells; a byte order mark in front does not count. -/
def ofText? (text : String) : Option Document :=
  let chars := match text.toList with
    | '\uFEFF' :: rest => rest
    | chars => chars
  (readLines (chars.length + 1) chars).map fun statements =>
    statements.foldr addFront ⟨[], []⟩

end Document

def read? (text : String) : Option Entries :=
  (Document.ofText? text).bind Document.entries?

end Toml

end PeerDiscovery
