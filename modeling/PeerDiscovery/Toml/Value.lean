import PeerDiscovery.Decimal.Shortest

/-!
# TOML values and tables

A table keeps its entries in order and remembers how it came to be, since that
decides whether later lines may add to it: an inline table is complete; a table
with a header of its own has one body; a table that only the headers of its
subtables name may still get a header; and a table that dotted keys made grows
by dotted keys of the same body only.
-/

namespace PeerDiscovery

namespace Toml

/-- How a table came to be. -/
inductive TableOrigin where
  | inline
  /-- Opened by a header, or the whole document. -/
  | header
  /-- Named by the header of a subtable. -/
  | implied
  | dotted
deriving DecidableEq

/-- A value, or a table with its entries. -/
inductive Value where
  | string (text : String)
  | integer (number : Int)
  | float (number : Binary64)
  | boolean (value : Bool)
  /-- A date, a time or both, as it is written. -/
  | time (text : String)
  | array (items : List Value)
  | table (origin : TableOrigin) (entries : List (String × Value))
  /-- Tables that double-bracketed headers opened one after the other. -/
  | rows (tables : List (List (String × Value)))

abbrev Entries := List (String × Value)

namespace Entries

/-- The entries with the value of a key made from its present one. -/
def alter (key : String) (make : Option Value → Option Value) : Entries → Option Entries
  | [] => (make none).map fun value => [(key, value)]
  | (found, value) :: rest =>
    if found = key then (make (some value)).map fun value => (found, value) :: rest
    else (alter key make rest).map fun rest => (found, value) :: rest

/-- The entries with something done to the table at a path.  Missing tables on
the way are made; an array of tables stands for its last one. -/
def within (byDottedKey : Bool) (edit : TableOrigin → Entries → Option Entries) :
    List String → TableOrigin → Entries → Option Entries
  | [], origin, entries => edit origin entries
  | key :: path, _, entries =>
    entries.alter key fun
      | none =>
        let origin := if byDottedKey then TableOrigin.dotted else .implied
        (within byDottedKey edit path origin []).map (.table origin)
      | some (.table origin inner) =>
        if origin = .inline || (byDottedKey && origin = .header) then none
        else (within byDottedKey edit path origin inner).map (.table origin)
      | some (.rows tables) => do
        let last ← tables.getLast?
        let changed ← within byDottedKey edit path .header last
        return .rows (tables.dropLast ++ [changed])
      | some _ => none

def insertNew (entries : Entries) (key : String) (value : Value) : Option Entries :=
  if (entries.lookup key).isSome then none else some (entries ++ [(key, value)])

def insertPair (entries : Entries) (pair : List String × Value) : Option Entries := do
  let key ← pair.1.getLast?
  let path := pair.1.dropLast
  within true (fun origin entries =>
    if (origin = .dotted) = (path = []) then none else entries.insertNew key pair.2)
    path .header entries

end Entries

/-- The body of a table: the path of its header and the pairs of keys and values
below it. -/
structure Section where
  path : List String
  /-- The header stands in double brackets: the table is one more row. -/
  isRow : Bool
  pairs : List (List String × Value)

namespace Section

def initial (isRow : Bool) (found : Option Value) : Option Entries :=
  match found with
  | none => some []
  | some (.table .implied entries) => if isRow then none else some entries
  | some (.rows _) => if isRow then some [] else none
  | some _ => none

def earlierRows : Option Value → List Entries
  | some (.rows tables) => tables
  | _ => []

def addTo (document : Entries) (body : Section) : Option Entries := do
  let key ← body.path.getLast?
  Entries.within false (fun _ entries => entries.alter key fun found => do
    let start ← initial body.isRow found
    let entries ← body.pairs.foldlM Entries.insertPair start
    return if body.isRow then .rows (earlierRows found ++ [entries]) else .table .header entries)
    body.path.dropLast .header document

end Section

/-- A document as it is written: pairs before the first header, then sections. -/
structure Document where
  pairs : List (List String × Value)
  sections : List Section

namespace Document

/-- The table that a document describes, unless it describes something twice. -/
def entries? (document : Document) : Option Entries := do
  let top ← document.pairs.foldlM Entries.insertPair []
  document.sections.foldlM Section.addTo top

end Document

namespace Value

def toString? : Value → Option String
  | string text => some text
  | _ => none

def toInt? : Value → Option Int
  | integer number => some number
  | _ => none

def toNat? : Value → Option Nat
  | integer (.ofNat number) => some number
  | _ => none

def toFloat? : Value → Option Binary64
  | float number => some number
  | integer number => some (.ofDecimal (number < 0) ⟨number.natAbs, 0⟩)
  | _ => none

def toBool? : Value → Option Bool
  | boolean value => some value
  | _ => none

def toList? : Value → Option (List Value)
  | array items => some items
  | rows tables => some (tables.map (table .header))
  | _ => none

/-- The values of named fields: of a table by their names, of an array by their
places.  A time has fields of other names only. -/
def fields? (value : Value) (names : List String) : Option (List (Option Value)) :=
  match value with
  | table _ entries => some (names.map fun name => entries.lookup name)
  | time _ => some (names.map fun _ => none)
  | other => other.toList?.map fun items => names.mapIdx fun index _ => items[index]?

def orDefault {Field : Type} (default : Field) (read : Value → Option Field) :
    Option Value → Option Field
  | some value => read value
  | none => some default

end Value

end Toml

end PeerDiscovery
