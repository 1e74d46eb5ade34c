import PeerDiscovery.Toml.Text
import PeerDiscovery.Toml.Value

/-!
# Writing TOML documents

A text with quotes or backslashes is written in single quotes, without escapes,
where that is possible; any other text in double quotes.  A text with a line
break is written on several lines.  An array of several items has a line for
each item.
-/

namespace PeerDiscovery

namespace Toml

def longestQuoteRun (chars : List Char) : Nat :=
  (chars.foldl (fun (longest, current) char =>
    let current := if char = '\'' then current + 1 else 0
    (max longest current, current)) (0, 0)).1

/-- Whether a text has something to escape, but can do without escapes. -/
def prefersLiteral (chars : List Char) : Bool :=
  (chars.contains '"' || chars.contains '\\') &&
    chars.all (fun char => isPlain char || char = '\n') &&
    longestQuoteRun chars < 3 && chars.getLast? ≠ some '\''

def escape (severalLines : Bool) (char : Char) : String :=
  if char = '\x08' then "\\b"
  else if char = '\t' then "\\t"
  else if char = '\n' then if severalLines then "\n" else "\\n"
  else if char = '\x0c' then "\\f"
  else if char = '\r' then "\\r"
  else if char = '"' then "\\\""
  else if char = '\\' then "\\\\"
  else if char < ' ' || char = '\x7f' then
    "\\u" ++ String.ofList (((Nat.toDigits 16 (0x10000 + char.toNat)).drop 1).map Char.toUpper)
  else String.singleton char

def quoted (text : String) : String :=
  let chars := text.toList
  let severalLines := chars.contains '\n'
  if prefersLiteral chars then
    let quote := if severalLines || chars.contains '\'' then "'''" else "'"
    quote ++ (if severalLines then "\n" else "") ++ text ++ quote
  else
    let quote := if severalLines then "\"\"\"" else "\""
    quote ++ (if severalLines then "\n" else "") ++
      String.join (chars.map (escape severalLines)) ++ quote

/-- A float, which shows that it is none but a float. -/
def floatText (number : Binary64) : String :=
  match number with
  | .nan => "nan"
  | .infinite _ => number.text
  | .finite .. => if number.isWhole then number.text ++ ".0" else number.text

def arrayText (items : List String) : String :=
  if items.length ≤ 1 then "[" ++ String.join items ++ "]"
  else "[" ++ String.join (items.map fun item => "\n    " ++ item ++ ",") ++ "\n]"

def keyText (key : String) : String :=
  if key.toList.all isBare && !key.isEmpty then key else quoted key

def pathText (path : List String) : String := ".".intercalate (path.map keyText)

def tableText (entries : List String) : String :=
  if entries.isEmpty then "\x7b\x7d" else "\x7b " ++ ", ".intercalate entries ++ " \x7d"

mutual

def Value.text : Value → String
  | .string text => quoted text
  | .integer number => toString number
  | .float number => floatText number
  | .boolean value => if value then "true" else "false"
  | .time text => text
  | .array items => arrayText (itemTexts items)
  | .table _ entries => tableText (entryTexts entries)
  | .rows tables => arrayText (rowTexts tables)

def itemTexts : List Value → List String
  | [] => []
  | item :: rest => item.text :: itemTexts rest

def entryText : String × Value → String
  | (key, value) => keyText key ++ " = " ++ value.text

def entryTexts : List (String × Value) → List String
  | [] => []
  | entry :: rest => entryText entry :: entryTexts rest

def rowTexts : List (List (String × Value)) → List String
  | [] => []
  | entries :: rest => tableText (entryTexts entries) :: rowTexts rest

end

def pairsText (pairs : List (List String × Value)) : String :=
  String.join (pairs.map fun (path, value) => pathText path ++ " = " ++ value.text ++ "\n")

namespace Section

def text (body : Section) : String :=
  let path := pathText body.path
  (if body.isRow then "[[" ++ path ++ "]]\n" else "[" ++ path ++ "]\n") ++ pairsText body.pairs

end Section

namespace Document

def text (document : Document) : String :=
  let parts := document.sections.map Section.text
  let top := if document.pairs.isEmpty then [] else [pairsText document.pairs]
  "\n".intercalate (top ++ parts)

end Document

end Toml

end PeerDiscovery
