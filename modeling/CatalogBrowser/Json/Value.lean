import CatalogBrowser.Decimal.Style

/-!
# JSON values

A value as a document gives it: the members of an object keep their order,
and a key may occur more than once. Whole numbers are kept exactly as long
as they fit into 64 bits.
-/

namespace CatalogBrowser

namespace Json

/-- **A number of a document.** -/
inductive Number where
  /-- A whole number that is not negative. -/
  | natural (n : Nat)
  /-- The whole number `-n`, for a positive `n`. -/
  | negative (n : Nat)
  /-- A number with a fraction or an exponent, or too large to be kept whole. -/
  | real (value : Float)
deriving Repr, BEq, Inhabited

end Json

/-- **A JSON value.** -/
inductive Json where
  | null
  | boolean (value : Bool)
  | number (value : Json.Number)
  | string (value : String)
  | list (items : List Json)
  | object (members : List (String × Json))
deriving Repr, BEq, Inhabited

/-! ## Writing

A value is written on one line and without blanks. In strings only quotes,
backslashes and control characters are escaped. -/

namespace Json

/-- The digit of a number below sixteen. -/
def hexLetter (n : Nat) : Char := "0123456789abcdef".toList.getD n '0'

/-- A character as it stands in a string. -/
def escapedChar (c : Char) : List Char :=
  if c = '"' then ['\\', '"']
  else if c = '\\' then ['\\', '\\']
  else if c = '\x08' then ['\\', 'b']
  else if c = '\x0c' then ['\\', 'f']
  else if c = '\n' then ['\\', 'n']
  else if c = '\r' then ['\\', 'r']
  else if c = '\t' then ['\\', 't']
  else if c < ' ' then
    ['\\', 'u', '0', '0', hexLetter (c.toNat / 16), hexLetter (c.toNat % 16)]
  else [c]

/-- A string between quotes. -/
def writeString (text : String) : String :=
  "\"" ++ String.ofList (text.toList.flatMap escapedChar) ++ "\""

/-- A number as it is written. -/
def Number.write : Number → String
  | natural n => toString n
  | negative n => "-" ++ toString n
  | real x => Decimal.compactStyle.write x

mutual

/-- **A value in writing.** -/
def write : Json → String
  | null => "null"
  | boolean b => if b then "true" else "false"
  | number n => n.write
  | string s => writeString s
  | list items => "[" ++ ",".intercalate (writeItems items) ++ "]"
  | object members => "\x7b" ++ ",".intercalate (writeMembers members) ++ "\x7d"

/-- The items of a list in writing. -/
def writeItems : List Json → List String
  | [] => []
  | j :: js => j.write :: writeItems js

/-- The members of an object in writing. -/
def writeMembers : List (String × Json) → List String
  | [] => []
  | (key, j) :: rest => (writeString key ++ ":" ++ j.write) :: writeMembers rest

end

end Json

end CatalogBrowser
