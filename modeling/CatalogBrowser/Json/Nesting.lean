import CatalogBrowser.Json.Reader
import CatalogBrowser.Json.StringLiteral

/-!
# Lists and objects in a JSON document

What holds values together is read in the same way whatever the values are:
the items of a list and the members of an object, with commas between them
and none behind the last. How deep lists and objects may lie inside each
other is limited.
-/

namespace CatalogBrowser

namespace Json

/-- How many lists and objects may lie inside each other. -/
def depthLimit : Nat := 127

namespace Reader

variable {α β : Type}

/-! ## Lists -/

/-- Whether another item follows. The cursor stands before it then, and
before the closing bracket otherwise. -/
def moreItems (isFirst : Bool) : Reader Bool := do
  match ← peekPastBlanks? with
  | none => failAhead .unclosedList
  | some ']' => pure false
  | some c =>
    if isFirst then pure true
    else if c = ',' then
      advance
      match ← peekPastBlanks? with
      | none => failAhead .missingValue
      | some ']' => failAhead .trailingComma
      | some _ => pure true
    else failAhead .expectedListSeparator

/-- Closes a list. -/
def closeList : Reader Unit := do
  match ← peekPastBlanks? with
  | none => failAhead .unclosedList
  | some ']' => advance
  | some ',' => do
    advance
    match ← peekPastBlanks? with
    | some ']' => failAhead .trailingComma
    | _ => failAhead .trailingCharacters
  | some _ => failAhead .trailingCharacters

/-- The items of a list, at most `fuel` of them. -/
def items (item : Reader α) : Nat → Bool → Reader (List α)
  | 0, _ => pure []
  | fuel + 1, isFirst => do
    if ← moreItems isFirst then
      let a ← item
      let rest ← items item fuel false
      pure (a :: rest)
    else pure []

/-- **Reads a list** behind its opening bracket. -/
def list (item : Reader α) : Reader (List α) := do
  let as ← items item (← bound) true
  closeList
  pure as

/-! ## Objects -/

/-- Whether another member follows. The cursor stands before its key then,
and before the closing brace otherwise. -/
def moreMembers (isFirst : Bool) : Reader Bool := do
  match ← peekPastBlanks? with
  | none => failAhead .unclosedObject
  | some '}' => pure false
  | some c =>
    if isFirst then
      if c = '"' then pure true else failAhead .keyNotString
    else if c = ',' then
      advance
      match ← peekPastBlanks? with
      | none => failAhead .missingValue
      | some '"' => pure true
      | some '}' => failAhead .trailingComma
      | some _ => failAhead .keyNotString
    else failAhead .expectedObjectSeparator

/-- Passes over the colon behind a key. -/
def colon : Reader Unit := do
  match ← peekPastBlanks? with
  | none => failAhead .unclosedObject
  | some ':' => advance
  | some _ => failAhead .expectedColon

/-- Closes an object. -/
def closeObject : Reader Unit := do
  match ← peekPastBlanks? with
  | none => failAhead .unclosedObject
  | some '}' => advance
  | some ',' => failAhead .trailingComma
  | some _ => failAhead .trailingCharacters

/-- The members of an object, at most `fuel` of them, added one by one to
what is known of it. -/
def members (member : String → β → Reader β) : Nat → Bool → β → Reader β
  | 0, _, known => pure known
  | fuel + 1, isFirst, known => do
    if ← moreMembers isFirst then
      let key ← stringLiteral
      let known ← member key known
      members member fuel false known
    else pure known

/-- **Reads the members of an object** behind its opening brace. -/
def object (member : String → β → Reader β) (known : β) : Reader β := do
  members member (← bound) true known

/-! ## Documents -/

/-- **Reads a whole text**, in which nothing but blanks may follow what is
read. -/
def run (read : Reader α) (text : String) : Except Fault α := do
  let (a, c) ← StateT.run read (.ofString text)
  match (c.span isBlank).2 with
  | ⟨[], _⟩ => pure a
  | c => throw ⟨.trailingCharacters, c.ahead⟩

end Reader

end Json

end CatalogBrowser
