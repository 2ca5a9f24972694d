import CatalogBrowser.Json.Nesting
import CatalogBrowser.Json.NumberLiteral

/-!
# Reading JSON values

Any value of a document is read by what it begins with. A value that does
not matter is passed over instead: that takes no number too large and no
nesting too deep, and is less particular about commas, but it still has to
be written correctly.
-/

namespace CatalogBrowser

namespace Json

namespace Reader

/-- **Reads a value**, with `depth` levels of nesting to go. -/
def value (depth : Nat) : Reader Json := do
  match ← peekValue with
  | 'n' => do advance; word ['u', 'l', 'l']; pure .null
  | 't' => do advance; word ['r', 'u', 'e']; pure (.boolean true)
  | 'f' => do advance; word ['a', 'l', 's', 'e']; pure (.boolean false)
  | '"' => do pure (.string (← stringLiteral))
  | '[' =>
    match depth with
    | 0 => failAhead .tooDeep
    | depth + 1 => do
      advance
      pure (.list (← list (value depth)))
  | '{' =>
    match depth with
    | 0 => failAhead .tooDeep
    | depth + 1 => do
      advance
      let read ← object (fun key known => do
        colon
        let v ← value depth
        pure ((key, v) :: known)) []
      closeObject
      pure (.object read.reverse)
  | c => if c = '-' || isDigit c then do pure (.number (← number)) else failAhead .expectedValue

/-! ## Passing over values -/

/-- Passes over a key, whose quote must be under the cursor, and the colon
behind it. -/
def skipKey : Reader Unit := do
  match ← peekPastBlanks? with
  | some '"' => do
    skipString
    colon
  | some _ => failAhead .keyNotString
  | none => failAhead .unclosedObject

mutual

/-- Passes over a value, with `fuel` steps to go. -/
def skipValueWith : Nat → Reader Unit
  | 0 => pure ()
  | fuel + 1 => do
    match ← peekValue with
    | 'n' => do advance; word ['u', 'l', 'l']
    | 't' => do advance; word ['r', 'u', 'e']
    | 'f' => do advance; word ['a', 'l', 's', 'e']
    | '"' => skipString
    | '[' => do
      advance
      match ← peekPastBlanks? with
      | some ']' => advance
      | some _ => skipItems fuel
      | none => failAhead .unclosedList
    | '{' => do
      advance
      match ← peekPastBlanks? with
      | some '}' => advance
      | some _ => skipMembers fuel
      | none => failAhead .unclosedObject
    | c => if c = '-' || isDigit c then skipNumber else failAhead .expectedValue

/-- Passes over an item of a list and what follows it. -/
def skipItems : Nat → Reader Unit
  | 0 => pure ()
  | fuel + 1 => do
    skipValueWith fuel
    match ← peekPastBlanks? with
    | some ',' => do advance; skipItems fuel
    | some ']' => advance
    | some _ => failAhead .expectedListSeparator
    | none => failAhead .unclosedList

/-- Passes over a member of an object and what follows it. -/
def skipMembers : Nat → Reader Unit
  | 0 => pure ()
  | fuel + 1 => do
    skipKey
    skipValueWith fuel
    match ← peekPastBlanks? with
    | some ',' => do advance; skipMembers fuel
    | some '}' => advance
    | some _ => failAhead .expectedObjectSeparator
    | none => failAhead .unclosedObject

end

/-- **Passes over a value** that does not matter. Every character read takes
two steps at most. -/
def skipValue : Reader Unit := do
  skipValueWith (2 * (← bound))

end Reader

/-- **The value a text describes.** -/
def parse (text : String) : Except Fault Json := Reader.run (Reader.value depthLimit) text

end Json

end CatalogBrowser
