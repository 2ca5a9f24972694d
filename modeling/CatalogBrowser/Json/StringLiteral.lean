import CatalogBrowser.Json.Reader

/-!
# Strings in a JSON document

A string runs to the next quote. A backslash starts an escape: a letter for
a common character, or `u` and four hexadecimal digits for a unit of UTF-16,
two such units in a row for a character beyond the first 65536. Control
characters must be escaped.

A string whose value does not matter is passed over more leniently: its
surrogates need not come in pairs.
-/

namespace CatalogBrowser

namespace Json

/-- The value of a hexadecimal digit. -/
def hexDigit? (c : Char) : Option Nat :=
  if '0' ≤ c && c ≤ '9' then some (c.toNat - '0'.toNat)
  else if 'a' ≤ c && c ≤ 'f' then some (c.toNat - 'a'.toNat + 10)
  else if 'A' ≤ c && c ≤ 'F' then some (c.toNat - 'A'.toNat + 10)
  else none

/-- The value of four hexadecimal digits. -/
def hexUnit? (a b c d : Char) : Option Nat := do
  let a ← hexDigit? a
  let b ← hexDigit? b
  let c ← hexDigit? c
  let d ← hexDigit? d
  pure (((a * 16 + b) * 16 + c) * 16 + d)

/-- The character a letter stands for behind a backslash. -/
def shortEscape? : Char → Option Char
  | '"' => some '"'
  | '\\' => some '\\'
  | '/' => some '/'
  | 'b' => some '\x08'
  | 'f' => some '\x0c'
  | 'n' => some '\n'
  | 'r' => some '\r'
  | 't' => some '\t'
  | _ => none

/-- Whether a unit is the first of a pair. -/
def isLeadingSurrogate (n : Nat) : Bool := 0xD800 ≤ n && n ≤ 0xDBFF

/-- Whether a unit is the second of a pair. -/
def isTrailingSurrogate (n : Nat) : Bool := 0xDC00 ≤ n && n ≤ 0xDFFF

/-- The character two surrogates stand for. -/
def surrogatePair (lead trail : Nat) : Char :=
  Char.ofNat ((lead - 0xD800) * 1024 + (trail - 0xDC00) + 0x10000)

/-- The fault of an escape without four hexadecimal digits. Four bytes are
looked at, if there are that many. -/
def badHexUnit (p : Position) (cs : List Char) : Fault :=
  if byteLength cs < 4 then ⟨.unclosedString, p.pastAll cs⟩ else ⟨.invalidEscape, p.pastBytes 4 cs⟩

/-- A character in front of what was read after it. -/
def consChar (c : Char) (read : List Char × Cursor) : List Char × Cursor := (c :: read.1, read.2)

/-- **The characters of a string up to its closing quote**, and the cursor
behind that, for a text whose first character stands after `p`. -/
def scanString (p : Position) : List Char → Except Fault (List Char × Cursor)
  | [] => .error ⟨.unclosedString, p⟩
  | '"' :: cs => .ok ([], ⟨cs, p.past '"'⟩)
  | '\\' :: 'u' :: cs =>
    let p := p.pastAll ['\\', 'u']
    match cs with
    | a :: b :: c :: d :: cs =>
      match hexUnit? a b c d with
      | none => .error (badHexUnit p (a :: b :: c :: d :: cs))
      | some n =>
        let p := p.pastAll [a, b, c, d]
        if isTrailingSurrogate n then .error ⟨.loneSurrogate, p⟩
        else if isLeadingSurrogate n then
          match cs with
          | [] => .error ⟨.unclosedString, p⟩
          | ['\\'] => .error ⟨.unclosedString, p.past '\\'⟩
          | '\\' :: 'u' :: cs =>
            let p := p.pastAll ['\\', 'u']
            match cs with
            | a :: b :: c :: d :: cs =>
              match hexUnit? a b c d with
              | none => .error (badHexUnit p (a :: b :: c :: d :: cs))
              | some m =>
                let p := p.pastAll [a, b, c, d]
                if isTrailingSurrogate m then
                  (scanString p cs).map (consChar (surrogatePair n m))
                else .error ⟨.loneSurrogate, p⟩
            | short => .error (badHexUnit p short)
          | '\\' :: x :: _ => .error ⟨.unfinishedSurrogate, (p.past '\\').pastByte x⟩
          | x :: _ => .error ⟨.unfinishedSurrogate, p.pastByte x⟩
        else (scanString p cs).map (consChar (Char.ofNat n))
    | short => .error (badHexUnit p short)
  | ['\\'] => .error ⟨.unclosedString, p.past '\\'⟩
  | '\\' :: e :: cs =>
    match shortEscape? e with
    | some c => (scanString ((p.past '\\').past e) cs).map (consChar c)
    | none => .error ⟨.invalidEscape, (p.past '\\').pastByte e⟩
  | c :: cs =>
    if c < ' ' then .error ⟨.controlCharacter, p.past c⟩
    else (scanString (p.past c) cs).map (consChar c)

/-- **Passes over a string whose value does not matter.** -/
def skipScan (p : Position) : List Char → Except Fault Cursor
  | [] => .error ⟨.unclosedString, p⟩
  | '"' :: cs => .ok ⟨cs, p.past '"'⟩
  | '\\' :: 'u' :: cs =>
    let p := p.pastAll ['\\', 'u']
    match cs with
    | a :: b :: c :: d :: cs =>
      match hexUnit? a b c d with
      | none => .error (badHexUnit p (a :: b :: c :: d :: cs))
      | some _ => skipScan (p.pastAll [a, b, c, d]) cs
    | short => .error (badHexUnit p short)
  | ['\\'] => .error ⟨.unclosedString, p.past '\\'⟩
  | '\\' :: e :: cs =>
    match shortEscape? e with
    | some _ => skipScan ((p.past '\\').past e) cs
    | none => .error ⟨.invalidEscape, (p.past '\\').pastByte e⟩
  | c :: cs =>
    if c < ' ' then .error ⟨.controlCharacter, p⟩ else skipScan (p.past c) cs

namespace Reader

/-- Reads a string whose opening quote is under the cursor. -/
def stringLiteral : Reader String := fun c =>
  let c := c.next
  (scanString c.position c.rest).map fun (cs, c) => (String.ofList cs, c)

/-- Passes over a string whose opening quote is under the cursor. -/
def skipString : Reader Unit := fun c =>
  let c := c.next
  (skipScan c.position c.rest).map fun c => ((), c)

end Reader

end Json

end CatalogBrowser
