import CatalogBrowser.Json.Reader
import CatalogBrowser.Json.Value

/-!
# Numbers in a JSON document

A number is read digit by digit into a **significand** of at most 64 bits;
digits that no longer fit only count towards the power of ten. The
significand is then scaled by that power in one step, or in steps of `308`
while a step is too small to be seen. A number too large for floating point
is refused, and one too small is zero.
-/

namespace CatalogBrowser

namespace Json

/-- The largest significand. -/
def significandLimit : Nat := Nat.pow 2 64 - 1

/-- The largest exponent that is told apart from larger ones. -/
def exponentLimit : Nat := Nat.pow 2 31 - 1

/-- Whether a character is a digit. -/
def isDigit (c : Char) : Bool := '0' ≤ c && c ≤ '9'

/-- The value of a digit. -/
def digitValue (c : Char) : Nat := c.toNat - '0'.toNat

/-- Appends digits to a number as long as it stays within a limit. Returns
the number, and how many digits were left over. -/
def absorbDigits (limit : Nat) : Nat → List Char → Nat × Nat
  | n, [] => (n, 0)
  | n, c :: cs =>
    let m := n * 10 + digitValue c
    if limit < m then (n, cs.length + 1) else absorbDigits limit m cs

/-- The power of ten, as a floating-point number. -/
def powerOfTen (n : Nat) : Float := Float.ofScientific 1 false n

/-- A number divided by a power of ten. -/
def divideByPower (f : Float) (n : Nat) : Float :=
  if h : 308 < n then
    if f == 0 then f
    else
      have : n - 308 < n := Nat.sub_lt (Nat.zero_lt_of_lt h) (by decide)
      divideByPower (f / powerOfTen 308) (n - 308)
  else f / powerOfTen n
termination_by n
decreasing_by exact this

/-- **A significand scaled by a power of ten**, if it is not too large. -/
def scaled? (significand : Nat) (exponent : Int) : Option Float :=
  let f := Float.ofNat significand
  if exponent < 0 then some (divideByPower f (-exponent).toNat)
  else if 308 < exponent then if f == 0 then some f else none
  else
    let f := f * powerOfTen exponent.toNat
    if f.isInf then none else some f

/-- A number with a sign. -/
def signed (isPositive : Bool) (f : Float) : Float := if isPositive then f else -f

namespace Reader

/-- Passes over `n` characters. -/
def skip : Nat → Reader Unit
  | 0 => pure ()
  | n + 1 => do advance; skip n

/-- The digits under the cursor, which stay where they are. -/
def peekDigits : Reader (List Char) :=
  fun c => .ok ((c.span isDigit).1, c)

/-- The number with the given parts. -/
def real (isPositive : Bool) (significand : Nat) (exponent : Int) : Reader Number := do
  match scaled? significand exponent with
  | some f => pure (.real (signed isPositive f))
  | none => fail .numberOutOfRange

/-- Reads an exponent, whose letter is under the cursor. -/
def exponentPart (isPositive : Bool) (significand : Nat) (exponent : Int) : Reader Number := do
  advance
  let isRaised ← match ← peek? with
    | some '+' => do advance; pure true
    | some '-' => do advance; pure false
    | _ => pure true
  match ← peek? with
  | none => fail .missingValue
  | some c =>
    if !isDigit c then failAhead .invalidNumber
    else
      let digits ← peekDigits
      let (n, excess) := absorbDigits exponentLimit 0 digits
      if excess = 0 then
        skip digits.length
        real isPositive significand (if isRaised then exponent + n else exponent - n)
      else if isRaised && significand ≠ 0 then
        skip (digits.length - excess + 1)
        fail .numberOutOfRange
      else
        skip digits.length
        pure (.real (signed isPositive 0))

/-- Reads an exponent if there is one, and completes the number. -/
def optionalExponent (isPositive : Bool) (significand : Nat) (exponent : Int) : Reader Number := do
  match ← peek? with
  | some 'e' | some 'E' => exponentPart isPositive significand exponent
  | _ => real isPositive significand exponent

/-- Reads a fraction, whose point is under the cursor. -/
def fractionPart (isPositive : Bool) (significand : Nat) (exponent : Int) : Reader Number := do
  advance
  let digits ← takeWhile isDigit
  if digits.isEmpty then
    match ← peek? with
    | some _ => failAhead .invalidNumber
    | none => failAhead .missingValue
  else
    let (significand, excess) := absorbDigits significandLimit significand digits
    optionalExponent isPositive significand (exponent - (digits.length - excess : Nat))

/-- A whole number. Only what fits into 64 bits is kept whole, and minus
zero is not. -/
def whole (isPositive : Bool) (n : Nat) : Number :=
  if isPositive then .natural n
  else if 0 < n && n ≤ Nat.pow 2 63 then .negative n
  else .real (-Float.ofNat n)

/-- Reads a number behind its sign. -/
def unsignedNumber (isPositive : Bool) : Reader Number := do
  match ← peek? with
  | none => fail .missingValue
  | some c =>
    if !isDigit c then failAhead .invalidNumber
    else
      advance
      let digits ← if c = '0' then do
          match ← peek? with
          | some d => if isDigit d then failAhead .invalidNumber else pure []
          | none => pure []
        else takeWhile isDigit
      let (significand, excess) := absorbDigits significandLimit (digitValue c) digits
      match ← peek? with
      | some '.' => fractionPart isPositive significand excess
      | some 'e' | some 'E' => exponentPart isPositive significand excess
      | _ =>
        if excess = 0 then pure (whole isPositive significand)
        else real isPositive significand excess

/-- **Reads a number**, which begins under the cursor. -/
def number : Reader Number := do
  match ← peek? with
  | some '-' => do advance; unsignedNumber false
  | _ => unsignedNumber true

/-- Passes over digits, of which there must be at least one. -/
def skipDigits : Reader Unit := do
  let digits ← takeWhile isDigit
  if digits.isEmpty then failAhead .invalidNumber

/-- **Passes over a number** whose value does not matter. -/
def skipNumber : Reader Unit := do
  match ← peek? with
  | some '-' => advance
  | _ => pure ()
  match ← peek? with
  | some '0' => do
    advance
    match ← peek? with
    | some d => if isDigit d then failAhead .invalidNumber else pure ()
    | none => pure ()
  | _ => skipDigits
  match ← peek? with
  | some '.' => do advance; skipDigits
  | _ => pure ()
  match ← peek? with
  | some 'e' | some 'E' => do
    advance
    match ← peek? with
    | some '+' | some '-' => advance
    | _ => pure ()
    skipDigits
  | _ => pure ()

end Reader

end Json

end CatalogBrowser
