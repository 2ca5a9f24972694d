/-!
# Decimal numbers in writing

A number is written with as few digits as tell it from all other numbers, in a style
that says when an exponent is used.
-/

namespace CatalogBrowser

/-! ## The shortest digits

A binary floating-point number is written in decimal with as few digits as
tell it apart from its neighbours. The numbers that round to it form an
interval, and the **shortest decimal** is the coarsest decimal grid with a
point inside, at the point nearest to the number.

All of this is done in whole numbers, in units small enough that every
floating-point number, and the middle between any two, is a whole number of
them. -/

namespace Decimal

/-- The smallest unit is `10` to the power of minus this. -/
def unitExponent : Nat := 1100

/-- **A decimal number** that is not negative: `digits` times a power of ten. -/
structure Magnitude where
  /-- The digits, read as one number. -/
  digits : Nat
  /-- The power of ten the last digit stands for. -/
  exponent : Int
deriving DecidableEq, Repr, Inhabited

/-- **The numbers that round to a given one**, in the smallest units. -/
structure Interval where
  /-- The number itself. -/
  value : Nat
  /-- The smallest number that could round to it. -/
  low : Nat
  /-- The largest number that could round to it. -/
  high : Nat
  /-- Whether the ends round to it too. -/
  closed : Bool

/-- Whether a number rounds to the one the interval is around. -/
def Interval.holds (i : Interval) (n : Nat) : Bool :=
  if i.closed then i.low ≤ n && n ≤ i.high else i.low < n && n < i.high

/-- The interval around the number with the given bits, whose sign is
ignored. Below a power of two the numbers lie twice as close together. -/
def Interval.ofBits (bits : UInt64) : Interval :=
  let fraction := bits.toNat % Nat.pow 2 52
  let scale := bits.toNat / Nat.pow 2 52 % Nat.pow 2 11
  let mantissa := if scale = 0 then fraction else fraction + Nat.pow 2 52
  -- A quarter of the distance to the next number.
  let quarter := Nat.pow 2 (max scale 1 + unitExponent - 1077) * Nat.pow 5 unitExponent
  { value := 4 * mantissa * quarter
    low := 4 * mantissa * quarter - (if fraction = 0 && 1 < scale then quarter else 2 * quarter)
    high := 4 * mantissa * quarter + 2 * quarter
    closed := mantissa % 2 = 0 }

/-- How many digits a number has. -/
def digitCount (n : Nat) : Nat := (Nat.toDigits 10 n).length

/-- The point of a grid nearest to the value, among those in the interval. -/
def Interval.nearestOnGrid? (i : Interval) (step : Nat) : Option Nat :=
  let below := i.value / step * step
  let above := below + step
  match i.holds below, i.holds above with
  | true, true => some (if i.value - below ≤ above - i.value then below else above)
  | true, false => some below
  | false, true => some above
  | false, false => none

/-- A decimal number without zeros at its end, given an upper bound on how
many there are. -/
def stripZeros : Nat → Nat → Int → Magnitude
  | 0, digits, exponent => ⟨digits, exponent⟩
  | fuel + 1, digits, exponent =>
    if digits % 10 = 0 then stripZeros fuel (digits / 10) (exponent + 1) else ⟨digits, exponent⟩

/-- **The shortest decimal of a finite number**, given by its bits. The sign
is ignored, and the number must not be zero. Seventeen digits always tell a
number apart. -/
def shortest (bits : UInt64) : Magnitude :=
  let i := Interval.ofBits bits
  let width := digitCount i.value
  let found := (List.range 17).findSome? fun n =>
    let power := width - (n + 1)
    (i.nearestOnGrid? (Nat.pow 10 power)).map fun point =>
      stripZeros 20 (point / Nat.pow 10 power) ((power : Int) - unitExponent)
  found.getD ⟨0, 0⟩

end Decimal

/-! ## Styles

A number is written with its shortest decimal, in one of two ways:
**positionally**, with as many zeros as it takes, or in **scientific** form,
with one digit before the point and an exponent. A style says which numbers
are written positionally. Either way a number that happens to be whole is
written with a fraction or an exponent, so that it is not mistaken for an
integer. -/

namespace Decimal

/-- **How floating-point numbers are written.** -/
structure Style where
  /-- Whether a number is written positionally, by the place of its first
  digit: one for the units, and zero for the first place behind the point. -/
  isPositional : Int → Bool

/-- A text of zeros. -/
def zeros (n : Nat) : String := String.ofList (List.replicate n '0')

/-- A decimal number written positionally. -/
def positional (m : Magnitude) : String :=
  let written := toString m.digits
  let point : Int := written.length + m.exponent
  if 0 ≤ m.exponent then written ++ zeros m.exponent.toNat ++ ".0"
  else if 0 < point then
    let digits := written.toList
    String.ofList (digits.take point.toNat) ++ "." ++ String.ofList (digits.drop point.toNat)
  else "0." ++ zeros (-point).toNat ++ written

/-- A decimal number in scientific form. -/
def scientific (m : Magnitude) : String :=
  let digits := (toString m.digits).toList
  let exponent : Int := digits.length + m.exponent - 1
  let fraction := digits.drop 1
  String.ofList (digits.take 1) ++ (if fraction.isEmpty then "" else "." ++ String.ofList fraction)
    ++ "e" ++ toString exponent

/-- **A number as it is written.** -/
def Style.write (style : Style) (x : Float) : String :=
  if x.isNaN then "NaN"
  else
    let sign := if x.toBits.toNat / Nat.pow 2 63 = 1 then "-" else ""
    if x.isInf then sign ++ "inf"
    else if x == 0 then sign ++ "0.0"
    else
      let m := shortest x.toBits
      let point : Int := digitCount m.digits + m.exponent
      sign ++ if style.isPositional point then positional m else scientific m

/-- Every number is written positionally. -/
def plainStyle : Style := ⟨fun _ => true⟩

/-- Numbers with up to sixteen digits before the point, or up to four zeros
behind it, are written positionally. -/
def compactStyle : Style := ⟨fun point => -5 < point && point ≤ 16⟩

end Decimal

end CatalogBrowser
