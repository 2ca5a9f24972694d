import CatalogBrowser.Toml.StringLiteral
import CatalogBrowser.Toml.Table

/-!
# Numbers and dates in a TOML file

Numbers may have underscores between their digits. Whole numbers are
written in decimal, hexadecimal, octal or binary form and must fit into 64
bits; numbers with a fraction or an exponent are rounded to floating point,
and may be infinite or no number if they say so. Dates and times must exist
in the calendar.
-/

namespace CatalogBrowser

namespace Toml

namespace Reader

/-- Whether a character is a decimal digit. -/
def isDigit (c : Char) : Bool := '0' ≤ c && c ≤ '9'

/-- Reads digits with single underscores between them, at most `fuel`. -/
def digitsWith (p : Char → Bool) : Nat → Reader (List Char)
  | 0 => failure
  | fuel + 1 => do
    let digits ← takeSome p
    if ← literal? ['_'] then pure (digits ++ (← digitsWith p fuel)) else pure digits

/-- Reads digits with single underscores between them. -/
def digits (p : Char → Bool) : Reader (List Char) := do
  digitsWith p (← bound)

/-- The number that digits stand for. -/
def numberOf (base : Nat) (digits : List Char) : Nat :=
  digits.foldl (fun n c => n * base + hexValue c) 0

/-- Reads a sign, and tells whether it is a minus. -/
def sign : Reader Bool := do
  match ← optional (charIf fun c => c = '+' || c = '-') with
  | some c => pure (c = '-')
  | none => pure false

/-- Reads the digits of a decimal number, which do not start with a zero
unless that is all. -/
def decimalDigits : Reader (List Char) := do
  match ← peek? with
  | some '0' => do char '0'; pure ['0']
  | _ => digits isDigit

/-- A whole number that fits into 64 bits. -/
def fitting (n : Int) : Reader Int :=
  if -Int.pow 2 63 ≤ n && n < Int.pow 2 63 then pure n else failure

/-- Reads a whole number in another base, behind its mark. -/
def basedInteger (base : Nat) (isMember : Char → Bool) : Reader Int := do
  fitting (numberOf base (← digits isMember))

/-- Reads a whole number. -/
def integer : Reader Int := do
  if ← literal? ['0', 'x'] then basedInteger 16 isHexDigit
  else if ← literal? ['0', 'o'] then basedInteger 8 fun c => '0' ≤ c && c ≤ '7'
  else if ← literal? ['0', 'b'] then basedInteger 2 fun c => c = '0' || c = '1'
  else
    let isNegative ← sign
    let n : Int := numberOf 10 (← decimalDigits)
    fitting (if isNegative then -n else n)

/-! ## Floating point -/

/-- The floating-point number nearest to `mantissa` times a power of ten.
Far outside of the range it is infinite or zero. -/
def nearestFloat (mantissa : Nat) (exponent : Int) : Float :=
  let width : Int := (Nat.toDigits 10 mantissa).length
  if mantissa = 0 || width + exponent < -400 then 0
  else if 400 < width + exponent then 1.0 / 0.0
  else Float.ofScientific mantissa (exponent < 0) exponent.natAbs

/-- Reads an exponent. -/
def exponent : Reader Int := do
  let _ ← charIf fun c => c = 'e' || c = 'E'
  let isNegative ← sign
  let n : Int := numberOf 10 (← digits isDigit)
  pure (if isNegative then -n else n)

/-- Reads a fraction. -/
def fraction : Reader (List Char) := do
  char '.'
  digits isDigit

/-- Reads a number with a fraction or an exponent. It must not be too large,
unless it is negative. -/
def finiteReal : Reader Float := do
  let isNegative ← sign
  let whole ← decimalDigits
  let behind ← optional fraction
  let power ← match behind with
    | some _ => do pure ((← optional exponent).getD 0)
    | none => exponent
  let behind := behind.getD []
  let f := nearestFloat (numberOf 10 (whole ++ behind)) (power - behind.length)
  if isNegative then pure (-f) else if f.isInf then failure else pure f

/-- Reads infinity, or what is no number. -/
def specialReal : Reader Float := do
  let isNegative ← sign
  let f : Float ← (do literal ['i', 'n', 'f']; pure (1.0 / 0.0))
    <|> (do literal ['n', 'a', 'n']; pure (0.0 / 0.0))
  pure (if isNegative then -f else f)

/-! ## Dates and times -/

/-- Reads a number of exactly `n` digits within bounds. -/
def twoDigits (low high : Nat) : Reader Nat := do
  let n := numberOf 10 (← takeExactly 2 isDigit)
  if low ≤ n && n ≤ high then pure n else failure

/-- How many days a month has. -/
def daysOfMonth (year month : Nat) : Nat :=
  if month = 2 then
    if year % 4 = 0 && (year % 100 ≠ 0 || year % 400 = 0) then 29 else 28
  else if month = 4 || month = 6 || month = 9 || month = 11 then 30
  else 31

/-- Reads a date. -/
def date : Reader Unit := do
  let year := numberOf 10 (← takeExactly 4 isDigit)
  char '-'
  let month ← twoDigits 1 12
  char '-'
  let _ ← twoDigits 1 (daysOfMonth year month)

/-- Reads a time of day. A minute may have a leap second. -/
def time : Reader Unit := do
  let _ ← twoDigits 0 23
  char ':'
  let _ ← twoDigits 0 59
  char ':'
  let _ ← twoDigits 0 60
  let _ ← optional (do char '.'; takeSome isDigit)

/-- Reads how far a time is from that of Greenwich. -/
def timeOffset : Reader Unit := do
  match ← charIf fun c => c = 'Z' || c = 'z' || c = '+' || c = '-' with
  | '+' | '-' => do
    let _ ← twoDigits 0 23
    char ':'
    let _ ← twoDigits 0 59
  | _ => pure ()

/-- Reads a date, a time, or both. -/
def moment : Reader Unit := dated <|> time
where
  /-- A date, and the time on it if one follows. -/
  dated : Reader Unit := do
    date
    let _ ← optional do
      let _ ← charIf fun c => c = 'T' || c = 't' || c = ' '
      time
      let _ ← optional timeOffset

/-- **Reads a number, a date or a time.** -/
def scalar : Reader Toml :=
  (do moment; pure .moment)
    <|> (do pure (.real (← finiteReal)))
    <|> (do pure (.real (← specialReal)))
    <|> (do pure (.integer (← integer)))

end Reader

end Toml

end CatalogBrowser
