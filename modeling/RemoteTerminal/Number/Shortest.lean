import RemoteTerminal.Number.Binary64
import RemoteTerminal.Text.Digits

/-!
The shortest decimal that reads back as a given binary fraction: among the decimals that round to
it, those with the fewest digits, and of these the nearest. Two spellings of it are written: in
plain positions, and with a power of ten where the number is very large or very small.
-/
namespace RemoteTerminal.Binary64

/-- The decimal `digits * 10 ^ power`. -/
structure Decimal where
  digits : Nat
  power : Int
  deriving DecidableEq, Repr

/-- Twice the value and twice the ends of the decimals that round to it, over one denominator. The
next fraction below a power of two is nearer than the next above. -/
structure Interval where
  low : Nat
  mid : Nat
  high : Nat
  den : Nat
  closed : Bool

def interval (x : Binary64) : Interval :=
  let m := x.significand
  let narrow := decide (m = Nat.pow 2 52) && decide (leastExponent < x.exponent)
  let (unit, den) := scale 1 4 x.exponent
  { low := (4 * m - if narrow then 1 else 2) * unit
    mid := 4 * m * unit
    high := (4 * m + 2) * unit
    den
    closed := m % 2 = 0 }

def Interval.holds (i : Interval) (num den : Nat) : Bool :=
  let v := num * i.den
  if i.closed then decide (i.low * den ≤ v) && decide (v ≤ i.high * den)
  else decide (i.low * den < v) && decide (v < i.high * den)

/-- `d * 10 ^ p` as a numerator and a denominator. -/
def decimalQuotient (d : Nat) (p : Int) : Nat × Nat :=
  if p < 0 then (d, Nat.pow 10 p.natAbs) else (d * Nat.pow 10 p.toNat, 1)

/-- The decimal of the grid `10 ^ p` that lies in the interval, nearest to its middle. -/
def Interval.onGrid? (i : Interval) (p : Int) : Option Decimal :=
  let (num, den) :=
    if p < 0 then (i.mid * Nat.pow 10 p.natAbs, i.den) else (i.mid, i.den * Nat.pow 10 p.toNat)
  let below := num / den
  let fits (d : Nat) : Bool := let (n, k) := decimalQuotient d p; i.holds n k
  match fits below, fits (below + 1) with
  | true, true => some ⟨nearest num den, p⟩
  | true, false => some ⟨below, p⟩
  | false, true => some ⟨below + 1, p⟩
  | false, false => none

/-- The power of ten of the first digit of a fraction that is not zero. -/
def leadingPower (num den : Nat) : Int :=
  if den ≤ num then ((Nat.toDigits 10 (num / den)).length : Int) - 1
  else
    -- The digits of the inverse, rounded up, count the zeros before the first digit.
    -((Nat.toDigits 10 ((den + num - 1) / num - 1)).length : Int)

/-- The coarsest grid with a fitting decimal, tried in turn from the power of the first digit. -/
def coarsest (i : Interval) : Nat → Int → Decimal
  | 0, p => ⟨0, p⟩
  | fuel + 1, p => (i.onGrid? p).getD (coarsest i fuel (p - 1))

/-- The shortest decimal that rounds to the value, its sign left out. -/
def shortest (x : Binary64) : Decimal :=
  if x.isZero then ⟨0, 0⟩
  else
    let (num, den) := x.quotient
    coarsest x.interval 20 (leadingPower num den + 1)

def sign (x : Binary64) : Text := if x.negative then ['-'] else []

/-- The number in plain positions, with at least one digit after the point. -/
def positional (d : Decimal) : Text :=
  let digits := Text.decimal d.digits
  if 0 ≤ d.power then digits ++ List.replicate d.power.toNat '0' ++ ".0".toList
  else
    let places := d.power.natAbs
    let padded := List.replicate (places + 1 - digits.length) '0' ++ digits
    padded.take (padded.length - places) ++ ['.'] ++ padded.drop (padded.length - places)

/-- The number as one digit, the digits after a point, and a power of ten of two digits or more. -/
def scientific (d : Decimal) : Text :=
  let digits := Text.decimal d.digits
  let power : Int := d.power + digits.length - 1
  let fraction := if digits.length ≤ 1 then [] else '.' :: digits.drop 1
  let exponent := Text.decimal power.natAbs
  digits.take 1 ++ fraction ++ ['e', if power < 0 then '-' else '+'] ++
    (if exponent.length < 2 then '0' :: exponent else exponent)

/-- Positional, whatever the size. -/
def plainText (x : Binary64) : Text := x.sign ++ positional x.shortest

/-- Positional from one ten-thousandth up to sixteen digits, scientific beyond. -/
def compactText (x : Binary64) : Text :=
  let d := x.shortest
  let power : Int := d.power + (Text.decimal d.digits).length - 1
  x.sign ++ if x.isZero || (decide (-4 ≤ power) && decide (power < 16)) then positional d
    else scientific d

end RemoteTerminal.Binary64
