/-!
Binary fractions of 53 digits, as the wider floating-point format keeps them: every quotient has a
nearest one, and a quotient half-way between two goes to the one whose significand is even.
-/
namespace RemoteTerminal

/-- The value `significand * 2 ^ exponent`, below zero if `negative`. -/
structure Binary64 where
  negative : Bool
  significand : Nat
  exponent : Int
  deriving DecidableEq, Repr

namespace Binary64

/-- The least exponent: below it, fractions have fewer digits. -/
def leastExponent : Int := -1074

/-- The greatest exponent of a full significand. -/
def greatestExponent : Int := 971

def zero (negative : Bool) : Binary64 := ⟨negative, 0, leastExponent⟩

def isZero (x : Binary64) : Bool := x.significand = 0

def negate (x : Binary64) : Binary64 := { x with negative := !x.negative }

/-- The numerator and denominator of `n * 2 ^ e`, each multiplied into `num` and `den`. -/
def scale (num den : Nat) (e : Int) : Nat × Nat :=
  if e < 0 then (num, den * Nat.pow 2 e.natAbs) else (num * Nat.pow 2 e.toNat, den)

/-- The quotient rounded to a natural number, half-way cases to the even neighbour. -/
def nearest (num den : Nat) : Nat :=
  let q := num / den
  let twice := 2 * (num % den)
  if twice < den then q else if den < twice then q + 1 else q + q % 2

/-- The nearest value to `num / den`, or `none` where that is past the greatest value. -/
def ofQuotient (num den : Nat) : Option Binary64 :=
  if num = 0 then some (zero false)
  else
    let guess := max ((num.log2 : Int) - den.log2 - 53) leastExponent
    let (n, d) := scale num den (-guess)
    let exponent := if n / d < Nat.pow 2 53 then guess else guess + 1
    let (n, d) := scale num den (-exponent)
    let m := nearest n d
    let (m, exponent) := if m = Nat.pow 2 53 then (Nat.pow 2 52, exponent + 1) else (m, exponent)
    if greatestExponent < exponent then none else some ⟨false, m, exponent⟩

/-- The value as a numerator and a denominator, its sign left out. -/
def quotient (x : Binary64) : Nat × Nat := scale x.significand 1 x.exponent

/-- The nearest value to the product, or `none` past the greatest value. -/
def times (x y : Binary64) : Option Binary64 :=
  let (a, b) := x.quotient
  let (c, d) := y.quotient
  (ofQuotient (a * c) (b * d)).map fun z => { z with negative := x.negative != y.negative }

/-- The nearest value to the quotient by a divisor that is not zero, or `none` past the greatest
value. -/
def dividedBy (x y : Binary64) : Option Binary64 :=
  let (a, b) := x.quotient
  let (c, d) := y.quotient
  (ofQuotient (a * d) (b * c)).map fun z => { z with negative := x.negative != y.negative }

def ofNat (n : Nat) : Option Binary64 := ofQuotient n 1

/-- The nearest value to `digits * 10 ^ power`, or `none` past the greatest value. Powers that
leave no doubt are settled by their size alone. -/
def ofDecimal (digits : Nat) (power : Int) : Option Binary64 :=
  let magnitude := (Nat.toDigits 10 digits).length + power
  if digits = 0 then some (zero false)
  else if magnitude < -400 then some (zero false)
  else if 400 < magnitude then none
  else if power < 0 then ofQuotient digits (Nat.pow 10 power.natAbs)
  else ofQuotient (digits * Nat.pow 10 power.toNat) 1

end Binary64
end RemoteTerminal
