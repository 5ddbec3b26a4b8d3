import RemoteTerminal.Json

/-!
Numbers in JSON text. An integer that fits 64 bits is exact. A fraction keeps the leading digits
that fit 64 bits unsigned, and is scaled by the nearest fraction to a power of ten.
-/
namespace RemoteTerminal.Json.Numeral

/-- Significands are below this. -/
def significandBound : Nat := Nat.pow 2 64

/-- Exponents have digits up to this value. -/
def exponentBound : Nat := Nat.pow 2 31

/-- The digits of a number that go into its significand, and the power of ten that those and the
digits left out stand for. -/
structure Parts where
  significand : Nat
  power : Int

def digit (c : Char) : Nat := c.toNat - '0'.toNat

/-- Takes the digits before the point, until one would not fit; each digit from there on counts as
a power of ten. -/
def wholeDigits : Text → Nat → Parts
  | [], n => ⟨n, 0⟩
  | c :: cs, n =>
    if n * 10 + digit c < significandBound then wholeDigits cs (n * 10 + digit c)
    else ⟨n, cs.length + 1⟩

/-- Takes the digits after the point, until one would not fit; the rest is dropped. -/
def fractionDigits : Text → Parts → Parts
  | [], parts => parts
  | c :: cs, parts =>
    let n := parts.significand * 10 + digit c
    if n < significandBound then fractionDigits cs ⟨n, parts.power - 1⟩ else parts

/-- The largest power of ten that scales in one step. -/
def stepPower : Nat := 308

/-- The nearest fraction to a power of ten up to the largest. -/
def powerOfTen (power : Nat) : Binary64 :=
  (Binary64.ofDecimal 1 power).getD (Binary64.zero false)

/-- Divides by `10 ^ power`, by the largest step first; a zero stays as it is. -/
def shrink : Nat → Binary64 → Nat → Binary64
  | 0, x, _ => x
  | fuel + 1, x, power =>
    if power ≤ stepPower then (x.dividedBy (powerOfTen power)).getD x
    else if x.isZero then x
    else shrink fuel ((x.dividedBy (powerOfTen stepPower)).getD x) (power - stepPower)

/-- The fraction that the parts stand for. -/
def Parts.toReal (parts : Parts) : Except Fault Binary64 :=
  let x := (Binary64.ofNat parts.significand).getD (Binary64.zero false)
  if parts.power < 0 then .ok (shrink (parts.power.natAbs / stepPower + 1) x parts.power.natAbs)
  else if parts.power ≤ stepPower then
    match x.times (powerOfTen parts.power.toNat) with
    | some y => .ok y
    | none => .error .malformed
  else if x.isZero then .ok x
  else .error .malformed

/-- The value of digits before the point, after it, and of an exponent. -/
def value (negative : Bool) (whole : Text) (fraction : Option Text)
    (exponent : Option (Bool × Text)) : Except Fault Numeral :=
  let signed (x : Binary64) : Numeral := .real (if negative then x.negate else x)
  let parts := wholeDigits whole 0
  match fraction, exponent with
  | none, none =>
    if parts.power = 0 then
      if !negative then .ok (.integer parts.significand)
      else if parts.significand = 0 ∨ Nat.pow 2 63 < parts.significand then parts.toReal.map signed
      else .ok (.integer (-parts.significand))
    else parts.toReal.map signed
  | fraction, exponent =>
    let parts := (fraction.map fun digits => fractionDigits digits parts).getD parts
    match exponent with
    | none => parts.toReal.map signed
    | some (down, digits) =>
      let size := Text.ofDigits 10 (digits.map digit)
      if exponentBound ≤ size then
        if parts.significand ≠ 0 ∧ !down then .error .malformed
        else .ok (signed (Binary64.zero false))
      else
        let power := if down then parts.power - size else parts.power + size
        (Parts.toReal ⟨parts.significand, power⟩).map signed

/-- A number and what follows it. -/
abbrev Scanned := Leaf Numeral × Text

/-- A number that stops where a digit has to stand: at the end of the text it might have gone on. -/
def cut (rest : Text) : Scanned :=
  (⟨.error (if rest.isEmpty then .ended else .malformed), .error .malformed⟩, rest)

def scanExponent (negative : Bool) (whole : Text) (fraction : Option Text) (t : Text) : Scanned :=
  let (down, body) := match t with
    | '+' :: rest => (false, rest)
    | '-' :: rest => (true, rest)
    | _ => (false, t)
  let digits := body.takeWhile Char.isDigit
  let rest := body.dropWhile Char.isDigit
  if digits.isEmpty then cut rest
  else (⟨value negative whole fraction (some (down, digits)), .ok ()⟩, rest)

def scanFraction (negative : Bool) (whole t : Text) : Scanned :=
  let digits := t.takeWhile Char.isDigit
  let rest := t.dropWhile Char.isDigit
  if digits.isEmpty then cut rest
  else match rest with
    | 'e' :: after | 'E' :: after => scanExponent negative whole (some digits) after
    | _ => (⟨value negative whole (some digits) none, .ok ()⟩, rest)

/-- Reads a number, its sign apart. A leading zero stands alone. -/
def scanWhole (negative : Bool) (t : Text) : Scanned :=
  let digits := t.takeWhile Char.isDigit
  let rest := t.dropWhile Char.isDigit
  if digits.isEmpty then cut rest
  else if digits.head? = some '0' ∧ 1 < digits.length then (Leaf.lost .malformed, rest)
  else match rest with
    | '.' :: after => scanFraction negative digits after
    | 'e' :: after | 'E' :: after => scanExponent negative digits none after
    | _ => (⟨value negative digits none none, .ok ()⟩, rest)

/-- Reads a number from its sign or first digit on. -/
def scan (t : Text) : Scanned :=
  match t with
  | '-' :: rest => scanWhole true rest
  | _ => scanWhole false t

end RemoteTerminal.Json.Numeral
