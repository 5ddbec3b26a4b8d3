import RemoteTerminal.Text

/-!
Numbers in digits: how a natural number is written, and which texts read as one.
-/
namespace RemoteTerminal.Text

/-- The decimal digits of a number, without leading zeros. -/
def decimal (n : Nat) : Text := Nat.toDigits 10 n

/-- The decimal digits of an integer, with `-` before a negative one. -/
def signedDecimal : Int → Text
  | .ofNat n => decimal n
  | .negSucc n => '-' :: decimal (n + 1)

/-- The value of a digit, letters counting on from ten. -/
def digitValue? (base : Nat) (c : Char) : Option Nat :=
  let value :=
    if c.isDigit then some (c.toNat - '0'.toNat)
    else if 'a' ≤ c && c ≤ 'z' then some (c.toNat - 'a'.toNat + 10)
    else if 'A' ≤ c && c ≤ 'Z' then some (c.toNat - 'A'.toNat + 10)
    else none
  value.filter (· < base)

/-- The number that digits spell, most significant first. -/
def ofDigits (base : Nat) (digits : List Nat) : Nat :=
  digits.foldl (fun n d => n * base + d) 0

/-- The number that one or more digits spell. -/
def digits? (base : Nat) (t : Text) : Option Nat :=
  if t.isEmpty then none else (t.mapM (digitValue? base)).map (ofDigits base)

/-- A count: one or more decimal digits, after at most one `+`, whose value is below `bound`. -/
def count? (bound : Nat) (t : Text) : Option Nat :=
  let body := match t with
    | '+' :: rest => rest
    | _ => t
  (digits? 10 body).filter (· < bound)

/-- Two upper-case hexadecimal digits of a byte. -/
def hexByte (b : UInt8) : Text :=
  let digit (n : Nat) : Char := if n < 10 then Char.ofNat (48 + n) else Char.ofNat (55 + n)
  [digit (b.toNat / 16), digit (b.toNat % 16)]

end RemoteTerminal.Text
