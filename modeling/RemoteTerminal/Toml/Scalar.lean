import RemoteTerminal.Toml.Lines

/-!
Numbers, dates and times of a TOML document. Digits may be grouped by `_` between two of them;
integers have 64 bits with a sign; a fraction past the greatest one is refused if it is positive.
-/
namespace RemoteTerminal.Toml

/-- Digits that `keep` holds of, single underscores between them left out, and what follows. It
fails where an underscore follows a digit and no digit follows it. -/
def grouped? (keep : Char → Bool) : Bool → Text → Option (Text × Text)
  | _, [] => some ([], [])
  | afterDigit, c :: rest =>
    if keep c then (grouped? keep true rest).map fun (ds, after) => (c :: ds, after)
    else if c = '_' && afterDigit then
      if (rest.head?.map keep).getD false then grouped? keep false rest else none
    else some ([], c :: rest)

/-- One or more digits in groups. -/
def someGrouped? (keep : Char → Bool) (t : Text) : Option (Text × Text) :=
  (grouped? keep false t).filter fun (digits, _) => !digits.isEmpty

def isHex (c : Char) : Bool := (Text.digitValue? 16 c).isSome
def isOctal (c : Char) : Bool := (Text.digitValue? 8 c).isSome
def isBinary (c : Char) : Bool := (Text.digitValue? 2 c).isSome

/-- Integers are below this, and no less than its negation. -/
def integerBound : Nat := Nat.pow 2 63

/-- An integer that is within bounds. -/
def fit (n : Int) : Option Int :=
  if -(integerBound : Int) ≤ n ∧ n < integerBound then some n else none

def based? (base : Nat) (keep : Char → Bool) (t : Text) : Option (Value × Text) := do
  let (digits, rest) ← someGrouped? keep t
  let n ← fit (← Text.digits? base digits)
  some (.integer n, rest)

/-- A sign, if there is one. -/
def sign : Text → Bool × Text
  | '+' :: rest => (false, rest)
  | '-' :: rest => (true, rest)
  | t => (false, t)

/-- The digits before a point, in groups unless they start with a zero, which stands alone. -/
def whole? : Text → Option (Text × Text)
  | '0' :: rest => some (['0'], rest)
  | t => someGrouped? Char.isDigit t

/-- An exponent, and what follows it. -/
def exponent? : Text → Option (Int × Text)
  | c :: rest =>
    if c = 'e' ∨ c = 'E' then do
      let (negative, rest) := sign rest
      let (digits, rest) ← someGrouped? Char.isDigit rest
      let n ← Text.digits? 10 digits
      some (if negative then -n else n, rest)
    else none
  | [] => none

/-- The fraction that digits and a power of ten spell. -/
def real? (negative : Bool) (digits : Text) (power : Int) : Option Value := do
  let n ← Text.digits? 10 digits
  match Binary64.ofDecimal n power with
  | some x => some (.real (.finite (if negative then x.negate else x)))
  | none => if negative then some (.real (.infinite true)) else none

/-- Whether an exponent begins here. -/
def startsExponent : Text → Bool
  | c :: _ => c = 'e' || c = 'E'
  | [] => false

/-- A number in decimal digits, with or without a sign, a point and an exponent. -/
def decimal? (t : Text) : Option (Value × Text) := do
  let (negative, body) := sign t
  match body with
  | 'i' :: 'n' :: 'f' :: rest => some (.real (.infinite negative), rest)
  | 'n' :: 'a' :: 'n' :: rest => some (.real .notANumber, rest)
  | _ =>
    let (digits, rest) ← whole? body
    match rest with
    | '.' :: rest =>
      let (places, rest) ← someGrouped? Char.isDigit rest
      let (power, rest) ← if startsExponent rest then exponent? rest else some (0, rest)
      some (← real? negative (digits ++ places) (power - places.length), rest)
    | _ =>
      if startsExponent rest then do
        let (power, rest) ← exponent? rest
        some (← real? negative digits power, rest)
      else do
        let n ← Text.digits? 10 digits
        some (.integer (← fit (if negative then -n else n)), rest)

def number? : Text → Option (Value × Text)
  | '0' :: 'x' :: rest => based? 16 isHex rest
  | '0' :: 'o' :: rest => based? 8 isOctal rest
  | '0' :: 'b' :: rest => based? 2 isBinary rest
  | t => decimal? t

/-- A number of exactly `width` digits between `low` and `high`. -/
def fixed? (width low high : Nat) (t : Text) : Option (Nat × Text) := do
  let n ← Text.digits? 10 (t.take width)
  if (t.take width).length = width ∧ low ≤ n ∧ n ≤ high then some (n, t.drop width) else none

def mark? (c : Char) : Text → Option Text
  | d :: rest => if c = d then some rest else none
  | [] => none

/-- The decimal digits of a number, zeros before it up to a width. -/
def padded (width n : Nat) : Text :=
  let digits := Text.decimal n
  List.replicate (width - digits.length) '0' ++ digits

def daysOf (year month : Nat) : Nat :=
  if month = 2 then if year % 4 = 0 ∧ (year % 100 ≠ 0 ∨ year % 400 = 0) then 29 else 28
  else if month = 4 ∨ month = 6 ∨ month = 9 ∨ month = 11 then 30
  else 31

/-- A date, written again. -/
def date? (t : Text) : Option (Text × Text) := do
  let (year, t) ← fixed? 4 0 9999 t
  let (month, t) ← fixed? 2 1 12 (← mark? '-' t)
  let (day, t) ← fixed? 2 1 31 (← mark? '-' t)
  if daysOf year month < day then none
  some (padded 4 year ++ ['-'] ++ padded 2 month ++ ['-'] ++ padded 2 day, t)

/-- The digits of a fraction of a second, up to nine and without zeros at the end. -/
def secondPlaces (digits : Text) : Text :=
  let kept := ((digits.take 9).reverse.dropWhile (· = '0')).reverse
  if kept.isEmpty then [] else '.' :: kept

/-- A time, written again. -/
def time? (t : Text) : Option (Text × Text) := do
  let (hour, t) ← fixed? 2 0 23 t
  let (minute, t) ← fixed? 2 0 59 (← mark? ':' t)
  let (second, t) ← fixed? 2 0 60 (← mark? ':' t)
  let (places, t) := match t with
    | '.' :: rest =>
      let digits := rest.takeWhile Char.isDigit
      if digits.isEmpty then ([], t) else (secondPlaces digits, rest.dropWhile Char.isDigit)
    | _ => ([], t)
  some (padded 2 hour ++ [':'] ++ padded 2 minute ++ [':'] ++ padded 2 second ++ places, t)

/-- The distance of a time from universal time, written again; nothing if none is given. -/
def offset? (t : Text) : Option (Text × Text) :=
  match t with
  | c :: rest =>
    if c = 'Z' ∨ c = 'z' then some (['Z'], rest)
    else if c = '+' ∨ c = '-' then do
      let (hour, rest) ← fixed? 2 0 23 rest
      let (minute, rest) ← fixed? 2 0 59 (← mark? ':' rest)
      let mark := if c = '-' ∧ 0 < hour * 60 + minute then '-' else '+'
      some (mark :: padded 2 hour ++ [':'] ++ padded 2 minute, rest)
    else some ([], t)
  | [] => some ([], t)

def isTimeMark (c : Char) : Bool := c = 'T' || c = 't' || c = ' '

/-- Whether the text starts as a date or a time does. -/
def startsDate (t : Text) : Bool :=
  (t.take 4).all Char.isDigit && (t.drop 4).head? = some '-'

def startsTime (t : Text) : Bool :=
  (fixed? 2 0 23 t).isSome && (t.drop 2).head? = some ':'

/-- A date, a time, or both. -/
def moment? (t : Text) : Option (Value × Text) := do
  if startsDate t then
    let (date, rest) ← date? t
    match rest with
    | c :: after =>
      if isTimeMark c && startsTime after then do
        let (time, rest) ← time? after
        let (offset, rest) ← offset? rest
        some (.moment (date ++ ['T'] ++ time ++ offset), rest)
      else some (.moment date, rest)
    | [] => some (.moment date, rest)
  else
    let (time, rest) ← time? t
    some (.moment time, rest)

/-- A number, a date or a time. -/
def numeric? (t : Text) : Option (Value × Text) :=
  if startsDate t || startsTime t then moment? t else number? t

end RemoteTerminal.Toml
