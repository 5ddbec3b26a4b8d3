/-!
Text as a list of characters. Every text that the terminal reads, shows or sends is a `Text`;
this module holds the cuts that the other modules make on it, and the white space around it.
-/
namespace RemoteTerminal

/-- A text, character by character. -/
abbrev Text := List Char

namespace Text

/-- The parts before and after the first occurrence of `sep`. -/
def cut? (sep : Char) : Text → Option (Text × Text)
  | [] => none
  | c :: cs =>
    if c = sep then some ([], cs)
    else (cut? sep cs).map fun (before, after) => (c :: before, after)

/-- Puts `piece` in the place of each `c`. -/
def substitute (t : Text) (c : Char) (piece : Text) : Text :=
  t.flatMap fun d => if d = c then piece else [d]

/-- What follows `start`, if the text starts with it. -/
def dropStart? : Text → Text → Option Text
  | [], t => some t
  | _ :: _, [] => none
  | c :: cs, d :: ds => if c = d then dropStart? cs ds else none

/-- The text less one `tail` at its end, if it ends so. -/
def dropTail (t tail : Text) : Text :=
  if tail.isSuffixOf t then t.take (t.length - tail.length) else t

/-- Upper case of the letters a to z; every other character stays. -/
def asciiUpper (t : Text) : Text := t.map Char.toUpper

/-- Lower case of the letters A to Z; every other character stays. -/
def asciiLower (t : Text) : Text := t.map Char.toLower

/-- Order by code point, the shorter text first where one starts the other. -/
def before : Text → Text → Bool
  | [], [] => false
  | [], _ :: _ => true
  | _ :: _, [] => false
  | c :: cs, d :: ds => if c = d then before cs ds else decide (c.toNat < d.toNat)

/-- The ranges of the Unicode property `White_Space`, by first and last code point. -/
def blankRanges : List (Nat × Nat) :=
  [(0x9, 0xD), (0x20, 0x20), (0x85, 0x85), (0xA0, 0xA0), (0x1680, 0x1680), (0x2000, 0x200A),
   (0x2028, 0x2029), (0x202F, 0x202F), (0x205F, 0x205F), (0x3000, 0x3000)]

/-- Whether a character is white space. -/
def isBlank (c : Char) : Bool :=
  blankRanges.any fun (first, last) => decide (first ≤ c.toNat) && decide (c.toNat ≤ last)

def trimStart (t : Text) : Text := t.dropWhile isBlank

def trimEnd (t : Text) : Text := (t.reverse.dropWhile isBlank).reverse

/-- The text less the white space at both of its ends. -/
def trim (t : Text) : Text := trimEnd (trimStart t)

/-- Whether a text holds white space only. -/
def blank (t : Text) : Bool := (trim t).isEmpty

end Text
end RemoteTerminal
