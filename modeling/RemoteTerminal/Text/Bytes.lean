import RemoteTerminal.Text

/-!
Text as UTF-8. `encode` writes the shortest form of each character and `decode` reads nothing else:
a fault carries the number of bytes that were well formed before it, and the number of bytes that
the ill-formed piece has, or none where the bytes end inside a character.
-/
namespace RemoteTerminal

abbrev Bytes := List UInt8

namespace Bytes

/-- Where bytes stop being UTF-8. -/
structure Fault where
  offset : Nat
  width : Option Nat
  deriving DecidableEq, Repr

def byte (n : Nat) : UInt8 := UInt8.ofNat n

/-- The bytes of one character. -/
def ofChar (c : Char) : Bytes :=
  let n := c.toNat
  if n < 0x80 then [byte n]
  else if n < 0x800 then [byte (0xC0 + n / 64), byte (0x80 + n % 64)]
  else if n < 0x10000 then
    [byte (0xE0 + n / 4096), byte (0x80 + n / 64 % 64), byte (0x80 + n % 64)]
  else
    [byte (0xF0 + n / 262144), byte (0x80 + n / 4096 % 64), byte (0x80 + n / 64 % 64),
     byte (0x80 + n % 64)]

def encode (t : Text) : Bytes := t.flatMap ofChar

/-- What a first byte announces: the width of the character, the range of the second byte, and
what the first byte adds to the code point. -/
inductive Lead where
  | single (code : Nat)
  | multi (width : Nat) (low high : Nat) (code : Nat)
  | bad

def lead (b : UInt8) : Lead :=
  let n := b.toNat
  if n < 0x80 then .single n
  else if n < 0xC2 then .bad
  else if n < 0xE0 then .multi 2 0x80 0xBF (n - 0xC0)
  else if n = 0xE0 then .multi 3 0xA0 0xBF 0
  else if n = 0xED then .multi 3 0x80 0x9F 13
  else if n < 0xF0 then .multi 3 0x80 0xBF (n - 0xE0)
  else if n = 0xF0 then .multi 4 0x90 0xBF 0
  else if n < 0xF4 then .multi 4 0x80 0xBF (n - 0xF0)
  else if n = 0xF4 then .multi 4 0x80 0x8F 4
  else .bad

def within (low high : Nat) (b : UInt8) : Bool :=
  decide (low ≤ b.toNat) && decide (b.toNat ≤ high)

/-- Reads bytes as text, `offset` bytes after the start. -/
def decodeFrom (offset : Nat) : Bytes → Except Fault Text
  | [] => .ok []
  | a :: afterA =>
    match lead a with
    | .bad => .error ⟨offset, some 1⟩
    | .single code => (decodeFrom (offset + 1) afterA).map (Char.ofNat code :: ·)
    | .multi width low high code =>
      match afterA with
      | [] => .error ⟨offset, none⟩
      | b :: afterB =>
        if !within low high b then .error ⟨offset, some 1⟩
        else
          let code := code * 64 + (b.toNat - 0x80)
          if width = 2 then (decodeFrom (offset + 2) afterB).map (Char.ofNat code :: ·)
          else match afterB with
            | [] => .error ⟨offset, none⟩
            | c :: afterC =>
              if !within 0x80 0xBF c then .error ⟨offset, some 2⟩
              else
                let code := code * 64 + (c.toNat - 0x80)
                if width = 3 then (decodeFrom (offset + 3) afterC).map (Char.ofNat code :: ·)
                else match afterC with
                  | [] => .error ⟨offset, none⟩
                  | d :: afterD =>
                    if !within 0x80 0xBF d then .error ⟨offset, some 3⟩
                    else
                      (decodeFrom (offset + 4) afterD).map
                        (Char.ofNat (code * 64 + (d.toNat - 0x80)) :: ·)

/-- The text that the bytes encode. -/
def decode (bytes : Bytes) : Except Fault Text := decodeFrom 0 bytes

end Bytes
end RemoteTerminal
