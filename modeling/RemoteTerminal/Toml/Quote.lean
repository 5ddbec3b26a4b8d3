import RemoteTerminal.Toml.Lines

/-!
Strings of a TOML document: basic and literal, of one line or of several.
-/
namespace RemoteTerminal.Toml

/-- The character that a number names, unless it names half of a pair or none at all. -/
def scalar? (n : Nat) : Option Char :=
  if n < 0xD800 ∨ (0xE000 ≤ n ∧ n < 0x110000) then some (Char.ofNat n) else none

/-- The character that an escape stands for, after its backslash, and what follows it. -/
def escape? : Text → Option (Char × Text)
  | 'b' :: rest => some ('\x08', rest)
  | 't' :: rest => some ('\t', rest)
  | 'n' :: rest => some ('\n', rest)
  | 'f' :: rest => some ('\x0c', rest)
  | 'r' :: rest => some ('\r', rest)
  | '"' :: rest => some ('"', rest)
  | '\\' :: rest => some ('\\', rest)
  | 'u' :: rest => do
    if rest.length < 4 then none
    let c ← scalar? (← Text.digits? 16 (rest.take 4))
    some (c, rest.drop 4)
  | 'U' :: rest => do
    if rest.length < 8 then none
    let c ← scalar? (← Text.digits? 16 (rest.take 8))
    some (c, rest.drop 8)
  | _ => none

def consResult (c : Char) (r : Text × Text) : Text × Text := (c :: r.1, r.2)

/-- A basic string of one line, after its opening mark. -/
def basic? : Nat → Text → Option (Text × Text)
  | 0, _ => none
  | _, [] => none
  | fuel + 1, c :: rest =>
    if c = '"' then some ([], rest)
    else if c = '\\' then do
      let (d, rest) ← escape? rest
      (basic? fuel rest).map (consResult d)
    else if isPlain c then (basic? fuel rest).map (consResult c)
    else none

/-- A literal string of one line, after its opening mark. -/
def literal? : Text → Option (Text × Text)
  | [] => none
  | c :: rest =>
    if c = '\'' then some ([], rest)
    else if isPlain c then (literal? rest).map (consResult c)
    else none

/-- Three marks that close a string of several lines, with up to two marks of its own before them:
the marks that belong to the string, and what follows it. -/
def closing? (mark : Char) (t : Text) : Option (Text × Text) :=
  let run := min (t.takeWhile (· = mark)).length 5
  if run < 3 then none else some (List.replicate (run - 3) mark, t.drop run)

/-- Passes over spaces and ends of lines. -/
def skipBreaks : Text → Text
  | [] => []
  | '\n' :: rest => skipBreaks rest
  | '\r' :: '\n' :: rest => skipBreaks rest
  | c :: rest => if isSpace c then skipBreaks rest else c :: rest

/-- A string of several lines, after its opening marks: escapes count in a basic one only. An
escaped end of line drops the space up to the next character. -/
def multiline? (mark : Char) : Nat → Text → Option (Text × Text)
  | 0, _ => none
  | _, [] => none
  | fuel + 1, c :: rest =>
    if c = mark then
      match closing? mark (c :: rest) with
      | some r => some r
      | none => (multiline? mark fuel rest).map (consResult c)
    else if c = '\\' && mark = '"' then
      match newline? (skipSpace rest) with
      | some rest => multiline? mark fuel (skipBreaks rest)
      | none => do
        let (d, rest) ← escape? rest
        (multiline? mark fuel rest).map (consResult d)
    else match newline? (c :: rest) with
      | some rest => (multiline? mark fuel rest).map (consResult '\n')
      | none => if isPlain c then (multiline? mark fuel rest).map (consResult c) else none

/-- A string of several lines; an end of line right after its opening marks does not count. -/
def startMultiline? (mark : Char) (t : Text) : Option (Text × Text) :=
  multiline? mark (t.length + 1) ((newline? t).getD t)

/-- A string from its opening mark on. -/
def quote? : Text → Option (Text × Text)
  | '"' :: '"' :: '"' :: rest => startMultiline? '"' rest
  | '"' :: rest => basic? (rest.length + 1) rest
  | '\'' :: '\'' :: '\'' :: rest => startMultiline? '\'' rest
  | '\'' :: rest => literal? rest
  | _ => none

end RemoteTerminal.Toml
