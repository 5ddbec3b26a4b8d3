import RemoteTerminal.Json.Numeral
import RemoteTerminal.Text.Bytes

/-!
Reading JSON text into a tree. Main definition: `parse`.
-/
namespace RemoteTerminal.Json

/-- The characters that may stand between the parts of a text. -/
def isSpace (c : Char) : Bool := c = ' ' || c = '\t' || c = '\n' || c = '\r'

def skipSpace (t : Text) : Text := t.dropWhile isSpace

/-- A string after its opening quotation mark, and what follows it. -/
structure Quote where
  leaf : Leaf Text
  rest : Text

namespace Quote

def lost (fault : Fault) : Quote := ⟨Leaf.lost fault, []⟩

/-- Puts characters before the string's text. -/
def cons (c : Char) (q : Quote) : Quote := { q with leaf.value := q.leaf.value.map (c :: ·) }

/-- The string with a fault of its text that does not hinder passing over it. -/
def spoil (fault : Fault) (q : Quote) : Quote := { q with leaf.value := .error fault }

/-- The number that four hexadecimal digits spell, the reason why there are none. Fewer than four
bytes left mean that the text ended early, whatever they are. -/
def hex (t : Text) : Except Fault Nat :=
  if (Bytes.encode (t.take 4)).length < 4 then .error .ended
  else match Text.digits? 16 (t.take 4) with
    | some n => .ok n
    | none => .error .malformed

def isLeading (n : Nat) : Bool := decide (0xD800 ≤ n) && decide (n ≤ 0xDBFF)

def isTrailing (n : Nat) : Bool := decide (0xDC00 ≤ n) && decide (n ≤ 0xDFFF)

def shortEscape? : Char → Option Char
  | '"' => some '"'
  | '\\' => some '\\'
  | '/' => some '/'
  | 'b' => some '\x08'
  | 'f' => some '\x0c'
  | 'n' => some '\n'
  | 'r' => some '\r'
  | 't' => some '\t'
  | _ => none

/-- What follows the first half of a pair: its second half, or the fault that it is missing. -/
def secondHalf (t : Text) : Except Fault Nat :=
  match t with
  | [] | ['\\'] => .error .ended
  | '\\' :: 'u' :: rest => do
    let n ← hex rest
    if isTrailing n then .ok n else .error .malformed
  | _ => .error .malformed

/-- Reads a string up to its closing quotation mark, in at most `fuel` steps. -/
def scan : Nat → Text → Quote
  | 0, _ => lost .ended
  | _, [] => lost .ended
  | fuel + 1, c :: rest =>
    if c = '"' then ⟨Leaf.sound [], rest⟩
    else if c = '\\' then
      match rest with
      | [] => lost .ended
      | 'u' :: after =>
        match hex after with
        | .error fault => lost fault
        | .ok n =>
          let after := after.drop 4
          if isTrailing n then (scan fuel after).spoil .malformed
          else if isLeading n then
            match secondHalf after with
            | .error fault => (scan fuel after).spoil fault
            | .ok m =>
              (scan fuel (after.drop 6)).cons
                (Char.ofNat (0x10000 + (n - 0xD800) * 0x400 + (m - 0xDC00)))
          else (scan fuel after).cons (Char.ofNat n)
      | e :: after =>
        match shortEscape? e with
        | some d => (scan fuel after).cons d
        | none => lost .malformed
    else if c.toNat < 0x20 then lost .malformed
    else (scan fuel rest).cons c

end Quote

/-- What follows a word, or how the text fails to hold it. -/
def word : Text → Text → Except Fault Text
  | [], t => .ok t
  | _ :: _, [] => .error .ended
  | c :: cs, d :: ds => if c = d then word cs ds else .error .malformed

def wordNode (rest t : Text) (node : Node) : Node × Text :=
  match word rest t with
  | .ok after => (node, after)
  | .error fault => (.broken fault, [])

/-- Whether a tree can be passed over, so that what follows it is met at all. -/
def passable (node : Node) : Bool :=
  match node.skip with
  | .ok _ => true
  | .error _ => false

/-- What follows an item: the next item, the end, or a fault. -/
inductive After where
  | next (rest : Text)
  | done (rest : Text)
  | fault (fault : Fault)

def afterPart (closing : Char) (t : Text) : After :=
  match skipSpace t with
  | [] => .fault .ended
  | c :: rest =>
    if c = closing then .done rest
    else if c = ',' then .next rest
    else .fault .malformed

mutual

/-- Reads a value, in at most `fuel` steps. -/
def parseValue : Nat → Text → Node × Text
  | 0, _ => (.broken .malformed, [])
  | fuel + 1, t =>
    match skipSpace t with
    | [] => (.broken .ended, [])
    | 'n' :: rest => wordNode "ull".toList rest .null
    | 't' :: rest => wordNode "rue".toList rest (.boolean true)
    | 'f' :: rest => wordNode "alse".toList rest (.boolean false)
    | '"' :: rest =>
      let q := Quote.scan (rest.length + 1) rest
      (.text q.leaf, q.rest)
    | '[' :: rest =>
      match skipSpace rest with
      | [] => (.list [] (.error .ended), [])
      | ']' :: after => (.list [] (.ok ()), after)
      | start =>
        let (items, close, after) := parseItems fuel start
        (.list items close, after)
    | '\x7b' :: rest =>
      match skipSpace rest with
      | [] => (.record [] (.error .ended), [])
      | '\x7d' :: after => (.record [] (.ok ()), after)
      | start =>
        let (members, close, after) := parseMembers fuel start
        (.record members close, after)
    | c :: rest =>
      if c = '-' || c.isDigit then
        let (leaf, after) := Numeral.scan (c :: rest)
        (.number leaf, after)
      else (.broken .malformed, [])

/-- Reads items, at least one. -/
def parseItems : Nat → Text → List Node × Except Fault Unit × Text
  | 0, _ => ([], .error .malformed, [])
  | fuel + 1, t =>
    let (item, rest) := parseValue fuel t
    if !passable item then ([item], .error .malformed, [])
    else match afterPart ']' rest with
      | .done rest => ([item], .ok (), rest)
      | .fault fault => ([item], .error fault, [])
      | .next rest =>
        let (items, close, after) := parseItems fuel rest
        (item :: items, close, after)

/-- Reads members, at least one. -/
def parseMembers : Nat → Text → List (Leaf Text × Node) × Except Fault Unit × Text
  | 0, _ => ([], .error .malformed, [])
  | fuel + 1, t =>
    match skipSpace t with
    | [] => ([], .error .ended, [])
    | '"' :: rest =>
      let q := Quote.scan (rest.length + 1) rest
      match q.leaf.skip, skipSpace q.rest with
      | .error fault, _ => ([(q.leaf, .broken fault)], .error fault, [])
      | .ok _, [] => ([(q.leaf, .broken .ended)], .error .ended, [])
      | .ok _, ':' :: rest =>
        let (value, rest) := parseValue fuel rest
        if !passable value then ([(q.leaf, value)], .error .malformed, [])
        else match afterPart '\x7d' rest with
          | .done rest => ([(q.leaf, value)], .ok (), rest)
          | .fault fault => ([(q.leaf, value)], .error fault, [])
          | .next rest =>
            let (members, close, after) := parseMembers fuel rest
            ((q.leaf, value) :: members, close, after)
      | .ok _, _ => ([(q.leaf, .broken .malformed)], .error .malformed, [])
    | _ => ([], .error .malformed, [])

end

/-- Reads a whole text. -/
def parse (t : Text) : Document :=
  let (root, rest) := parseValue (2 * t.length + 2) t
  ⟨root, if (skipSpace rest).isEmpty then .ok () else .error .malformed⟩

end RemoteTerminal.Json
