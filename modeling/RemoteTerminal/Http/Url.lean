import RemoteTerminal.Http.Form

/-!
Urls of HTTP, read as generously as browsers read them: blanks around a url and line breaks in it
do not count, `\` is as good as `/`, an IPv4 address may be written in any of its numeric forms, and
`.` and `..` are taken out of the path. `Url.parse` reads names of servers in ASCII only, leaves an
IPv6 address as it is spelled, and passes over the name of a user before the server.
-/
namespace RemoteTerminal.Http

/-- Where a server is: under a name, at an IPv4 address, or at an address in brackets. -/
inductive Site where
  | name (name : Text)
  | address (bits : Nat)
  | bracketed (address : Text)
  deriving DecidableEq, Repr

/-- A url. `secure` tells whether its scheme is `https`. -/
structure Url where
  secure : Bool
  site : Site
  port : Nat
  path : Text
  query : Option Text
  fragment : Option Text
  deriving DecidableEq, Repr

namespace Url

def usualPort (secure : Bool) : Nat := if secure then 443 else 80

def greatestPort : Nat := 65535

/-- A url without the blanks around it and the line breaks and tabs in it. -/
def clean (t : Text) : Text :=
  let isEdge (c : Char) : Bool := c.toNat ≤ 0x20
  (((t.dropWhile isEdge).reverse.dropWhile isEdge).reverse).filter fun c =>
    c ≠ '\t' && c ≠ '\n' && c ≠ '\r'

def isSlash (c : Char) : Bool := c = '/' || c = '\\'

def endsPath (c : Char) : Bool := c = '?' || c = '#'

/-- A number of an IPv4 address: decimal, octal after `0`, or hexadecimal after `0x`. -/
def ipv4Number? (t : Text) : Option Nat :=
  let (base, digits) : Nat × Text := match t with
    | '0' :: 'x' :: rest | '0' :: 'X' :: rest => (16, rest)
    | '0' :: c :: rest => (8, c :: rest)
    | _ => (10, t)
  if t.isEmpty then none
  else if digits.isEmpty then some 0
  else (Text.digits? base digits).filter (· < Nat.pow 2 32)

/-- The parts of a name between its dots, without the empty one after a last dot. -/
def nameParts (name : Text) : List Text :=
  let parts := name.splitOn '.'
  if parts.getLast? = some [] ∧ 1 < parts.length then parts.dropLast else parts

/-- Whether a name has to be an IPv4 address: its last part is a number. -/
def endsInNumber (name : Text) : Bool :=
  match (nameParts name).getLast? with
  | none => false
  | some last => !last.isEmpty && (last.all Char.isDigit || (ipv4Number? last).isSome)

/-- The address that numbers make: each is a byte but the last, which fills what is left. -/
def ipv4Bits? (numbers : List Nat) : Option Nat :=
  let bytes := numbers.dropLast
  match numbers.getLast? with
  | none => none
  | some last =>
    if 3 < bytes.length ∨ bytes.any (255 < ·) ∨ Nat.pow 256 (4 - bytes.length) ≤ last then none
    else some (Text.ofDigits 256 bytes * Nat.pow 256 (4 - bytes.length) + last)

/-- A group of an IPv6 address: up to four hexadecimal digits. -/
def isGroup (t : Text) : Bool :=
  !t.isEmpty && t.length ≤ 4 && t.all fun c => (Text.digitValue? 16 c).isSome

/-- An IPv4 address in four decimal bytes, without leading zeros. -/
def isDottedBytes (t : Text) : Bool :=
  let parts := t.splitOn '.'
  parts.length = 4 && parts.all fun part =>
    (Text.digits? 10 part).any (· ≤ 255) && (part.head? ≠ some '0' || part.length = 1)

/-- How many groups stand in a part of an IPv6 address. An IPv4 address at its end counts for
two. -/
def groupCount? (t : Text) : Option Nat :=
  let parts := t.splitOn ':'
  if t.isEmpty then some 0
  else if parts.all isGroup then some parts.length
  else if parts.dropLast.all isGroup && parts.getLast?.any isDottedBytes then
    some (parts.length + 1)
  else none

/-- The parts before and after the first `::`. -/
def cutGap? : Text → Option (Text × Text)
  | ':' :: ':' :: rest => some ([], rest)
  | c :: rest => (cutGap? rest).map fun (before, after) => (c :: before, after)
  | [] => none

/-- Whether a text is an IPv6 address: eight groups, or fewer around one gap. -/
def isIpv6 (t : Text) : Bool :=
  match cutGap? t with
  | none => groupCount? t = some 8
  | some (before, after) =>
    match groupCount? before, groupCount? after with
    | some m, some n => !before.contains '.' && m + n < 8
    | _, _ => false

/-- Characters that no name of a server has. -/
def isForbidden (c : Char) : Bool :=
  c.toNat ≤ 0x20 || 0x7F ≤ c.toNat || "\"#%/:<>?@[\\]^`\x7b|\x7d".toList.contains c

def site? (t : Text) : Option Site :=
  if t.isEmpty then none
  else if t.head? = some '[' then
    let address := (t.drop 1).dropLast
    if t.getLast? = some ']' ∧ isIpv6 address then some (.bracketed address) else none
  else
    match Bytes.decode (Text.Percent.decode t) with
    | .error _ => none
    | .ok decoded =>
      let name := Text.asciiLower decoded
      if name.isEmpty ∨ name.any isForbidden then none
      else if endsInNumber name then
        ((nameParts name).mapM ipv4Number?).bind ipv4Bits? |>.map .address
      else some (.name name)

/-- A site and what stands after the `:` behind it. A colon in brackets belongs to the site. -/
def cutPort (inBrackets : Bool) : Text → Text × Option Text
  | [] => ([], none)
  | c :: rest =>
    if c = ':' && !inBrackets then ([], some rest)
    else
      let (site, port) := cutPort (if c = '[' then true else if c = ']' then false else inBrackets)
        rest
      (c :: site, port)

def port? (secure : Bool) (t : Text) : Option Nat :=
  if t.isEmpty then some (usualPort secure) else (Text.digits? 10 t).filter (· ≤ greatestPort)

/-- The spellings of a dot in a segment of a path. -/
def isDot (t : Text) : Bool := t = ['.'] || Text.asciiLower t = "%2e".toList

/-- Whether a segment means the segment before it. -/
def isParent (t : Text) : Bool :=
  match t with
  | '.' :: rest => isDot rest
  | a :: b :: c :: rest => isDot [a, b, c] && isDot rest
  | _ => false

/-- Whether a segment names a drive, which `..` does not leave. -/
def isDrive (t : Text) : Bool :=
  match t with
  | [letter, mark] => letter.isAlpha && (mark = ':' || mark = '|')
  | _ => false

/-- Printable ASCII but for the given characters. -/
def keeps (hidden : String) (c : Char) : Bool :=
  0x20 < c.toNat && c.toNat < 0x7F && !hidden.toList.contains c

def keptInPath : Char → Bool := keeps "\"#<>?`\x7b\x7d"
def keptInQuery : Char → Bool := keeps "\"#<>'"
def keptInFragment : Char → Bool := keeps "\"<>`"

/-- The segments of a path without its dots. `kept` holds those before, the last first. -/
def resolve (kept : List Text) : List Text → List Text
  | [] => kept.reverse
  | segment :: rest =>
    let close (kept : List Text) : List Text := if rest.isEmpty then [] :: kept else kept
    if isParent segment then
      resolve (close (if kept.head?.any isDrive then kept else kept.tail)) rest
    else if isDot segment then resolve (close kept) rest
    else resolve (Text.Percent.encode keptInPath segment :: kept) rest

/-- A path as it is asked for. -/
def normalPath (t : Text) : Text :=
  let slashed := t.map fun c => if isSlash c then '/' else c
  let segments := List.splitOn '/' (slashed.drop 1)
  '/' :: List.intercalate ['/'] (resolve [] segments)

/-- Whether a scheme is the secure one of the two that there are. -/
def secure? (scheme : Text) : Option Bool :=
  if Text.asciiLower scheme = "http".toList then some false
  else if Text.asciiLower scheme = "https".toList then some true
  else none

/-- Reads a url. -/
def parse (t : Text) : Option Url := do
  let (scheme, afterScheme) ← (clean t).cut? ':'
  let secure ← secure? scheme
  let body := afterScheme.dropWhile isSlash
  let endsAuthority (c : Char) : Bool := isSlash c || endsPath c
  let authority := body.takeWhile fun c => !endsAuthority c
  let afterAuthority := body.dropWhile fun c => !endsAuthority c
  let (server, portText) := cutPort false (authority.reverse.takeWhile (· ≠ '@')).reverse
  let site ← site? server
  let port ← port? secure (portText.getD [])
  let path := normalPath (afterAuthority.takeWhile fun c => !endsPath c)
  let tail := afterAuthority.dropWhile fun c => !endsPath c
  let (tail, fragment) := match Text.cut? '#' tail with
    | some (before, fragment) => (before, some (Text.Percent.encode keptInFragment fragment))
    | none => (tail, none)
  let query := match tail with
    | '?' :: query => some (Text.Percent.encode keptInQuery query)
    | _ => none
  some { secure, site, port, path, query, fragment }

/-- The bytes of an IPv4 address in decimal. -/
def dotted (bits : Nat) : Text :=
  List.intercalate ['.']
    ([24, 16, 8, 0].map fun shift => Text.decimal (bits / Nat.pow 2 shift % 256))

def siteText (u : Url) : Text :=
  match u.site with
  | .name name => name
  | .address bits => dotted bits
  | .bracketed address => '[' :: address ++ [']']

/-- The site with its port. -/
def authority (u : Url) : Text := u.siteText ++ ':' :: Text.decimal u.port

/-- The site, with its port unless that is the usual one. -/
def host (u : Url) : Text := if u.port = usualPort u.secure then u.siteText else u.authority

def scheme (u : Url) : Text := if u.secure then "https".toList else "http".toList

/-- The scheme and the server of a url. -/
def origin (u : Url) : Text := u.scheme ++ "://".toList ++ u.host

/-- What is asked of the server: the path and the query. -/
def target (u : Url) : Text :=
  u.path ++ match u.query with
    | some query => '?' :: query
    | none => []

/-- The whole url in its shortest spelling. -/
def text (u : Url) : Text :=
  u.origin ++ u.target ++
    match u.fragment with
    | some fragment => '#' :: fragment
    | none => []

/-- Reads a url as it stands in a document at the url `base`, from which it takes what it leaves
out. -/
def join (base : Url) (t : Text) : Option Url :=
  let t := clean t
  let directory := (base.path.reverse.dropWhile (· ≠ '/')).reverse
  match parse t, t with
  | some url, _ => some url
  | none, [] => some { base with fragment := none }
  | none, '#' :: _ => parse (base.origin ++ base.target ++ t)
  | none, '?' :: _ => parse (base.origin ++ base.path ++ t)
  | none, first :: rest =>
    if isSlash first then
      if rest.head?.any isSlash then parse (base.scheme ++ ':' :: t) else parse (base.origin ++ t)
    else if (t.takeWhile fun c => !isSlash c && !endsPath c).contains ':' then none
    else parse (base.origin ++ directory ++ t)

end Url
end RemoteTerminal.Http
