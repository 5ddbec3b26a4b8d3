import RemoteTerminal.Http.Exchange
import RemoteTerminal.Proofs.Text.Digits
import RemoteTerminal.Proofs.Text.Utf8
import Mathlib.Data.List.Basic

/-!
# Answers read back

A call is `Answered` if what comes back for it holds a final answer to its end: a status, and a
body. So is every call to which a server writes an answer.

* `line?_append`, `header?_encode`, `headers?_encode`: lines and headers come back.
* `head?_write`: so does the head of an answer, its status and all that the server says in it.
* `answered_write`: so every status and every body are those of some answer.
-/

namespace RemoteTerminal.Http

/-- What comes back for a call holds a final answer to its end, after those that may come before it,
with no head longer than a client takes. An answer that points to another place is none. -/
structure Answered (call : Call) (content : Bytes) (status : Nat) (body : Bytes) : Prop where
  whole : ∃ head rest framing, finalHead? (content.length + 1) content = some (head, rest) ∧
    head.status = status ∧ framing? call.method head = some framing ∧
    framing.body? rest = some body ∧ (status ∈ redirects → head.values "location" = [])
  final : 200 ≤ status

/-! ## Lines -/

/-- Characters of one byte each, none of them for control. -/
def Plain (t : Text) : Prop := ∀ c ∈ t, 32 ≤ c.toNat ∧ c.toNat < 127

theorem Plain.append {a b : Text} (ha : Plain a) (hb : Plain b) : Plain (a ++ b) :=
  List.forall_mem_append.mpr ⟨ha, hb⟩

/-- The byte of a character that has one. -/
def byteOf (c : Char) : UInt8 := Bytes.byte c.toNat

theorem toNat_byteOf {c : Char} (small : c.toNat < 127) : (byteOf c).toNat = c.toNat :=
  Bytes.toNat_byte (by omega)

theorem charOf_byteOf {c : Char} (small : c.toNat < 127) : charOf (byteOf c) = c := by
  rw [charOf, toNat_byteOf small, Char.ofNat_toNat]

theorem encode_plain {t : Text} (plain : Plain t) : Bytes.encode t = t.map byteOf := by
  induction t with
  | nil => rfl
  | cons c t ih =>
    obtain ⟨first, others⟩ := List.forall_mem_cons.mp plain
    have small : c.toNat < 0x80 := by omega
    rw [List.map_cons, ← ih others]
    simp only [Bytes.encode, List.flatMap_cons, Bytes.ofChar, if_pos small, List.cons_append,
      List.nil_append, byteOf]

theorem length_encode {t : Text} (plain : Plain t) : (Bytes.encode t).length = t.length := by
  rw [encode_plain plain, List.length_map]

theorem encode_append (a b : Text) : Bytes.encode (a ++ b) = Bytes.encode a ++ Bytes.encode b :=
  List.flatMap_append

theorem asText_encode {t : Text} (plain : Plain t) : asText (Bytes.encode t) = t := by
  rw [encode_plain plain, asText, List.map_map]
  conv_rhs => rw [← List.map_id t]
  exact List.map_congr_left fun c mem => charOf_byteOf (plain c mem).2

/-- The bytes of plain text. -/
theorem toNat_of_mem_encode {t : Text} (plain : Plain t) {b : UInt8} (mem : b ∈ Bytes.encode t) :
    ∃ c ∈ t, byteOf c = b ∧ b.toNat = c.toNat := by
  rw [encode_plain plain] at mem
  obtain ⟨c, listed, rfl⟩ := List.mem_map.mp mem
  exact ⟨c, listed, rfl, toNat_byteOf (plain c listed).2⟩

theorem isTextByte_of_mem_encode {t : Text} (plain : Plain t) {b : UInt8}
    (mem : b ∈ Bytes.encode t) : isTextByte b = true := by
  obtain ⟨c, mem, -, value⟩ := toNat_of_mem_encode plain mem
  obtain ⟨least, most⟩ := plain c mem
  have printed : 32 ≤ b := UInt8.le_iff_toNat_le.mpr (value ▸ least)
  have other : b ≠ 127 := by
    rintro rfl
    exact absurd value (by simp; omega)
  simp [isTextByte, printed, other]

theorem lineFeed_not_mem {t : Text} (plain : Plain t) : 10 ∉ Bytes.encode t := by
  intro mem
  have printed := isTextByte_of_mem_encode plain mem
  exact absurd printed (by decide)

/-- A line is read up to its end. -/
theorem line?_append {line : Bytes} (free : 10 ∉ line) (rest : Bytes) :
    line? (line ++ 13 :: 10 :: rest) = some (line, rest) := by
  have inside : ∀ b ∈ line ++ [13], decide (b ≠ 10) = true := by
    intro b mem
    rw [decide_eq_true_eq]
    rintro rfl
    rcases List.mem_append.mp mem with early | late
    · exact free early
    · exact absurd (List.mem_singleton.mp late) (by decide)
  have shape : line ++ 13 :: 10 :: rest = (line ++ [13]) ++ 10 :: rest := by simp
  rw [shape, line?, List.takeWhile_append_of_pos inside, List.dropWhile_append_of_pos inside]
  simp

/-! ## Headers -/

/-- A name of a header. -/
structure Token (t : Text) : Prop where
  some_char : t ≠ []
  allowed : t.all isTokenChar = true

theorem range_of_alphanum {c : Char} (symbol : c.isAlphanum = true) :
    33 ≤ c.toNat ∧ c.toNat < 127 := by
  delta Char.isAlphanum Char.isAlpha Char.isUpper Char.isLower Char.isDigit at symbol
  simp only [Bool.or_eq_true, Bool.and_eq_true, decide_eq_true_eq, UInt32.le_iff_toNat_le] at symbol
  change ((65 ≤ c.toNat ∧ c.toNat ≤ 90) ∨ 97 ≤ c.toNat ∧ c.toNat ≤ 122) ∨
    48 ≤ c.toNat ∧ c.toNat ≤ 57 at symbol
  omega

theorem range_of_tokenChar {c : Char} (allowed : isTokenChar c = true) :
    33 ≤ c.toNat ∧ c.toNat < 127 := by
  have signs : ∀ s ∈ "!#$%&'*+-.^_`|~".toList, 33 ≤ s.toNat ∧ s.toNat < 127 := by simp
  rw [isTokenChar, Bool.or_eq_true] at allowed
  rcases allowed with symbol | sign
  · exact range_of_alphanum symbol
  · exact signs c (List.contains_iff_mem.mp sign)

theorem Token.plain {t : Text} (token : Token t) : Plain t := by
  intro c mem
  have range := range_of_tokenChar (List.all_eq_true.mp token.allowed c mem)
  omega

/-- A header that is read back as it is: its value has no blank at an end. -/
structure Sound (header : Text × Text) : Prop where
  named : Token header.1
  plain : Plain header.2
  starts : header.2.head? ≠ some ' '
  ends : header.2.getLast? ≠ some ' '

/-- A header as it is read. -/
def asRead (header : Text × Text) : Header :=
  ⟨Text.asciiLower header.1, Bytes.encode header.2⟩

theorem not_blank_of_ne {c : Char} (least : 32 ≤ c.toNat) (most : c.toNat < 127) (other : c ≠ ' ') :
    isBlankByte (byteOf c) = false := by
  have value := toNat_byteOf most
  have code : c.toNat ≠ 32 := fun same => other (Char.toNat_inj.mp same)
  simp only [isBlankByte, Bool.or_eq_false_iff, decide_eq_false_iff_not]
  constructor
  · intro same
    rw [same] at value
    simp at value
    omega
  · intro same
    rw [same] at value
    exact code value.symm

theorem dropWhile_blank {bytes : Bytes}
    (starts : ∀ b, bytes.head? = some b → isBlankByte b = false) :
    bytes.dropWhile isBlankByte = bytes := by
  cases bytes with
  | nil => rfl
  | cons b rest => rw [List.dropWhile_cons, starts b rfl, if_neg (by simp)]

theorem trimBlanks_encode {t : Text} (plain : Plain t) (starts : t.head? ≠ some ' ')
    (ends : t.getLast? ≠ some ' ') : trimBlanks (Bytes.encode t) = Bytes.encode t := by
  have solid {c : Char} (mem : c ∈ t) (other : c ≠ ' ') : isBlankByte (byteOf c) = false :=
    not_blank_of_ne (plain c mem).1 (plain c mem).2 other
  have front : (t.map byteOf).dropWhile isBlankByte = t.map byteOf := by
    refine dropWhile_blank fun b first => ?_
    rw [List.head?_map] at first
    obtain ⟨c, at_front, rfl⟩ := Option.map_eq_some_iff.mp first
    exact solid (List.mem_of_head? at_front) fun blank => starts (blank ▸ at_front)
  have back : (t.map byteOf).reverse.dropWhile isBlankByte = (t.map byteOf).reverse := by
    refine dropWhile_blank fun b last => ?_
    rw [List.head?_reverse, List.getLast?_map] at last
    obtain ⟨c, at_end, rfl⟩ := Option.map_eq_some_iff.mp last
    exact solid (List.mem_of_getLast? at_end) fun blank => ends (blank ▸ at_end)
  rw [encode_plain plain, trimBlanks, front, back, List.reverse_reverse]

theorem trimBlanks_space (bytes : Bytes) : trimBlanks (32 :: bytes) = trimBlanks bytes := rfl

/-- A header comes back. -/
theorem header?_encode {header : Text × Text} (sound : Sound header) :
    header? (Bytes.encode (header.1 ++ ": ".toList ++ header.2)) = some (asRead header) := by
  obtain ⟨name, value⟩ := header
  obtain ⟨named, plain, starts, ends⟩ := sound
  have inside : ∀ b ∈ Bytes.encode name, isTokenByte b = true := by
    intro b mem
    obtain ⟨c, listed, rfl, -⟩ := toNat_of_mem_encode named.plain mem
    rw [isTokenByte, charOf_byteOf (named.plain c listed).2]
    exact List.all_eq_true.mp named.allowed c listed
  have nonempty : (Bytes.encode name).isEmpty = false := by
    rw [encode_plain named.plain, List.isEmpty_eq_false_iff, ne_eq, List.map_eq_nil_iff]
    exact named.some_char
  have printed : (32 :: Bytes.encode value).all isTextByte = true := by
    rw [List.all_cons, List.all_eq_true.mpr fun b mem => isTextByte_of_mem_encode plain mem]
    rfl
  have shape : Bytes.encode (name ++ ": ".toList ++ value) =
      Bytes.encode name ++ 58 :: 32 :: Bytes.encode value := by
    rw [encode_append, encode_append, List.append_assoc]
    rfl
  rw [shape, header?, List.takeWhile_append_of_pos inside, List.dropWhile_append_of_pos inside]
  show (if (Bytes.encode name ++ []).isEmpty || !(32 :: Bytes.encode value).all isTextByte then none
    else some (Header.mk (Text.asciiLower (asText (Bytes.encode name ++ [])))
      (trimBlanks (32 :: Bytes.encode value)))) = _
  rw [List.append_nil, nonempty, printed, asText_encode named.plain, trimBlanks_space,
    trimBlanks_encode plain starts ends]
  rfl

/-- The lines of headers, up to the empty line behind them. -/
def linesOf (headers : List (Text × Text)) : Bytes :=
  Bytes.encode (headers.flatMap Response.headerLine ++ "\r\n".toList)

theorem linesOf_cons (header : Text × Text) (headers : List (Text × Text)) :
    linesOf (header :: headers) =
      Bytes.encode (header.1 ++ ": ".toList ++ header.2) ++ 13 :: 10 :: linesOf headers := by
  rw [linesOf, List.flatMap_cons, List.append_assoc, encode_append, Response.headerLine,
    encode_append, List.append_assoc]
  rfl

theorem Sound.plain_line {header : Text × Text} (sound : Sound header) :
    Plain (header.1 ++ ": ".toList ++ header.2) := by
  have colon : Plain ": ".toList := by simp [Plain]
  exact (sound.named.plain.append colon).append sound.plain

theorem length_linesOf_cons {header : Text × Text} (sound : Sound header)
    (headers : List (Text × Text)) :
    (linesOf (header :: headers)).length =
      header.1.length + header.2.length + 4 + (linesOf headers).length := by
  rw [linesOf_cons, List.length_append, length_encode sound.plain_line]
  simp only [List.length_append, List.length_cons, String.length_toList]
  have colon : ": ".length = 2 := rfl
  omega

/-- Headers come back, as many as there is room for. -/
theorem headers?_linesOf {headers : List (Text × Text)} (sound : ∀ header ∈ headers, Sound header)
    {room : Nat} (fits : headers.length ≤ room) (rest : Bytes) :
    headers? room (linesOf headers ++ rest) = some (headers.map asRead, rest) := by
  induction headers generalizing room with
  | nil =>
    have empty : line? (linesOf [] ++ rest) = some ([], rest) := line?_append List.not_mem_nil rest
    rw [headers?.eq_def, empty]
    rfl
  | cons header headers ih =>
    obtain ⟨first, others⟩ := List.forall_mem_cons.mp sound
    obtain ⟨room, rfl⟩ : ∃ n, room = n + 1 := by
      refine ⟨room - 1, ?_⟩
      rw [List.length_cons] at fits
      omega
    have line := line?_append (lineFeed_not_mem first.plain_line) (linesOf headers ++ rest)
    have nonempty : (Bytes.encode (header.1 ++ ": ".toList ++ header.2)).isEmpty = false := by
      rw [encode_plain first.plain_line]
      simp
    have fits' : headers.length ≤ room := by simpa using fits
    rw [linesOf_cons, List.append_assoc, List.cons_append, List.cons_append, headers?.eq_def, line]
    simp only [Option.bind_eq_bind, Option.bind_some]
    rw [nonempty, header?_encode first, ih others fits']
    rfl

/-! ## Heads -/

theorem plain_decimal (n : Nat) : Plain (Text.decimal n) := by
  intro c mem
  have digit : c.isDigit = true := Nat.isDigit_of_mem_toDigits (by decide) (by decide) mem
  have range := range_of_alphanum (c := c) (by rw [Char.isAlphanum, digit, Bool.or_true])
  omega

theorem length_decimal {n : Nat} (least : 100 ≤ n) (most : n ≤ 999) :
    (Text.decimal n).length = 3 := by
  have short : (Text.decimal n).length ≤ 3 :=
    (Nat.length_toDigits_le_iff (by decide) (by decide)).mpr (by omega)
  have long : ¬ (Text.decimal n).length ≤ 2 := fun shorter =>
    absurd ((Nat.length_toDigits_le_iff (by decide) (by decide)).mp shorter) (by omega)
  omega

/-- The first line of an answer. -/
def statusText (status : Nat) : Text :=
  "HTTP/1.1 ".toList ++ (Text.decimal status ++ " Status".toList)

theorem plain_statusText (status : Nat) : Plain (statusText status) := by
  have version : Plain "HTTP/1.1 ".toList := by simp [Plain]
  have reason : Plain " Status".toList := by simp [Plain]
  exact version.append ((plain_decimal status).append reason)

theorem length_statusText {status : Nat} (least : 100 ≤ status) (most : status ≤ 999) :
    (statusText status).length = 19 := by
  -- Stated part by part: the length of a literal is not to be unfolded beside that of a sum.
  have version : "HTTP/1.1 ".toList.length = 9 := rfl
  have reason : " Status".toList.length = 7 := rfl
  have digits := length_decimal least most
  have later := @List.length_append _ (Text.decimal status) " Status".toList
  have whole : (statusText status).length = "HTTP/1.1 ".toList.length +
      (Text.decimal status ++ " Status".toList).length := List.length_append
  omega

theorem statusLine?_encode {status : Nat} (least : 100 ≤ status) (most : status ≤ 999) :
    statusLine? (Bytes.encode (statusText status)) = some (false, status) := by
  have nine : (Bytes.encode "HTTP/1.1 ".toList).length = 9 := rfl
  have three : (Bytes.encode (Text.decimal status)).length = 3 := by
    rw [length_encode (plain_decimal status), length_decimal least most]
  have shape : Bytes.encode (statusText status) = Bytes.encode "HTTP/1.1 ".toList ++
      (Bytes.encode (Text.decimal status) ++ Bytes.encode " Status".toList) :=
    (encode_append _ _).trans (congrArg _ (encode_append _ _))
  have start : (Bytes.encode (statusText status)).take 9 = Bytes.encode "HTTP/1.1 ".toList := by
    rw [shape, List.take_left' nine]
  have rest : (Bytes.encode (statusText status)).drop 9 =
      Bytes.encode (Text.decimal status) ++ Bytes.encode " Status".toList := by
    rw [shape, List.drop_left' nine]
  have reason : (Bytes.encode (statusText status)).drop 12 = Bytes.encode " Status".toList := by
    rw [← List.drop_drop (i := 3) (j := 9), rest, List.drop_left' three]
  rw [statusLine?, start, reason, rest, List.take_left' three, asText_encode (plain_decimal status)]
  have version : asText (Bytes.encode "HTTP/1.1 ".toList) =
      ['H', 'T', 'T', 'P', '/', '1', '.', '1', ' '] := rfl
  rw [version]
  show (do
    guard ((Text.decimal status).length = 3)
    let status ← Text.digits? 10 (Text.decimal status)
    guard (100 ≤ status)
    some (false, status)) = _
  rw [length_decimal least most, Text.digits?_decimal]
  show (do
    guard (100 ≤ status)
    some (false, status)) = _
  rw [guard, if_pos least]
  rfl

namespace Response

/-- What the head of an answer tells: the headers that the server gives it, and two of its own. -/
def told (r : Response) : List (Text × Text) :=
  let length :=
    if statesLength r.status then [("Content-Length".toList, Text.decimal r.body.length)] else []
  r.headers ++ length ++ [("Connection".toList, "close".toList)]

/-- An answer that says of its body what is true of it, and points to no other place. -/
structure Regular (r : Response) : Prop where
  final : 200 ≤ r.status
  three_digits : r.status ≤ 999
  sound : ∀ header ∈ r.headers, Sound header
  few : r.headers.length + 2 ≤ greatestHeaderCount
  unframed : ∀ header ∈ r.headers, Text.asciiLower header.1 ≠ "transfer-encoding".toList ∧
    Text.asciiLower header.1 ≠ "content-length".toList
  placeless : r.status ∈ redirects →
    ∀ header ∈ r.headers, Text.asciiLower header.1 ≠ "location".toList
  unstated : r.length = none
  bounded : r.body.length < lengthBound
  brief : r.write.length ≤ r.body.length + greatestHead

variable {r : Response}

theorem write_eq (unstated : r.length = none) : r.write =
    Bytes.encode (statusText r.status) ++ 13 :: 10 :: (linesOf r.told ++ r.body) := by
  have shape (version digits reason lines : Text) :
      version ++ digits ++ (reason ++ ['\r', '\n']) ++ lines ++ ['\r', '\n'] =
        (version ++ (digits ++ reason)) ++ (['\r', '\n'] ++ (lines ++ ['\r', '\n'])) := by
    simp only [List.append_assoc]
  have stated : r.length.getD r.body.length = r.body.length := by rw [unstated, Option.getD_none]
  have told : r.headers ++ (if statesLength r.status then
      [("Content-Length".toList, Text.decimal (r.length.getD r.body.length))] else []) ++
      [("Connection".toList, "close".toList)] = r.told := by
    rw [stated, Response.told]
  show Bytes.encode ("HTTP/1.1 ".toList ++ Text.decimal r.status ++
    (" Status".toList ++ ['\r', '\n']) ++ List.flatMap headerLine _ ++ ['\r', '\n']) ++ r.body = _
  rw [told, shape, encode_append, encode_append, List.append_assoc, List.append_assoc]
  rfl

theorem sound_length (n : Nat) : Sound ("Content-Length".toList, Text.decimal n) := by
  have solid : ∀ c ∈ Text.decimal n, c ≠ ' ' := by
    rintro c mem rfl
    exact absurd (Nat.isDigit_of_mem_toDigits (by decide) (by decide) mem) (by decide)
  refine ⟨⟨by simp, rfl⟩, plain_decimal n, ?_, ?_⟩
  · exact fun first => solid ' ' (List.mem_of_head? first) rfl
  · exact fun last => solid ' ' (List.mem_of_getLast? last) rfl

theorem sound_close : Sound ("Connection".toList, "close".toList) :=
  ⟨⟨by simp, rfl⟩, by simp [Plain], by simp, by simp⟩

theorem sound_told (sound : ∀ header ∈ r.headers, Sound header) :
    ∀ header ∈ r.told, Sound header := by
  refine List.forall_mem_append.mpr ⟨List.forall_mem_append.mpr ⟨sound, ?_⟩, ?_⟩
  · split
    · exact List.forall_mem_singleton.mpr (sound_length _)
    · exact List.forall_mem_nil _
  · exact List.forall_mem_singleton.mpr sound_close

/-- An answer of which the server says nothing else is regular. -/
theorem regular_bare {status : Nat} {body : Bytes} (final : 200 ≤ status)
    (three_digits : status ≤ 999) (bounded : body.length < lengthBound) :
    Regular { status, body } where
  final := final
  three_digits := three_digits
  sound := List.forall_mem_nil _
  few := by simp [greatestHeaderCount]
  unframed := List.forall_mem_nil _
  placeless _ := List.forall_mem_nil _
  unstated := rfl
  bounded := bounded
  brief := by
    have first := length_statusText (show 100 ≤ status by omega) three_digits
    have size : (Text.decimal body.length).length ≤ 20 := by
      refine (Nat.length_toDigits_le_iff (by decide) (by decide)).mpr ?_
      refine Nat.lt_of_lt_of_le bounded ?_
      simp [lengthBound]
    have lines : (linesOf (told { status, body })).length ≤ 100 := by
      have closing := length_linesOf_cons sound_close []
      have stating := length_linesOf_cons (sound_length body.length)
        [("Connection".toList, "close".toList)]
      have ending : (linesOf []).length = 2 := rfl
      have names : "Content-Length".toList.length = 14 ∧ "Connection".toList.length = 10 ∧
        "close".toList.length = 5 := ⟨rfl, rfl, rfl⟩
      dsimp only at closing stating
      rw [told]
      split
      · show (linesOf [(_, Text.decimal body.length), _]).length ≤ 100
        omega
      · show (linesOf [_]).length ≤ 100
        omega
    rw [write_eq rfl, List.length_append, length_encode (plain_statusText status)]
    simp only [List.length_cons, List.length_append, greatestHead]
    omega

/-- A head is put together from its lines. -/
theorem head?_of_lines {bytes line rest later : Bytes} {early : Bool} {status : Nat}
    {headers : List Header} (first : line? (dropEmptyLines bytes) = some (line, rest))
    (stated : statusLine? line = some (early, status))
    (others : headers? greatestHeaderCount rest = some (headers, later))
    (brief : bytes.length ≤ later.length + greatestHead) :
    head? bytes = some (⟨early, status, headers⟩, later) := by
  rw [head?, first]
  show (statusLine? line).bind _ = _
  rw [stated]
  show (headers? greatestHeaderCount rest).bind _ = _
  rw [others, Option.bind_some]
  dsimp only
  rw [guard, if_pos brief]
  rfl

/-- The head comes back. -/
theorem head?_write (regular : r.Regular) :
    head? r.write = some (⟨false, r.status, r.told.map asRead⟩, r.body) := by
  have few : r.told.length ≤ greatestHeaderCount := by
    have := regular.few
    rw [told, List.length_append, List.length_append]
    split <;> simp <;> omega
  have final := regular.final
  have lines := line?_append (lineFeed_not_mem (plain_statusText r.status))
    (linesOf r.told ++ r.body)
  apply head?_of_lines _ (statusLine?_encode (by omega) regular.three_digits)
    (headers?_linesOf (sound_told regular.sound) few r.body) regular.brief
  rw [write_eq regular.unstated]
  exact lines

/-! ## Bodies -/

/-- The head of an answer as it is read. -/
def head (r : Response) : Head := ⟨false, r.status, r.told.map asRead⟩

theorem values_eq (name : String) : r.head.values name =
    (r.told.filter fun header => Text.asciiLower header.1 = name.toList).map fun header =>
      Bytes.encode header.2 := by
  rw [head, Head.values, List.filter_map, List.map_map]
  rfl

theorem filter_absent {headers : List (Text × Text)} {name : Text}
    (absent : ∀ header ∈ headers, Text.asciiLower header.1 ≠ name) :
    headers.filter (fun header => Text.asciiLower header.1 = name) = [] := by
  refine List.filter_eq_nil_iff.mpr fun header mem => ?_
  simpa using absent header mem

/-- Of two names, a head tells only what the server says. -/
theorem values_given {name : String} (absent : ∀ header ∈ r.headers,
    Text.asciiLower header.1 ≠ name.toList) (other : "content-length".toList ≠ name.toList)
    (other' : "connection".toList ≠ name.toList) : r.head.values name = [] := by
  have all : ∀ header ∈ r.told, Text.asciiLower header.1 ≠ name.toList := by
    refine List.forall_mem_append.mpr ⟨List.forall_mem_append.mpr ⟨absent, ?_⟩, ?_⟩
    · split
      · exact List.forall_mem_singleton.mpr other
      · exact List.forall_mem_nil _
    · exact List.forall_mem_singleton.mpr other'
  rw [values_eq, filter_absent all]
  rfl

theorem values_length (regular : r.Regular) (states : statesLength r.status = true) :
    r.head.values "content-length" = [Bytes.encode (Text.decimal r.body.length)] := by
  have absent := filter_absent fun header mem => (regular.unframed header mem).2
  rw [values_eq, told, if_pos states, List.filter_append, List.filter_append, absent]
  rfl

theorem statedLength?_decimal {n : Nat} (bounded : n < lengthBound) :
    statedLength? [Bytes.encode (Text.decimal n)] = some n := by
  have sound := sound_length n
  have whole : (Bytes.encode (Text.decimal n)).splitOn 44 = [Bytes.encode (Text.decimal n)] := by
    refine List.splitOn_eq_singleton fun mem => ?_
    obtain ⟨c, listed, made, -⟩ := toNat_of_mem_encode sound.plain mem
    have comma : c = charOf 44 := by
      rw [← made]
      exact (charOf_byteOf (sound.plain c listed).2).symm
    have digit : c.isDigit = true := Nat.isDigit_of_mem_toDigits (by decide) (by decide) listed
    rw [comma] at digit
    exact absurd digit (by decide)
  rw [statedLength?, List.flatMap_singleton, whole, List.mapM_cons,
    trimBlanks_encode sound.plain sound.starts sound.ends, asText_encode sound.plain,
    Text.digits?_decimal]
  show (if [].all (· = n) ∧ n < lengthBound then some n else none) = some n
  rw [if_pos ⟨rfl, bounded⟩]

/-- Whether the answer to a call has no body, whatever its head says. -/
def bodiless (method : Text) (status : Nat) : Bool :=
  !statesLength status || method = "HEAD".toList ||
    (method = "CONNECT".toList && isSuccess status)

theorem framing?_head (regular : r.Regular) (method : Text) : framing? method r.head =
    some (if bodiless method r.status then .empty else .length r.body.length) := by
  have least := regular.final
  have codings : r.head.values "transfer-encoding" = [] :=
    values_given (fun header mem => (regular.unframed header mem).1) (by simp) (by simp)
  have status : r.head.status = r.status := rfl
  by_cases states : statesLength r.status = true
  · have lengths := values_length regular states
    have other : ¬ (r.status = 101 ∨ r.status = 204 ∨ r.status = 304) := by
      simp only [statesLength, Bool.and_eq_true, decide_eq_true_eq] at states
      omega
    have method_only : (method = "HEAD".toList ∨
        (method = "CONNECT".toList ∧ (200 ≤ r.status && r.status < 300) = true)) ↔
        bodiless method r.status = true := by
      simp only [bodiless, states, isSuccess, Bool.not_true, Bool.false_or, Bool.or_eq_true,
        Bool.and_eq_true, decide_eq_true_eq]
    simp only [framing?, status, codings, lengths, if_neg other, List.getLast?_nil,
      List.isEmpty_cons, statedLength?_decimal regular.bounded, method_only]
    split <;> rfl
  · have other : r.status = 101 ∨ r.status = 204 ∨ r.status = 304 := by
      simp only [statesLength, Bool.and_eq_true, decide_eq_true_eq] at states
      omega
    rw [framing?, status, if_pos other, bodiless, Bool.not_eq_true _ |>.mp states]
    rfl

/-- **An answer is read back**: what a server writes for a call is an answer to it, of the status
and the body that the server gives it, but for the body of an answer that has none. -/
theorem Regular.answered_write (regular : r.Regular) (call : Call) :
    Answered call r.write r.status (if bodiless call.method r.status then [] else r.body) where
  whole := by
    refine ⟨r.head, r.body, _, ?_, rfl, framing?_head regular call.method, ?_, ?_⟩
    · have final : r.head.interim = false := by
        have least := regular.final
        have late : ¬ r.status < 200 := by omega
        simp [Head.interim, head, late]
      rw [finalHead?, head?_write regular]
      show (if r.head.interim then _ else some (r.head, r.body)) = _
      rw [final]
      rfl
    · split
      · rfl
      · rw [Framing.body?, if_neg (by omega), List.take_length]
    · intro redirect
      exact values_given (regular.placeless redirect) (by simp) (by simp)
  final := regular.final

end Response
end RemoteTerminal.Http
