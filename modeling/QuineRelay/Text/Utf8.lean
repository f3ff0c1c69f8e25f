import QuineRelay.Text.Basic

/-!
# UTF-8

The byte form of text. `encode` writes each scalar value in one to four bytes;
`decode` accepts exactly the well-formed sequences of the Unicode standard, with
no overlong forms, no surrogates and nothing above U+10FFFF, and otherwise
reports where the first fault lies and how many bytes it covers. `decodeLossy`
never fails: each fault becomes one replacement character.

Both decoders are built from `scan`, which reads one character. A first byte
fixes how many continuation bytes follow and bounds the second byte; those
bounds are what rules out the ill-formed sequences.

The bytes of a text may be cut between two characters and nowhere else. Such a
boundary is known by the byte after it, which does not continue a character.
-/

namespace QuineRelay.Utf8

/-- The bytes of one character. -/
def encodeChar (c : Char) : Bytes :=
  let n := c.toNat
  if n < 0x80 then [UInt8.ofNat n]
  else if n < 0x800 then [UInt8.ofNat (0xC0 + n / 0x40), UInt8.ofNat (0x80 + n % 0x40)]
  else if n < 0x10000 then
    [UInt8.ofNat (0xE0 + n / 0x1000), UInt8.ofNat (0x80 + n / 0x40 % 0x40),
      UInt8.ofNat (0x80 + n % 0x40)]
  else
    [UInt8.ofNat (0xF0 + n / 0x40000), UInt8.ofNat (0x80 + n / 0x1000 % 0x40),
      UInt8.ofNat (0x80 + n / 0x40 % 0x40), UInt8.ofNat (0x80 + n % 0x40)]

/-- The bytes of a text. -/
def encode (text : Text) : Bytes :=
  text.flatMap encodeChar

/-- Number of bytes that `encodeChar` writes. -/
@[inline] def charSize (c : Char) : Nat :=
  if c.toNat < 0x80 then 1
  else if c.toNat < 0x800 then 2
  else if c.toNat < 0x10000 then 3
  else 4

/-- Number of bytes that `encode` writes. -/
def size (text : Text) : Nat :=
  text.foldl (fun total c => total + charSize c) 0

/-- What a first byte announces: the continuation bytes that follow, the part of
the value it carries itself, and the bounds on the byte after it. -/
structure Lead where
  owed : Nat
  value : Nat
  low : UInt8 := 0x80
  high : UInt8 := 0xBF
  deriving DecidableEq

/-- The announcement of a first byte; none for a byte that starts no character. -/
@[inline] def Lead.ofByte? (b : UInt8) : Option Lead :=
  if b < 0x80 then some { owed := 0, value := b.toNat }
  else if b < 0xC2 then none
  else if b < 0xE0 then some { owed := 1, value := b.toNat - 0xC0 }
  else if b = 0xE0 then some { owed := 2, value := 0, low := 0xA0 }
  else if b = 0xED then some { owed := 2, value := 0xD, high := 0x9F }
  else if b < 0xF0 then some { owed := 2, value := b.toNat - 0xE0 }
  else if b = 0xF0 then some { owed := 3, value := 0, low := 0x90 }
  else if b < 0xF4 then some { owed := 3, value := b.toNat - 0xF0 }
  else if b = 0xF4 then some { owed := 3, value := 4, high := 0x8F }
  else none

/-- What stands at the front of a byte sequence. -/
inductive Scan where
  /-- A complete character, and the bytes after it. -/
  | scalar (c : Char) (rest : Bytes)
  /-- `length` bytes that no continuation can complete, and the bytes after them. -/
  | broken (length : Nat) (rest : Bytes)
  /-- The input ends inside a character. -/
  | incomplete
  deriving DecidableEq

/-- Reads the continuation bytes that are still owed, the first of them between
`low` and `high`. `value` holds the bits read so far, `taken` counts the bytes. -/
def scanTail (owed : Nat) (low high : UInt8) (value taken : Nat) (bytes : Bytes) : Scan :=
  match owed, bytes with
  | 0, rest => .scalar (Char.ofNat value) rest
  | _ + 1, [] => .incomplete
  | owed + 1, b :: rest =>
    if low ≤ b ∧ b ≤ high then
      scanTail owed 0x80 0xBF (value * 0x40 + (b.toNat - 0x80)) (taken + 1) rest
    else .broken taken (b :: rest)

/-- Reads the character that starts with byte `b`. -/
@[inline] def scan (b : UInt8) (rest : Bytes) : Scan :=
  match Lead.ofByte? b with
  | some lead => scanTail lead.owed lead.low lead.high lead.value 1 rest
  | none => .broken 1 rest

theorem scanTail_scalar_length {owed : Nat} {low high : UInt8} {value taken : Nat}
    {bytes rest : Bytes} {c : Char}
    (h : scanTail owed low high value taken bytes = .scalar c rest) :
    rest.length ≤ bytes.length := by
  fun_induction scanTail owed low high value taken bytes with
  | case1 => simp_all
  | case2 => simp at h
  | case3 value taken owed low high b bytes hb ih =>
      have := ih h
      simp only [List.length_cons]
      omega
  | case4 => simp at h

theorem scanTail_broken_length {owed : Nat} {low high : UInt8} {value taken n : Nat}
    {bytes rest : Bytes} (h : scanTail owed low high value taken bytes = .broken n rest) :
    rest.length ≤ bytes.length := by
  fun_induction scanTail owed low high value taken bytes with
  | case1 => simp at h
  | case2 => simp at h
  | case3 value taken owed low high b bytes hb ih =>
      have := ih h
      simp only [List.length_cons]
      omega
  | case4 => simp_all

theorem scan_scalar_length {b : UInt8} {bytes rest : Bytes} {c : Char}
    (h : scan b bytes = .scalar c rest) : rest.length ≤ bytes.length := by
  unfold scan at h
  split at h
  · exact scanTail_scalar_length h
  · simp at h

theorem scan_broken_length {b : UInt8} {n : Nat} {bytes rest : Bytes}
    (h : scan b bytes = .broken n rest) : rest.length ≤ bytes.length := by
  unfold scan at h
  split at h
  · exact scanTail_broken_length h
  · simp_all

/-- The first place at which bytes stop being UTF-8. -/
structure Fault where
  /-- Number of bytes before it; they are all well formed. -/
  offset : Nat
  /-- Number of bytes it covers, or none when the input ends inside a character. -/
  length : Option Nat
  deriving DecidableEq

/-- The wording of a fault. -/
def Fault.message (fault : Fault) : Text :=
  match fault.length with
  | some n =>
    "invalid utf-8 sequence of " ++ Nat.toDigits 10 n ++ " bytes from index "
      ++ Nat.toDigits 10 fault.offset
  | none => "incomplete utf-8 byte sequence from index " ++ Nat.toDigits 10 fault.offset

/-- Decodes `bytes`, which start at `offset`; `done` is the text before them, in
reverse. -/
def decodeFrom (offset : Nat) (done : Text) (bytes : Bytes) : Except Fault Text :=
  match bytes with
  | [] => .ok done.reverse
  | b :: rest =>
    match _h : scan b rest with
    | .scalar c next => decodeFrom (offset + charSize c) (c :: done) next
    | .broken n _ => .error ⟨offset, some n⟩
    | .incomplete => .error ⟨offset, none⟩
termination_by bytes.length
decreasing_by
  have := scan_scalar_length _h
  simp only [List.length_cons]
  omega

/-- The text whose encoding is `bytes`, or the first fault in them. -/
def decode (bytes : Bytes) : Except Fault Text :=
  decodeFrom 0 [] bytes

/-- The text whose encoding is `bytes`, if there is one. -/
def decode? (bytes : Bytes) : Option Text :=
  (decode bytes).toOption

/-- Stands for each fault in a lossy decoding. -/
def replacement : Char := '\uFFFD'

/-- Decodes `bytes` lossily after the text `done`, which is in reverse. -/
def decodeLossyFrom (done : Text) (bytes : Bytes) : Text :=
  match bytes with
  | [] => done.reverse
  | b :: rest =>
    match _h : scan b rest with
    | .scalar c next => decodeLossyFrom (c :: done) next
    | .broken _ next => decodeLossyFrom (replacement :: done) next
    | .incomplete => (replacement :: done).reverse
termination_by bytes.length
decreasing_by
  · have := scan_scalar_length _h
    simp only [List.length_cons]
    omega
  · have := scan_broken_length _h
    simp only [List.length_cons]
    omega

/-- The text of `bytes`, with every fault replaced by one `replacement`. -/
def decodeLossy (bytes : Bytes) : Text :=
  decodeLossyFrom [] bytes

/-! ## Boundaries between characters -/

/-- Whether a byte continues a character that an earlier byte began. -/
def continues (b : UInt8) : Bool :=
  0x80 ≤ b.toNat && b.toNat < 0xC0

/-- Whether `index` is a boundary: the beginning or the end of the bytes, or a place before a
byte that begins a character. -/
def isBoundary (bytes : Bytes) (index : Nat) : Bool :=
  index == 0 ||
    match bytes[index]? with
    | some b => !continues b
    | none => index == bytes.length

/-- The boundary that is reached from `index` by going back byte by byte; none if the way leads
past the first byte. -/
def floorBoundary? (bytes : Bytes) : Nat → Option Nat
  | 0 => if isBoundary bytes 0 then some 0 else none
  | index + 1 =>
    if isBoundary bytes (index + 1) then some (index + 1) else floorBoundary? bytes index

/-- The bytes from `start` to `stop`; none unless these are boundaries and in order. -/
def slice? (bytes : Bytes) (start stop : Nat) : Option Bytes :=
  if start ≤ stop ∧ isBoundary bytes start ∧ isBoundary bytes stop then
    some ((bytes.drop start).take (stop - start))
  else none

end QuineRelay.Utf8
