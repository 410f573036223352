import KeywordQuery.Text.Quoted

/-!
# Decoding UTF-8

Bytes are decoded strictly: no overlong forms, no surrogates, nothing above U+10FFFF.

* `decodeFirst` — what the first bytes are: a character, the start of one, or a fault;
* `decodePiece` — the characters of a piece of input, and the bytes at its end that may be
  continued by the next piece;
* `decodePieces` — the characters of an input that comes in pieces, up to the first fault.  The
  position of a fault is counted in the piece that shows it, from the bytes left over before it.
-/

namespace KeywordQuery.Encoding

/-- Why bytes are no UTF-8. -/
inductive DecodeReason where
  | invalidStart
  | invalidContinuation
  | unexpectedEnd
  deriving Repr, DecidableEq

/-- The wording of a reason. -/
def DecodeReason.message : DecodeReason → String
  | .invalidStart => "invalid start byte"
  | .invalidContinuation => "invalid continuation byte"
  | .unexpectedEnd => "unexpected end of data"

/-- Bytes that are no UTF-8: where they start, how many they are, and the first of them. -/
structure DecodeFault where
  start : Nat
  count : Nat
  byte : UInt8
  reason : DecodeReason
  deriving Repr, DecidableEq

/-- The message that describes a fault. -/
def DecodeFault.message (fault : DecodeFault) : String :=
  let place := if fault.count = 1 then
      "byte 0x" ++ String.ofList (Text.hexDigits 2 fault.byte.toNat) ++ " in position " ++
        toString fault.start
    else "bytes in position " ++ toString fault.start ++ "-" ++
      toString (fault.start + fault.count - 1)
  "'utf-8' codec can't decode " ++ place ++ ": " ++ fault.reason.message

/-- What the first bytes of an input are. -/
inductive FirstBytes where
  /-- A character and the bytes after it. -/
  | char (c : Char) (rest : List UInt8)
  /-- The start of a character, cut off by the end of the bytes. -/
  | incomplete
  | fault (reason : DecodeReason) (count : Nat)

/-- The continuation bytes that a lead byte asks for, and the bounds of the first of them; none
for a byte that starts nothing. -/
def leadByte? (lead : Nat) : Option (Nat × Nat × Nat) :=
  if lead < 0xC2 then none
  else if lead < 0xE0 then some (1, 0x80, 0xBF)
  else if lead < 0xF0 then
    some (2, if lead = 0xE0 then 0xA0 else 0x80, if lead = 0xED then 0x9F else 0xBF)
  else if lead < 0xF5 then
    some (3, if lead = 0xF0 then 0x90 else 0x80, if lead = 0xF4 then 0x8F else 0xBF)
  else none

/-- A character of which `taken` bytes with the value `value` have been read and `missing` bytes
have not; the first of these lies between the bounds. -/
def continueChar (low high : Nat) : (missing taken value : Nat) → List UInt8 → FirstBytes
  | 0, _, value, rest => .char (Char.ofNat value) rest
  | _ + 1, _, _, [] => .incomplete
  | missing + 1, taken, value, byte :: rest =>
    if low ≤ byte.toNat ∧ byte.toNat ≤ high then
      continueChar 0x80 0xBF missing (taken + 1) (value * 64 + byte.toNat % 64) rest
    else .fault .invalidContinuation taken

/-- What the first bytes are; the list is not empty. -/
def decodeFirst (lead : UInt8) (rest : List UInt8) : FirstBytes :=
  let n := lead.toNat
  if n < 0x80 then .char (Char.ofNat n) rest
  else
    match leadByte? n with
    | none => .fault .invalidStart 1
    | some (missing, low, high) =>
      continueChar low high missing 1 (n % Nat.pow 2 (6 - missing)) rest

/-- Whether the bytes are the first two of the three that would stand for a surrogate.  They are a
fault, but one that shows only when there are more bytes or the input ends. -/
def isCutSurrogate : List UInt8 → Bool
  | [lead, next] => lead == 0xED && 0xA0 ≤ next && next ≤ 0xBF
  | _ => false

/-- Characters, and what comes after them: bytes that are the start of a character, or a fault. -/
abbrev Decoded := List Char × Except DecodeFault (List UInt8)

/-- The characters of a piece of input from a position on.  `fuel` is at least the number of
bytes. -/
def decodePiece : (fuel position : Nat) → List UInt8 → Decoded
  | _, _, [] => ([], .ok [])
  | 0, _, bytes => ([], .ok bytes)
  | fuel + 1, position, lead :: rest =>
    match decodeFirst lead rest with
    | .incomplete => ([], .ok (lead :: rest))
    | .fault reason count =>
      if isCutSurrogate (lead :: rest) then ([], .ok (lead :: rest))
      else ([], .error ⟨position, count, lead, reason⟩)
    | .char c after =>
      let used := rest.length + 1 - after.length
      let (chars, finish) := decodePiece fuel (position + used) after
      (c :: chars, finish)

/-- The characters of the pieces after the left-over bytes, and the first fault.  A piece with a
fault gives no characters. -/
def decodePieces (left : List UInt8) : List (List UInt8) → List Char × Option DecodeFault
  | [] =>
    match left with
    | [] => ([], none)
    | lead :: rest =>
      if isCutSurrogate left then ([], some ⟨0, 1, lead, .invalidContinuation⟩)
      else ([], some ⟨0, rest.length + 1, lead, .unexpectedEnd⟩)
  | piece :: pieces =>
    let bytes := left ++ piece
    match decodePiece bytes.length 0 bytes with
    | (_, .error fault) => ([], some fault)
    | (chars, .ok left) =>
      let (others, fault) := decodePieces left pieces
      (chars ++ others, fault)

/-- The number of bytes that are read at a time. -/
def pieceSize : Nat := 8192

/-- The bytes in pieces of the given size, which is positive. -/
def pieces (size : Nat) (bytes : List UInt8) : List (List UInt8) :=
  if _h : bytes = [] ∨ size = 0 then []
  else bytes.take size :: pieces size (bytes.drop size)
termination_by bytes.length
decreasing_by
  have : bytes.length ≠ 0 := fun hl => _h (.inl (List.length_eq_zero_iff.mp hl))
  simp only [List.length_drop]
  omega

/-- The characters of an input, and the first fault. -/
def decode (bytes : List UInt8) : List Char × Option DecodeFault :=
  decodePieces [] (pieces pieceSize bytes)

end KeywordQuery.Encoding
