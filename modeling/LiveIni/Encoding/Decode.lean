import LiveIni.Encoding
import LiveIni.Text.Quoted

/-!
Decoding: from bytes to text. A decoder reads one character at a time and stops at the first
bytes that encode none. The byte order mark at the start of a file is no part of its text
where the encoding has one.
-/

namespace LiveIni

/-- Bytes that encode no character: the encoding as messages name it, the first of the bytes,
where they begin and end, and why.
-/
structure MalformedBytes where
  codec : String
  first : UInt8
  start : Nat
  stop : Nat
  reason : String
deriving DecidableEq, Repr

def MalformedBytes.message (m : MalformedBytes) : String :=
  "'" ++ m.codec ++ "' codec can't decode " ++
    (if m.start + 1 = m.stop then
      "byte 0x" ++ Text.string (Text.hex 2 m.first.toNat) ++ " in position " ++ toString m.start
    else "bytes in position " ++ toString m.start ++ "-" ++ toString (m.stop - 1)) ++
    ": " ++ m.reason

/-- Why bytes have no text: some are malformed, the byte order mark is missing, or the codec fails
for a reason of its own.
-/
inductive DecodeFault where
  | malformed (bytes : MalformedBytes)
  | noMark (encoding : String)
  | foreign (message : Text)
deriving DecidableEq, Repr

def DecodeFault.message : DecodeFault → String
  | malformed bytes => bytes.message
  | noMark encoding => encoding ++ " stream does not start with BOM"
  | foreign message => message.string

namespace Encoding

/-- What stands at one position: a character and how many further bytes belong to it, or how
many bytes are malformed there, and why.
-/
abbrev Step := Except (Nat × String) (Char × Nat)

/-- Decodes from byte number `position` on, with `skip` bytes to be skipped first. -/
def decodeFrom (codec : String) (unit : UInt8 → Bytes → Step)
    : (skip position : Nat) → Bytes → Except MalformedBytes Text
  | _, _, [] => .ok []
  | skip + 1, position, _ :: rest => decodeFrom codec unit skip (position + 1) rest
  | 0, position, b :: rest =>
    match unit b rest with
    | .error (length, reason) => .error ⟨codec, b, position, position + length, reason⟩
    | .ok (c, skip) => (decodeFrom codec unit skip (position + 1) rest).map (c :: ·)

-----------------------------------------------------------------------------------------
-- Encodings of one byte per character
-----------------------------------------------------------------------------------------

def asciiUnit (b : UInt8) (_ : Bytes) : Step :=
  if b.toNat < 0x80 then .ok (Char.ofNat b.toNat, 0) else .error (1, "ordinal not in range(128)")

/-- A character of the encoding by the first 256 code points. -/
def latin1Unit (b : UInt8) (_ : Bytes) : Step :=
  .ok (Char.ofNat b.toNat, 0)

/-- A character of the encoding `cp1252`. -/
def cp1252Unit (b : UInt8) (_ : Bytes) : Step :=
  let code :=
    if 0x80 ≤ b.toNat ∧ b.toNat < 0xa0 then cp1252Codes.getD (b.toNat - 0x80) 0 else b.toNat
  if code = 0 ∧ b ≠ 0 then .error (1, "character maps to <undefined>")
  else .ok (Char.ofNat code, 0)

-----------------------------------------------------------------------------------------
-- UTF-8
-----------------------------------------------------------------------------------------

/-- What a lead byte says: how many bytes follow it, the range of the first of them, and the
bits that the lead byte itself contributes.
-/
def utf8Lead? (b : Nat) : Option (Nat × Nat × Nat × Nat) :=
  if b < 0xc2 then none
  else if b < 0xe0 then some (1, 0x80, 0xbf, b - 0xc0)
  else if b < 0xf0 then
    some (2, if b = 0xe0 then 0xa0 else 0x80, if b = 0xed then 0x9f else 0xbf, b - 0xe0)
  else if b < 0xf5 then
    some (3, if b = 0xf0 then 0x90 else 0x80, if b = 0xf4 then 0x8f else 0xbf, b - 0xf0)
  else none

/-- Reads `due` more bytes of a character after `read` of them, the next one in the range from
`low` to `high`.
-/
def utf8Tail : (due low high bits read : Nat) → Bytes → Except (Nat × String) Nat
  | 0, _, _, bits, _, _ => .ok bits
  | _ + 1, _, _, _, read, [] => .error (read, "unexpected end of data")
  | due + 1, low, high, bits, read, b :: rest =>
    if low ≤ b.toNat ∧ b.toNat ≤ high then
      utf8Tail due 0x80 0xbf (bits * 64 + (b.toNat - 0x80)) (read + 1) rest
    else .error (read, "invalid continuation byte")

def utf8Unit (b : UInt8) (rest : Bytes) : Step :=
  if b.toNat < 0x80 then .ok (Char.ofNat b.toNat, 0)
  else match utf8Lead? b.toNat with
    | none => .error (1, "invalid start byte")
    | some (due, low, high, bits) =>
      (utf8Tail due low high bits 1 rest).map fun code => (Char.ofNat code, due)

-----------------------------------------------------------------------------------------
-- UTF-16 and UTF-32
-----------------------------------------------------------------------------------------

/-- The number that bytes write, the last of them first if `big` is false. -/
def numberOf (big : Bool) (bytes : Bytes) : Nat :=
  (if big then bytes else bytes.reverse).foldl (fun n b => n * 256 + b.toNat) 0

/-- Whether a code is the first half of a surrogate pair. -/
def isHighSurrogate (code : Nat) : Bool :=
  0xd800 ≤ code && code < 0xdc00

/-- Whether a code is the second half of a surrogate pair. -/
def isLowSurrogate (code : Nat) : Bool :=
  0xdc00 ≤ code && code < 0xe000

/-- A character of UTF-16: one unit of two bytes, or a surrogate pair of two units. -/
def utf16Unit (big : Bool) (b : UInt8) (rest : Bytes) : Step :=
  match rest with
  | [] => .error (1, "truncated data")
  | b1 :: more =>
    let code := numberOf big [b, b1]
    if isLowSurrogate code then .error (2, "illegal encoding")
    else if isHighSurrogate code then
      match more with
      | b2 :: b3 :: _ =>
        let low := numberOf big [b2, b3]
        if isLowSurrogate low then
          .ok (Char.ofNat (0x10000 + (code - 0xd800) * 0x400 + (low - 0xdc00)), 3)
        else .error (2, "illegal UTF-16 surrogate")
      | _ => .error (2 + more.length, "unexpected end of data")
    else .ok (Char.ofNat code, 1)

/-- A character of UTF-32: one unit of four bytes. -/
def utf32Unit (big : Bool) (b : UInt8) (rest : Bytes) : Step :=
  match rest with
  | b1 :: b2 :: b3 :: _ =>
    let code := numberOf big [b, b1, b2, b3]
    if isHighSurrogate code || isLowSurrogate code then
      .error (4, "code point in surrogate code point range(0xd800, 0xe000)")
    else if 0x10ffff < code then .error (4, "code point not in range(0x110000)")
    else .ok (Char.ofNat code, 3)
  | _ => .error (1 + rest.length, "truncated data")

/-- The byte order mark of an encoding with units of `width` bytes. -/
def orderMark (big : Bool) (width : Nat) : Bytes :=
  let padding := List.replicate (width - 2) 0
  if big then padding ++ [0xfe, 0xff] else [0xff, 0xfe] ++ padding

/-- Decodes bytes whose byte order is given by a mark at their start. Without a mark they are
read in the small order first, so that malformed bytes are found before the missing mark. -/
def decodeMarked (width : Nat) (name littleName bigName : String)
    (unit : Bool → UInt8 → Bytes → Step) (bytes : Bytes) : Except DecodeFault Text :=
  let decode (codec : String) (big : Bool) (start : Nat) :=
    (decodeFrom codec (unit big) 0 start (bytes.drop start)).mapError DecodeFault.malformed
  if (orderMark false width).isPrefixOf bytes then decode littleName false width
  else if (orderMark true width).isPrefixOf bytes then decode bigName true width
  else do
    let t ← decode littleName false 0
    if bytes.isEmpty then .ok t else .error (.noMark name)

/-- The mark at the start of a UTF-8 file that has one. -/
def utf8Mark : Bytes := [0xef, 0xbb, 0xbf]

/-- The text of a whole file. With `utf-8-sig`, an incomplete mark alone is no text, and
positions are counted from after the mark.
-/
def decode (e : Encoding) (bytes : Bytes) : Except DecodeFault Text :=
  let plain (codec : String) (unit : UInt8 → Bytes → Step) (bytes : Bytes) :=
    (decodeFrom codec unit 0 0 bytes).mapError DecodeFault.malformed
  match e with
  | ascii => plain "ascii" asciiUnit bytes
  | latin1 => plain "latin-1" latin1Unit bytes
  | cp1252 => plain "charmap" cp1252Unit bytes
  | utf8 => plain "utf-8" utf8Unit bytes
  | utf8Sig =>
    if bytes.isPrefixOf utf8Mark then .ok []
    else
      plain "utf-8" utf8Unit (if utf8Mark.isPrefixOf bytes then bytes.drop 3 else bytes)
  | utf16le => plain "utf-16-le" (utf16Unit false) bytes
  | utf16be => plain "utf-16-be" (utf16Unit true) bytes
  | utf32le => plain "utf-32-le" (utf32Unit false) bytes
  | utf32be => plain "utf-32-be" (utf32Unit true) bytes
  | utf16 => decodeMarked 2 "UTF-16" "utf-16-le" "utf-16-be" utf16Unit bytes
  | utf32 => decodeMarked 4 "UTF-32" "utf-32-le" "utf-32-be" utf32Unit bytes
  | rot13 => .ok []

end Encoding

end LiveIni
