import LiveIni.Encoding
import LiveIni.Number.Power
import LiveIni.Text.Quoted

/-!
Encoding: from text to bytes. A text is encoded as a whole or not at all. Encodings with a
byte order mark write it at the start of a file only.
-/

namespace LiveIni

/-- Characters that an encoding does not have: the encoding as messages name it, the first of
them, where they begin and end, and why.
-/
structure UnencodableText where
  codec : String
  first : Char
  start : Nat
  stop : Nat
  reason : String
deriving DecidableEq, Repr

def UnencodableText.message (u : UnencodableText) : String :=
  "'" ++ u.codec ++ "' codec can't encode " ++
    (if u.start + 1 = u.stop then
      "character '" ++ Text.string (Text.escapeCode u.first) ++ "' in position " ++
        toString u.start
    else "characters in position " ++ toString u.start ++ "-" ++ toString (u.stop - 1)) ++
    ": " ++ u.reason

namespace Encoding

/-- Encodes each character by itself. The first run of characters without an encoding is the
fault.
-/
def encodeEach (codec reason : String) (encodeChar? : Char → Option Bytes) (t : Text)
    : Except UnencodableText Bytes :=
  let fits (c : Char) := (encodeChar? c).isSome
  let encoded := t.takeWhile fits
  match t.drop encoded.length with
  | [] => .ok (t.flatMap fun c => (encodeChar? c).getD [])
  | c :: rest =>
    let run := rest.takeWhile fun d => !fits d
    .error ⟨codec, c, encoded.length, encoded.length + 1 + run.length, reason⟩

/-- The bytes of a number, `width` of them. -/
def bytesOf (big : Bool) (width n : Nat) : Bytes :=
  let bytes := (List.range width).map fun i => UInt8.ofNat (n / Number.twoTo (8 * i))
  if big then bytes.reverse else bytes

def utf16Bytes (big : Bool) (c : Char) : Bytes :=
  if c.toNat < 0x10000 then bytesOf big 2 c.toNat
  else
    let code := c.toNat - 0x10000
    bytesOf big 2 (0xd800 + code / 0x400) ++ bytesOf big 2 (0xdc00 + code % 0x400)

def utf32Bytes (big : Bool) (c : Char) : Bytes :=
  bytesOf big 4 c.toNat

/-- A character in the encoding `cp1252`. -/
def cp1252Bytes? (c : Char) : Option Bytes :=
  if c.toNat < 0x80 ∨ (0xa0 ≤ c.toNat ∧ c.toNat < 0x100) then some [UInt8.ofNat c.toNat]
  else
    let index := cp1252Codes.findIdx (· = c.toNat)
    if index < cp1252Codes.length then some [UInt8.ofNat (0x80 + index)] else none

/-- A character as one byte, if its code point is below `limit`. -/
def byteBelow? (limit : Nat) (c : Char) : Option Bytes :=
  if c.toNat < limit then some [UInt8.ofNat c.toNat] else none

/-- The bytes of a text, for the start of a file or for its end. -/
def encode (e : Encoding) (atStart : Bool) (t : Text) : Except UnencodableText Bytes :=
  let marked (mark : Bytes) (bytes : Bytes) : Except UnencodableText Bytes :=
    .ok (if atStart then mark ++ bytes else bytes)
  match e with
  | ascii => encodeEach "ascii" "ordinal not in range(128)" (byteBelow? 0x80) t
  | latin1 => encodeEach "latin-1" "ordinal not in range(256)" (byteBelow? 0x100) t
  | cp1252 => encodeEach "charmap" "character maps to <undefined>" cp1252Bytes? t
  | utf8 => .ok t.utf8
  | utf8Sig => marked [0xef, 0xbb, 0xbf] t.utf8
  | utf16le => .ok (t.flatMap (utf16Bytes false))
  | utf16be => .ok (t.flatMap (utf16Bytes true))
  | utf16 => marked [0xff, 0xfe] (t.flatMap (utf16Bytes false))
  | utf32le => .ok (t.flatMap (utf32Bytes false))
  | utf32be => .ok (t.flatMap (utf32Bytes true))
  | utf32 => marked [0xff, 0xfe, 0, 0] (t.flatMap (utf32Bytes false))
  | rot13 => .ok []

end Encoding

end LiveIni
