import LiveIni.Text

/-!
Character encodings by name. Names are compared without regard to case, with every run of
characters other than letters, digits and points taken as one separator and separators at
both ends dropped. Each encoding has several names, of which one is canonical.
-/

namespace LiveIni

/-- The bytes of a file. -/
abbrev Bytes := List UInt8

/-- The encodings whose tables are here. `rot13` maps text to text and cannot encode a file. -/
inductive Encoding where
  | ascii | latin1 | cp1252
  | utf8 | utf8Sig
  | utf16 | utf16le | utf16be
  | utf32 | utf32le | utf32be
  | rot13
deriving DecidableEq, Repr

def Text.utf8 (t : Text) : Bytes :=
  t.flatMap String.utf8EncodeChar

namespace Encoding

def name : Encoding → String
  | ascii => "ascii"
  | latin1 => "iso8859-1"
  | cp1252 => "cp1252"
  | utf8 => "utf-8"
  | utf8Sig => "utf-8-sig"
  | utf16 => "utf-16"
  | utf16le => "utf-16-le"
  | utf16be => "utf-16-be"
  | utf32 => "utf-32"
  | utf32le => "utf-32-le"
  | utf32be => "utf-32-be"
  | rot13 => "rot-13"

/-- The plain name and the other names of each encoding, with `_` as separator. -/
def names : List (Encoding × String × List String) :=
  [(ascii, "ascii", ["646", "ansi_x3.4_1968", "ansi_x3_4_1968", "ansi_x3.4_1986", "cp367",
     "csascii", "ibm367", "iso646_us", "iso_646.irv_1991", "iso_ir_6", "us", "us_ascii"]),
   (latin1, "latin_1", ["8859", "cp819", "csisolatin1", "ibm819", "iso8859", "iso8859_1",
     "iso_8859_1", "iso_8859_1_1987", "iso_ir_100", "l1", "latin", "latin1"]),
   (cp1252, "cp1252", ["1252", "windows_1252"]),
   (utf8, "utf_8", ["u8", "utf", "utf8", "utf8_ucs2", "utf8_ucs4", "cp65001"]),
   (utf8Sig, "utf_8_sig", []),
   (utf16, "utf_16", ["u16", "utf16"]),
   (utf16le, "utf_16_le", ["utf_16le", "unicodelittleunmarked"]),
   (utf16be, "utf_16_be", ["utf_16be", "unicodebigunmarked"]),
   (utf32, "utf_32", ["u32", "utf32"]),
   (utf32le, "utf_32_le", ["utf_32le"]),
   (utf32be, "utf_32_be", ["utf_32be"]),
   (rot13, "rot_13", ["rot13"])]

/-- Whether a character belongs to a name and is no separator. -/
def isNameChar (c : Char) : Bool :=
  c.isAlphanum || c = '.'

/-- A name in lower case, with `_` as separator and none at the ends. -/
def simpleName (t : Text) : Text :=
  ['_'].intercalate (((t.map fun c => if isNameChar c then c.toLower else '_').splitBy
    fun c d => c ≠ '_' && d ≠ '_').filter (· ≠ ['_']))

/-- The encoding with a name, if it is one of these. In any but a plain name, points may stand for
separators.
-/
def ofName? (t : Text) : Option Encoding :=
  let name := simpleName t
  let separated := name.map fun c => if c = '.' then '_' else c
  (names.find? fun (_, plain, others) =>
    plain.toList = name || others.any fun other =>
      other.toList = name || other.toList = separated).map Prod.fst

/-- Whether an encoding maps text to bytes. -/
def isText (e : Encoding) : Bool :=
  e ≠ rot13

/-- The characters of the bytes from 0x80 to 0x9f in the encoding `cp1252`; zero where there is
none.
-/
def cp1252Codes : List Nat :=
  [0x20ac, 0, 0x201a, 0x192, 0x201e, 0x2026, 0x2020, 0x2021, 0x2c6, 0x2030, 0x160, 0x2039,
   0x152, 0, 0x17d, 0, 0, 0x2018, 0x2019, 0x201c, 0x201d, 0x2022, 0x2013, 0x2014, 0x2dc,
   0x2122, 0x161, 0x203a, 0x153, 0, 0x17e, 0x178]

end Encoding

end LiveIni
