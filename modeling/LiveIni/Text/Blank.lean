import LiveIni.Text

/-!
Blank characters: white space in the sense of the Unicode character database, that is, the
separators of category Zs and the controls of bidirectional class WS, B or S. The zero width
space and the byte order mark are not blank.
-/

namespace LiveIni.Text

def blankRanges : List (Nat × Nat) :=
  [(0x9, 0xd), (0x1c, 0x20), (0x85, 0x85), (0xa0, 0xa0), (0x1680, 0x1680), (0x2000, 0x200a),
   (0x2028, 0x2029), (0x202f, 0x202f), (0x205f, 0x205f), (0x3000, 0x3000)]

def isBlank (c : Char) : Bool :=
  inRanges blankRanges c

/-- A text without the blanks at its two ends. -/
def strip (t : Text) : Text :=
  trim isBlank t

def isBlankLine (t : Text) : Bool :=
  t.all isBlank

end LiveIni.Text
