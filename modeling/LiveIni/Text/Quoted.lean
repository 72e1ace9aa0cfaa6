import LiveIni.Text.Printable

/-!
Quoted texts, as messages show them: in single quotes, or in double quotes if that saves an
escape, with a backslash escape for every character that cannot be shown as itself.
-/

namespace LiveIni.Text

/-- The hexadecimal digits of `n`, in lower case and padded with zeros to `width`. -/
def hex (width n : Nat) : Text :=
  let digits := Nat.toDigits 16 n
  List.replicate (width - digits.length) '0' ++ digits

/-- A character as a backslash escape of its code point: two, four or eight hexadecimal
digits, whichever is the first to hold it.
-/
def escapeCode (c : Char) : Text :=
  if c.toNat < 0x100 then '\\' :: 'x' :: hex 2 c.toNat
  else if c.toNat < 0x10000 then '\\' :: 'u' :: hex 4 c.toNat
  else '\\' :: 'U' :: hex 8 c.toNat

/-- A character as it stands between the given quotes. -/
def quotedChar (quote c : Char) : Text :=
  if c = quote ∨ c = '\\' then ['\\', c]
  else if c = '\n' then ['\\', 'n']
  else if c = '\r' then ['\\', 'r']
  else if c = '\t' then ['\\', 't']
  else if isPrintable c then [c]
  else escapeCode c

/-- The quote that a text is shown in: the double one if the text has a single quote and no
double one, and the single one otherwise.
-/
def quoteFor (t : Text) : Char :=
  if t.contains '\'' && !t.contains '"' then '"' else '\''

/-- A text in quotes, with escapes for what cannot be shown as itself. -/
def quoted (t : Text) : Text :=
  let quote := quoteFor t
  quote :: t.flatMap (quotedChar quote) ++ [quote]

/-- The quoted form of a text as a string, for use inside messages. -/
def quotedString (t : Text) : String :=
  String.ofList (quoted t)

/-- A text as a string, for use inside messages. -/
def string (t : Text) : String :=
  String.ofList t

end LiveIni.Text
