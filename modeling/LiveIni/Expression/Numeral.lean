import LiveIni.Expression.Token

/-!
Numbers in expressions: whole numbers in one of four bases, numbers with a point or a power of
ten, and imaginary numbers. Single underscores may stand between digits. What directly
follows a number must not continue it as a word, except for the keywords that can follow an
operand.
-/

namespace LiveIni.Numeral

open Number

/-- Whether a character can stand inside a word: an ASCII letter or digit, an underscore, or
any character beyond ASCII.
-/
def isWordPart (c : Char) : Bool :=
  c.isAlphanum || c = '_' || 0x80 ≤ c.toNat

/-- The longest run of digits at the start of a text, with single underscores between them,
and what follows it. The digits come without the underscores. An underscore without a digit
after it makes the number malformed.
-/
def digits? (isDigit : Char → Bool) : Text → Option (Text × Text)
  | [] => some ([], [])
  | '_' :: d :: rest =>
    if isDigit d then (digits? isDigit rest).map fun (ds, more) => (d :: ds, more) else none
  | c :: rest =>
    if c = '_' then none
    else if isDigit c then (digits? isDigit rest).map fun (ds, more) => (c :: ds, more)
    else some ([], c :: rest)

/-- The keywords that may directly follow a number. -/
def followers : List Text :=
  ["and", "else", "for", "if", "in", "is", "or", "not"].map String.toList

/-- Whether a number can end where this text begins. -/
def canEnd (rest : Text) : Bool :=
  followers.any (·.isPrefixOf rest) || !rest.head?.any isWordPart

/-- The digits of a power of ten with its sign, and what follows them; `none` for the power if
there is none.
-/
def exponent? (rest : Text) : Option (Option Int × Text) :=
  match rest with
  | e :: '-' :: d :: more =>
    if e.toLower = 'e' then
      if d.isDigit then (digits? Char.isDigit (d :: more)).map fun (ds, after) =>
        (some (-(Text.toNat ds : Int)), after)
      else none
    else some (none, rest)
  | e :: '+' :: d :: more =>
    if e.toLower = 'e' then
      if d.isDigit then (digits? Char.isDigit (d :: more)).map fun (ds, after) =>
        (some (Text.toNat ds : Int), after)
      else none
    else some (none, rest)
  | e :: d :: more =>
    if e.toLower = 'e' ∧ d.isDigit then (digits? Char.isDigit (d :: more)).map fun (ds, after) =>
      (some (Text.toNat ds : Int), after)
    else some (none, rest)
  | _ => some (none, rest)

/-- A whole number without a base. It has no leading zeros, unless it is zero, and at most as
many digits as integers may be read from.
-/
def whole? (digits : Text) : Option Constant :=
  if digits.all (· = '0') then some (.value (.int 0))
  else if digits.head? = some '0' ∨ Value.maxIntegerDigits < digits.length then none
  else some (.value (.int (Text.toNat digits)))

/-- A number with a point or a power of ten as the nearest double. -/
def double (whole fraction : Text) (exponent : Int) : Double :=
  Double.ofDecimal ⟨false, Text.toNat (whole ++ fraction), exponent - fraction.length⟩

/-- A decimal number at the start of a text, and what follows it. -/
def decimal? (t : Text) : Option (Constant × Text) := do
  let (whole, rest) ← digits? Char.isDigit t
  let (fraction, rest) ← match rest with
    | '.' :: d :: more =>
      if d.isDigit then (digits? Char.isDigit (d :: more)).map fun (ds, r) => (some ds, r)
      else some (some [], d :: more)
    | '.' :: more => some (some [], more)
    | _ => some (none, rest)
  let (exponent, rest) ← exponent? rest
  let value := double whole (fraction.getD []) (exponent.getD 0)
  match rest with
  | 'j' :: more | 'J' :: more => some (.refused (value.renderAs ⟨false⟩ ++ ['j']), more)
  | _ =>
    if fraction.isNone ∧ exponent.isNone then (whole? whole).map (·, rest)
    else some (.value (.double value), rest)

/-- A whole number with digits of the given base, after the mark of the base. -/
def based? (base : Nat) (isDigit : Char → Bool) (t : Text) : Option (Constant × Text) := do
  let (ds, rest) ← digits? isDigit t
  if ds.isEmpty ∨ rest.head?.any Char.isDigit then none
  else some (.value (.int (Text.toNatBase base ds)), rest)

/-- The number at the start of a text that begins with a digit, or with a point and a digit,
and what follows it.
-/
def read? (t : Text) : Option (Constant × Text) := do
  let (constant, rest) ← match t with
    | '0' :: mark :: more =>
      match mark.toLower with
      | 'x' => based? 16 Text.isHexDigit more
      | 'o' => based? 8 (fun c => '0' ≤ c && c ≤ '7') more
      | 'b' => based? 2 (fun c => c = '0' || c = '1') more
      | _ => decimal? t
    | _ => decimal? t
  if canEnd rest then some (constant, rest) else none

end LiveIni.Numeral
