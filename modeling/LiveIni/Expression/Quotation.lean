import LiveIni.Expression.Token
import LiveIni.Text.Quoted

/-!
Quotations in expressions: where one ends, and what its body stands for. A quotation has
single or triple quotes of either kind. A backslash keeps the character after it from ending
the quotation, and unless the quotation is raw it begins an escape. Escapes can write codes
that no character has, so that a quotation stands for a list of codes first.
-/

namespace LiveIni

/-- The text of the given codes, unless one of them is a lone surrogate. -/
def Text.ofCodes? (codes : List Nat) : Option Text :=
  codes.mapM fun code => if code.isValidChar then some (Char.ofNat code) else none

namespace Quotation

/-- The length of a body up to its closing quotes, if there are any. Only triple quotes can
have a bare line feed between them.
-/
def bodyLength? (quote : Char) (triple : Bool) : Text → Option Nat
  | [] => none
  | '\\' :: _ :: rest => (bodyLength? quote triple rest).map (· + 2)
  | c :: rest =>
    if c = quote ∧ (!triple ∨ [quote, quote].isPrefixOf rest) then some 0
    else if c = '\n' ∧ !triple then none
    else (bodyLength? quote triple rest).map (· + 1)

/-- The body of the quotation whose first quote stands before `rest`, and what follows it. -/
def readBody? (quote : Char) (rest : Text) : Option (Text × Text) :=
  let triple := [quote, quote].isPrefixOf rest
  let inside := if triple then rest.drop 2 else rest
  (bodyLength? quote triple inside).map fun n =>
    (inside.take n, inside.drop (n + if triple then 3 else 1))

/-- What the letters before a quotation say about it, if they say anything. -/
def ofLetters? (letters : Text) : Option (QuotationSort × Bool) :=
  match Text.lower letters with
  | [] | ['u'] => some (.text, false)
  | ['r'] => some (.text, true)
  | ['b'] => some (.bytes, false)
  | ['b', 'r'] | ['r', 'b'] => some (.bytes, true)
  | ['f'] => some (.formatted, false)
  | ['f', 'r'] | ['r', 'f'] => some (.formatted, true)
  | _ => none

-----------------------------------------------------------------------------------------
-- Names of characters
-----------------------------------------------------------------------------------------

/-- The escape with the code of the character whose name in braces begins a text, and the number
of characters of that name with its braces.
-/
def spelledName? (names : Text → Option Char) (t : Text) : Option (Text × Nat) := do
  match t with
  | '\x7b' :: inside =>
    let (name, _) ← Text.cutAt? '\x7d' inside
    guard !name.isEmpty
    let c ← names name
    return ("\\U".toList ++ Text.hex 8 c.toNat, name.length + 2)
  | _ => none

/-- A body with the names of characters in it spelled as their codes. A name that is not known
stays, and is then no escape. A backslash keeps the character after it from beginning a name.
-/
def spellNames (names : Text → Option Char) (body : Text) : Text :=
  let step (c : Char) (rest : Text) : Text × Nat :=
    match c, rest with
    | '\\', d :: more =>
      match if d = 'N' then spelledName? names more else none with
      | some (spelled, n) => (spelled, n + 1)
      | none => (['\\', d], 1)
    | _, _ => ([c], 0)
  (Text.scan step body).flatten

/-- A quotation without names of characters. Only escapes of texts can have them. -/
def spelled (names : Text → Option Char) (q : Quotation) : Quotation :=
  if q.raw ∨ q.sort = .bytes then q else { q with body := spellNames names q.body }

-----------------------------------------------------------------------------------------
-- Escapes
-----------------------------------------------------------------------------------------

/-- The character that a letter stands for after a backslash. -/
def simpleEscape? : Char → Option Char
  | '\\' => some '\\'
  | '\'' => some '\''
  | '"' => some '"'
  | 'a' => some '\x07'
  | 'b' => some '\x08'
  | 'f' => some '\x0c'
  | 'n' => some '\n'
  | 'r' => some '\r'
  | 't' => some '\t'
  | 'v' => some '\x0b'
  | _ => none

/-- The code that `width` hexadecimal digits write, unless it is beyond all characters. -/
def hexEscape? (width : Nat) (rest : Text) : Option Nat :=
  let digits := rest.take width
  let code := Text.toNatBase 16 digits
  if digits.length = width ∧ digits.all Text.isHexDigit ∧ code ≤ 0x10ffff then some code
  else none

/-- Whether a character is an octal digit. -/
def isOctalDigit (c : Char) : Bool :=
  '0' ≤ c && c ≤ '7'

/-- The codes that a backslash before `c` and `rest` stands for, and how many characters of
`rest` belong to it. A backslash before a line feed stands for nothing, and one before a
character without a meaning stands for itself.
-/
def escape (sort : QuotationSort) (c : Char) (rest : Text) : Option (List Nat) × Nat :=
  if c = '\n' then (some [], 0)
  else if isOctalDigit c then
    let digits := c :: (rest.take 2).takeWhile isOctalDigit
    let code := Text.toNatBase 8 digits
    (some [if sort = .bytes then code % 256 else code], digits.length - 1)
  else if c = 'x' then ((hexEscape? 2 rest).map ([·]), 2)
  else if c = 'u' ∧ sort ≠ .bytes then ((hexEscape? 4 rest).map ([·]), 4)
  else if c = 'U' ∧ sort ≠ .bytes then ((hexEscape? 8 rest).map ([·]), 8)
  else if c = 'N' ∧ sort ≠ .bytes then (none, 0)
  else match simpleEscape? c with
    | some d => (some [d.toNat], 0)
    | none => (some ['\\'.toNat, c.toNat], 0)

/-- The codes of a body with its escapes, unless one of them is malformed. -/
def unescape? (sort : QuotationSort) (body : Text) : Option (List Nat) :=
  let step (c : Char) (rest : Text) : Option (List Nat) × Nat :=
    match c, rest with
    | '\\', d :: more =>
      let (codes, n) := escape sort d more
      (codes, n + 1)
    | _, _ => (some [c.toNat], 0)
  ((Text.scan step body).mapM id).map List.flatten

/-- The codes of the characters or bytes that a quotation stands for. Bytes are written with
ASCII characters only.
-/
def decode? (q : Quotation) : Option (List Nat) :=
  if q.sort = .bytes ∧ q.body.any (0x80 ≤ ·.toNat) then none
  else if q.raw then some (q.body.map Char.toNat)
  else unescape? q.sort q.body

/-- Bytes as messages show them. -/
def shownBytes (bytes : List Nat) : Text :=
  let bytes := bytes.map Char.ofNat
  let quote := Text.quoteFor bytes
  let shownByte (c : Char) : Text :=
    if 0x80 ≤ c.toNat then Text.escapeCode c else Text.quotedChar quote c
  'b' :: quote :: bytes.flatMap shownByte ++ [quote]

end Quotation

end LiveIni
