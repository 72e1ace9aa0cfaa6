import LiveIni.Expression.Quotation

/-!
Quotations with expressions in braces. They have no meaning here, but a malformed one makes
the whole expression malformed. An expression in braces ends at a brace, a colon, an
exclamation mark or an equals sign outside of its own brackets and quotations; it can be
followed by an equals sign, a conversion and a format, which in turn can hold expressions,
two levels deep.
-/

namespace LiveIni.Quotation

/-- Whether a character is a curly bracket. -/
def isBrace (c : Char) : Bool :=
  c = '\x7b' || c = '\x7d'

/-- The literal text up to a brace that stands alone, and the rest from that brace on. At the
outermost level a doubled brace is literal.
-/
def literalPart (raw : Bool) (level : Nat) : Text → Text × Text
  | [] => ([], [])
  | [c] => if isBrace c then ([], [c]) else ([c], [])
  | c :: d :: rest =>
    if isBrace c then
      if level = 0 ∧ d = c then
        let (literal, more) := literalPart raw level rest
        (c :: literal, more)
      else ([], c :: d :: rest)
    else if c = '\\' ∧ !raw ∧ !isBrace d then
      let (literal, more) := literalPart raw level rest
      (c :: d :: literal, more)
    else
      let (literal, more) := literalPart raw level (d :: rest)
      (c :: literal, more)

/-- The closing bracket for an opening one. -/
def closingFor? : Char → Option Char
  | '(' => some ')'
  | '[' => some ']'
  | '\x7b' => some '\x7d'
  | _ => none

/-- The length of an expression in braces. It is read with the quotation that is open, if any,
and whether that one is triple, and with the closing brackets that are due. Backslashes and
comments cannot occur.
-/
def fieldLength? : Nat → Option (Char × Bool) → List Char → Text → Option Nat
  | _, _, _, [] => none
  | skip + 1, quote, due, _ :: rest => (fieldLength? skip quote due rest).map (· + 1)
  | 0, some (quote, triple), due, c :: rest =>
    if c = '\\' then none
    else if c = quote ∧ !triple then (fieldLength? 0 none due rest).map (· + 1)
    else if c = quote ∧ [c, c].isPrefixOf rest then (fieldLength? 2 none due rest).map (· + 1)
    else (fieldLength? 0 (some (quote, triple)) due rest).map (· + 1)
  | 0, none, due, c :: rest =>
    if c = '\\' ∨ c = '#' then none
    else if c = '\'' ∨ c = '"' then
      if [c, c].isPrefixOf rest then (fieldLength? 2 (some (c, true)) due rest).map (· + 1)
      else (fieldLength? 0 (some (c, false)) due rest).map (· + 1)
    else match closingFor? c with
    | some close => (fieldLength? 0 none (close :: due) rest).map (· + 1)
    | none =>
      match due with
      | close :: more =>
        if c = close then (fieldLength? 0 none more rest).map (· + 1)
        else if [')', ']', '\x7d'].contains c then none
        else (fieldLength? 0 none due rest).map (· + 1)
      | [] =>
        if ['!', '=', '<', '>'].contains c ∧ rest.head? = some '=' then
          (fieldLength? 1 none [] rest).map (· + 1)
        else if ['!', ':', '=', '\x7d'].contains c then some 0
        else if [')', ']'].contains c then none
        else (fieldLength? 0 none [] rest).map (· + 1)

/-- What follows the equals sign and the conversion after an expression, if they are well
formed.
-/
def afterConversion? (t : Text) : Option Text :=
  let t := match t with
    | '=' :: rest => rest.dropWhile fun c => c = ' ' || ('\t' ≤ c && c ≤ '\r')
    | _ => t
  match t with
  | '!' :: c :: rest => if ['s', 'r', 'a'].contains c then some rest else none
  | '!' :: [] => none
  | _ => some t

/-- Reads literal text and expressions in turn, up to a closing brace or the end, with at most
`n` expressions. `isExpression` says which texts are expressions.
-/
def readFormatted? (isExpression : Text → Bool) (raw : Bool) : Nat → Nat → Text → Option Text
  | 0, _, _ => none
  | n + 1, level, t => do
    let (literal, rest) := literalPart raw level t
    guard (raw || (unescape? .text literal).isSome)
    match rest with
    | [] => some []
    | c :: inside =>
      if c = '\x7d' then
        if level = 0 then none else some rest
      else
        guard (level < 2)
        let length ← fieldLength? 0 none [] inside
        let source := inside.take length
        guard (!source.all [' ', '\t', '\n', '\x0c'].contains && isExpression source)
        let after ← afterConversion? (inside.drop length)
        let after ← match after with
          | ':' :: format => readFormatted? isExpression raw n (level + 1) format
          | _ => some after
        match after with
        | '\x7d' :: more => readFormatted? isExpression raw n level more
        | _ => none

/-- Whether a quotation with expressions in braces is well formed. -/
def isWellFormed (isExpression : Text → Bool) (q : Quotation) : Bool :=
  (readFormatted? isExpression q.raw (q.body.length + 1) 0 q.body).isSome

end LiveIni.Quotation
