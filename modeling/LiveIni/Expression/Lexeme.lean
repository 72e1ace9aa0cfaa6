import LiveIni.Expression.Numeral
import LiveIni.Expression.Quotation
import LiveIni.Text.Composition
import LiveIni.Text.Identifier
import LiveIni.Text.Lines

/-!
Cutting an expression into words. A text is first read as lexemes: words, and the blanks,
comments and line ends between them. A layout pass then drops what lies between words. Line
ends inside brackets, on empty lines and before the expression have no meaning; the
expression must begin at the start of its line.
-/

namespace LiveIni

/-- What can stand in the text of an expression. -/
inductive Lexeme where
  | token (t : Token)
  | space
  | formFeed
  | comment
  | joinedLine
  | lineEnd
  | malformed
deriving DecidableEq, Repr

namespace Lexeme

open Numeral (isWordPart)

/-- Whether a character can begin a word that is no number. -/
def isWordStart (c : Char) : Bool :=
  isWordPart c && !c.isDigit

/-- A word as a keyword or a name. Names are the same if their compatibility forms are. -/
def ofWord (word : Text) : Lexeme :=
  match Keyword.ofText? word with
  | some k => token (.keyword k)
  | none =>
    if word.all (·.toNat < 0x80) then token (.name word)
    else if Text.isIdentifier word then token (.name (Text.normalForm word))
    else malformed

/-- The lexeme of a word, or of a quotation that has the word as its letters; with the number
of characters of `rest` that belong to it after the word.
-/
def ofWordBefore (word rest : Text) : Lexeme × Nat :=
  match rest with
  | quote :: inside =>
    if quote = '\'' ∨ quote = '"' then
      match Quotation.ofLetters? word with
      | none => (ofWord word, 0)
      | some (sort, raw) =>
        match Quotation.readBody? quote inside with
        | none => (malformed, 0)
        | some (body, after) =>
          (token (.quotation ⟨sort, raw, body⟩), rest.length - after.length)
    else (ofWord word, 0)
  | [] => (ofWord word, 0)

/-- The symbol at the start of a text, and the number of its characters. -/
def symbolAt? (t : Text) : Option (Symbol × Nat) :=
  (Symbol.table.find? fun (spelling, _) => spelling.toList.isPrefixOf t).map
    fun (spelling, symbol) => (symbol, spelling.length)

/-- The lexeme that begins with `c`, and how many characters of `rest` belong to it. -/
def read (c : Char) (rest : Text) : Lexeme × Nat :=
  if c = ' ' ∨ c = '\t' then (space, 0)
  else if c = '\x0c' then (formFeed, 0)
  else if c = '\n' then (lineEnd, 0)
  else if c = '#' then (comment, (rest.takeWhile (· ≠ '\n')).length)
  else if c = '\\' then
    match rest with
    | '\n' :: _ :: _ => (joinedLine, 1)
    | _ => (malformed, 0)
  else if isWordStart c then
    let more := rest.takeWhile isWordPart
    let (lexeme, n) := ofWordBefore (c :: more) (rest.drop more.length)
    (lexeme, more.length + n)
  else if c = '\'' ∨ c = '"' then
    let (lexeme, n) := ofWordBefore [] (c :: rest)
    (lexeme, n - 1)
  else if c.isDigit ∨ (c = '.' ∧ rest.head?.any Char.isDigit) then
    match Numeral.read? (c :: rest) with
    | some (constant, after) => (token (.number constant), rest.length - after.length)
    | none => (malformed, 0)
  else
    match symbolAt? (c :: rest) with
    | some (symbol, n) => (token (.symbol symbol), n - 1)
    | none => (malformed, 0)

-----------------------------------------------------------------------------------------
-- Layout
-----------------------------------------------------------------------------------------

/-- The most brackets inside each other that are not refused. -/
def nestingLimit : Nat := 200

/-- The words of the lexemes from within `depth` brackets. Outside of brackets a line end is a
word. A closing bracket too many is left for the grammar to refuse.
-/
def tokensWithin : Nat → List Lexeme → Option (List Token)
  | _, [] => some []
  | depth, token t :: rest =>
    match t with
    | .symbol s =>
      if s.opens then
        if nestingLimit ≤ depth then none
        else (tokensWithin (depth + 1) rest).map (t :: ·)
      else (tokensWithin (if s.closes then depth - 1 else depth) rest).map (t :: ·)
    | _ => (tokensWithin depth rest).map (t :: ·)
  | depth, lineEnd :: rest =>
    if depth = 0 then (tokensWithin 0 rest).map (.lineEnd :: ·) else tokensWithin depth rest
  | _, malformed :: _ => none
  | depth, _ :: rest => tokensWithin depth rest

/-- The words of the lexemes before and after the first word. `column` counts the blanks since
the line began, and `joined` those before the first joined line, if there were any: they
decide whether the first word stands at the start of its line.
-/
def tokensFrom : (column joined : Nat) → List Lexeme → Option (List Token)
  | _, _, [] => some []
  | column, joined, space :: rest => tokensFrom (column + 1) joined rest
  | _, joined, formFeed :: rest => tokensFrom 0 joined rest
  | column, joined, joinedLine :: rest =>
    tokensFrom column (if joined = 0 then column else joined) rest
  | column, joined, comment :: rest => tokensFrom column joined rest
  | _, _, lineEnd :: rest => tokensFrom 0 0 rest
  | column, joined, lexemes =>
    if (if joined = 0 then column else joined) = 0 then tokensWithin 0 lexemes else none

/-- The words of an expression, or `none` if something in it is no word. -/
def tokens? (t : Text) : Option (List Token) :=
  tokensFrom 0 0 (Text.scan read (Text.withLineFeeds t))

end Lexeme

/-- A word without names of characters. -/
def Token.spelled (names : Text → Option Char) : Token → Token
  | quotation q => quotation (q.spelled names)
  | t => t

end LiveIni
