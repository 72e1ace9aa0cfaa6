import LiveIni.Expression.Evaluation

/-!
Substitution: replacing the references in a text by their values. A text is read once, from
left to right, as a sequence of pieces: literal characters, escapes, references `$name` and
`$\x7bname\x7d`, and expressions `$( … )`. What is put in is never read again. The pieces are
replaced in order, so that a malformed piece is a fault only once those before it have been
replaced.
-/

namespace LiveIni

/-- A piece of a text to be substituted. -/
inductive Piece where
  | literal (t : Text)
  | reference (name : Text)
  | expression (source : Text)
  | malformed (fault : Fault)
deriving DecidableEq, Repr

namespace Piece

/-- Whether a backslash before a character makes it literal. -/
def isEscapable (c : Char) : Bool :=
  ['$', ';', '#', '=', '\\'].contains c

def isNameStart (c : Char) : Bool :=
  c.isAlpha || c = '_'

def isNamePart (c : Char) : Bool :=
  c.isAlphanum || c = '_'

/-- The longest plain name at the start of a text; empty if there is none. -/
def plainName : Text → Text
  | [] => []
  | c :: rest => if isNameStart c then c :: rest.takeWhile isNamePart else []

/-- What names of environment variables begin with. -/
def environmentMark : Text := "env:".toList

/-- The longest name at the start of a text, of an environment variable if possible; empty if
there is none.
-/
def nameAt (t : Text) : Text :=
  match environmentMark.isPrefixOf? t with
  | some rest =>
    if (plainName rest).isEmpty then plainName t else environmentMark ++ plainName rest
  | none => plainName t

def isName (t : Text) : Bool :=
  !t.isEmpty && nameAt t = t

/-- The length of an expression up to the parenthesis that closes it, with `depth` more to be
closed before. Quotations hide parentheses, and a backslash in a quotation hides the character
after it.
-/
def expressionLength? : (depth : Nat) → (quote : Option Char) → Text → Option Nat
  | _, _, [] => none
  | depth, some q, c :: rest =>
    if c = '\\' then
      match rest with
      | [] => none
      | _ :: more => (expressionLength? depth (some q) more).map (· + 2)
    else
      (expressionLength? depth (if c = q then none else some q) rest).map (· + 1)
  | depth, none, c :: rest =>
    if c = '\'' ∨ c = '"' then (expressionLength? depth (some c) rest).map (· + 1)
    else if c = '(' then (expressionLength? (depth + 1) none rest).map (· + 1)
    else if c = ')' then
      match depth with
      | 0 => some 0
      | d + 1 => (expressionLength? d none rest).map (· + 1)
    else (expressionLength? depth none rest).map (· + 1)

/-- The piece after a dollar sign, which stands at `offset`, and the number of characters of
`rest` that belong to it. A dollar sign before nothing that can be referred to is literal.
-/
def afterDollar (offset : Nat) (rest : Text) : Piece × Nat :=
  match rest with
  | '(' :: inside =>
    match expressionLength? 0 none inside with
    | some n => (expression (inside.take n), n + 2)
    | none => (malformed (.unterminated ('$' :: rest)), rest.length)
  | '\x7b' :: inside =>
    match Text.cutAt? '\x7d' inside with
    | some (name, _) =>
      if isName name then (reference name, name.length + 2)
      else (malformed (.malformedReference offset ('$' :: rest)), rest.length)
    | none => (malformed (.malformedReference offset ('$' :: rest)), rest.length)
  | _ =>
    let name := nameAt rest
    if name.isEmpty then (literal ['$'], 0) else (reference name, name.length)

/-- The piece that begins with `c` in a text of `total` characters. -/
def read (total : Nat) (c : Char) (rest : Text) : Piece × Nat :=
  if c = '\\' then
    match rest with
    | d :: _ => if isEscapable d then (literal [d], 1) else (literal [c], 0)
    | [] => (literal [c], 0)
  else if c = '$' then afterDollar (total - (rest.length + 1)) rest
  else (literal [c], 0)

def ofText (t : Text) : List Piece :=
  Text.scan (read t.length) t

end Piece

namespace Scope

def replace (scope : Scope) : Piece → Run Text
  | .literal t => pure t
  | .reference name => do scope.render (← scope.lookup name)
  | .expression source => do scope.render (← scope.evaluate source)
  | .malformed fault => throw fault

/-- A text with its references and expressions replaced by their values. -/
def substitute (scope : Scope) (t : Text) : Run Text := do
  return (← (Piece.ofText t).mapM scope.replace).flatten

end Scope

end LiveIni
