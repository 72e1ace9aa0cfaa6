import LiveIni.Expression.Formatted
import LiveIni.Expression.Lexeme
import LiveIni.Expression.Parse

/-!
The grammar of expressions. It is that of a general-purpose language, of which most elements
are refused later: displays, comprehensions, functions, attributes and subscripts are read and
then forgotten, except for what they are.

Each rule is a reader that reads the expressions inside it with a given reader `sub`. The
last definitions tie the rules together: a rule takes at least one word before it reads an
expression inside it, so that the depth of nesting is bounded by the length of the text.
-/

namespace LiveIni

/-- What has been read: its tree, and whether it has the form of something that can be
assigned to, as the variables of a comprehension must have.
-/
structure Phrase where
  tree : Expr
  assignable : Bool

/-- The rules that other rules read expressions with: a whole expression, one without a
condition at its outermost level, and an operand of a comparison.
-/
inductive Level where
  | expression | alternatives | operand
deriving DecidableEq, Repr

namespace Grammar

open Parse

/-- A phrase that cannot be assigned to. -/
def plain (tree : Expr) : Phrase :=
  ⟨tree, false⟩

/-- A phrase without a meaning that cannot be assigned to. -/
def refused (element : String) : Phrase :=
  plain (.refused element)

variable (sub : Level → Parse Phrase)

-----------------------------------------------------------------------------------------
-- Items of displays, calls and subscripts
-----------------------------------------------------------------------------------------

/-- An expression, or a name that is bound to one. -/
def named : Parse Phrase := do
  match ← get with
  | .name _ :: .symbol .bind :: rest =>
    set rest
    let _ ← sub .expression
    return refused "NamedExpr"
  | _ => sub .expression

/-- An item of a display, with a star or without; says whether it has one. -/
def starredOrNamed : Parse (Phrase × Bool) := do
  if ← skip? (.symbol .star) then return (← sub .operand, true)
  else return (← named sub, false)

/-- The variables of a comprehension. -/
def targets : Parse Unit := do
  let _ ← items do
    let _ ← skip? (.symbol .star)
    let target ← sub .operand
    guard target.assignable
  return ()

/-- One clause of a comprehension, if one begins here. -/
def clause? : Parse (Option Unit) := do
  match ← get with
  | .keyword .«for» :: rest | .keyword .async :: .keyword .«for» :: rest =>
    set rest
    targets sub
    expect (.keyword .«in»)
    let _ ← sub .alternatives
    let _ ← many do
      if ← skip? (.keyword .«if») then return some (← sub .alternatives) else return none
    return some ()
  | _ => return none

/-- The clauses of a comprehension; says whether there are any. -/
def clauses : Parse Bool := do
  return !(← many (clause? sub)).isEmpty

/-- The clauses of a comprehension where one is allowed; says whether there are any. -/
def clausesIf (allowed : Bool) : Parse Bool :=
  if allowed then clauses sub else pure false

/-- The expressions of a `yield`. -/
def yielded : Parse Phrase := do
  if ← skip? (.keyword .«from») then
    let _ ← sub .expression
    return refused "YieldFrom"
  else
    unless endsItems (← get) do
      let _ ← items do
        if ← skip? (.symbol .star) then sub .operand else sub .expression
    return refused "Yield"

/-- What follows an opening parenthesis: nothing, one item, or several. -/
def parenthesized : Parse Phrase := do
  if ← skip? (.symbol .closeParen) then return ⟨.refused "Tuple", true⟩
  else if ← skip? (.keyword .yield) then
    let phrase ← yielded sub
    symbol .closeParen
    return phrase
  else
    let (members, trailing) ← items (starredOrNamed sub)
    match members, trailing with
    | [(phrase, false)], false =>
      let comprehension ← clauses sub
      symbol .closeParen
      return if comprehension then refused "GeneratorExp" else phrase
    | [(_, true)], false => failure
    | _, _ =>
      symbol .closeParen
      return ⟨.refused "Tuple", members.all (·.1.assignable)⟩

/-- What follows an opening bracket of a list. -/
def listDisplay : Parse Phrase := do
  if ← skip? (.symbol .closeBracket) then return ⟨.refused "List", true⟩
  else
    let (members, trailing) ← items (starredOrNamed sub)
    let comprehension ← match members, trailing with
      | [(_, false)], false => clauses sub
      | _, _ => pure false
    symbol .closeBracket
    return if comprehension then refused "ListComp"
      else ⟨.refused "List", members.all (·.1.assignable)⟩

/-- An entry of a dictionary display; says whether it is a pair. -/
def entry : Parse Bool := do
  if ← skip? (.symbol .power) then
    let _ ← sub .operand
    return false
  else
    let _ ← sub .expression
    symbol .colon
    let _ ← sub .expression
    return true

/-- What follows an opening brace of a dictionary whose first entry has been read. -/
def restOfDict (isPair : Bool) : Parse Phrase := do
  if ← clausesIf sub isPair then
    symbol .closeBrace
    return refused "DictComp"
  else
    if ← skip? (.symbol .comma) then
      unless endsItems (← get) do
        let _ ← items (entry sub)
    symbol .closeBrace
    return refused "Dict"

/-- What follows an opening brace of a set whose first item has been read. -/
def restOfSet (starred : Bool) : Parse Phrase := do
  if ← clausesIf sub !starred then
    symbol .closeBrace
    return refused "SetComp"
  else
    if ← skip? (.symbol .comma) then
      unless endsItems (← get) do
        let _ ← items (starredOrNamed sub)
    symbol .closeBrace
    return refused "Set"

/-- What follows an opening brace. -/
def braceDisplay : Parse Phrase := do
  if ← skip? (.symbol .closeBrace) then return refused "Dict"
  else if (← peek) = some (.symbol .power) then
    let isPair ← entry sub
    restOfDict sub isPair
  else
    match ← get with
    | .name _ :: .symbol .bind :: _ =>
      let _ ← named sub
      restOfSet sub false
    | _ =>
      let (_, starred) ← starredOrNamed sub
      if starred then restOfSet sub true
      else if ← skip? (.symbol .colon) then
        let _ ← sub .expression
        restOfDict sub true
      else restOfSet sub false

/-- A part of a slice, which may be left out. -/
def sliceBound : Parse Unit := do
  let next ← peek
  unless next = some (.symbol .colon) || next = some (.symbol .comma) ||
      next = some (.symbol .closeBracket) do
    let _ ← sub .expression

/-- The bounds of a slice after its first colon. -/
def sliceRest : Parse Unit := do
  sliceBound sub
  if ← skip? (.symbol .colon) then sliceBound sub

/-- Whether a subscript ends before these words. A colon does not end it, but begins a slice. -/
def endsSubscript (tokens : List Token) : Bool :=
  tokens.head? = some (.symbol .closeBracket)

/-- An item of a subscript. -/
def subscriptItem : Parse Unit := do
  if ← skip? (.symbol .star) then
    let _ ← sub .expression
  else if ← skip? (.symbol .colon) then sliceRest sub
  else
    match ← get with
    | .name _ :: .symbol .bind :: _ =>
      let _ ← named sub
    | _ =>
      let _ ← sub .expression
      if ← skip? (.symbol .colon) then sliceRest sub

-----------------------------------------------------------------------------------------
-- Calls
-----------------------------------------------------------------------------------------

inductive Argument where
  | positional (e : Expr)
  | starred
  | keyword
  | doubleStarred
deriving Repr

/-- Whether the arguments of a call stand in order: none but keywords and starred ones after a
keyword, and only keywords and doubly starred ones after a doubly starred one.
-/
def argumentsInOrder : (keyword doubleStarred : Bool) → List Argument → Bool
  | _, _, [] => true
  | keyword, double, .positional _ :: rest =>
    !keyword && !double && argumentsInOrder keyword double rest
  | keyword, double, .starred :: rest => !double && argumentsInOrder keyword double rest
  | _, double, .keyword :: rest => argumentsInOrder true double rest
  | keyword, _, .doubleStarred :: rest => argumentsInOrder keyword true rest

def argument : Parse Argument := do
  if ← skip? (.symbol .star) then
    let _ ← sub .expression
    return .starred
  else if ← skip? (.symbol .power) then
    let _ ← sub .expression
    return .doubleStarred
  else
    match ← get with
    | .name _ :: .symbol .assign :: rest =>
      set rest
      let _ ← sub .expression
      return .keyword
    | _ => return .positional (← named sub).tree

/-- The operands of a call whose arguments are all positional or starred. -/
def operands? (args : List Argument) : Option (List Expr) :=
  args.mapM fun
    | .positional e => some e
    | .starred => some (.refused "Starred")
    | _ => none

/-- The arguments of a call after its opening parenthesis. There are no operands if keywords
occur. A comprehension can only be the sole argument.
-/
def arguments : Parse (Option (List Expr)) := do
  if ← skip? (.symbol .closeParen) then return some []
  else
    let (args, trailing) ← items (argument sub)
    let comprehension ← match args, trailing with
      | [.positional _], false => clauses sub
      | _, _ => pure false
    symbol .closeParen
    guard (argumentsInOrder false false args)
    return if comprehension then some [.refused "GeneratorExp"] else operands? args

-----------------------------------------------------------------------------------------
-- Functions
-----------------------------------------------------------------------------------------

/-- A parameter of a function, or one of the marks between parameters. -/
inductive Parameter where
  | plain | defaulted | slash | star | variadic | keywords
deriving DecidableEq, Repr

def Parameter.isOrdinary : Parameter → Bool
  | plain | defaulted => true
  | _ => false

/-- Whether parameters stand in order: ordinary ones, those with a default last, with at most
one slash among them and none before them; then a star with further parameters; then those
for all keywords.
-/
def parametersInOrder (params : List Parameter) : Bool :=
  let before := params.takeWhile fun p => p.isOrdinary || p = .slash
  let after := params.drop before.length
  let ordinary := before.filter (· ≠ .slash)
  let named := (after.drop 1).takeWhile (·.isOrdinary)
  let final := (after.drop 1).drop named.length
  let endsWell := final = [] || final = [.keywords]
  before.count .slash ≤ 1 && before.head? ≠ some .slash &&
    (ordinary.dropWhile (· = .plain)).all (· = .defaulted) &&
    match after.head? with
    | none => true
    | some .star => !named.isEmpty && endsWell
    | some .variadic => endsWell
    | _ => after = [.keywords]

def parameter : Parse Parameter := do
  if ← skip? (.symbol .slash) then return .slash
  else if ← skip? (.symbol .power) then
    let _ ← anyName
    return .keywords
  else if ← skip? (.symbol .star) then
    match ← peek with
    | some (.name _) =>
      let _ ← anyName
      return .variadic
    | _ => return .star
  else
    let _ ← anyName
    if ← skip? (.symbol .assign) then
      let _ ← sub .expression
      return .defaulted
    else return .plain

/-- What follows the keyword of a function. -/
def function : Parse Phrase := do
  unless (← peek) = some (.symbol .colon) do
    let (params, _) ← items (parameter sub)
    guard (parametersInOrder params)
  symbol .colon
  let _ ← sub .expression
  return refused "Lambda"

-----------------------------------------------------------------------------------------
-- Atoms and what follows them
-----------------------------------------------------------------------------------------

/-- Whether a text in parentheses is an expression. -/
def isExpression (t : Text) : Bool :=
  match Lexeme.tokens? ('(' :: t ++ [')']) with
  | some tokens => (sub .expression tokens).any (·.2.isEmpty)
  | none => false

/-- The text constant of the given codes. -/
def ofCodes (codes : List Nat) : Expr :=
  match Text.ofCodes? codes with
  | some t => .constant (.text t)
  | none => .surrogates

/-- The constant that adjoining quotations write. Bytes adjoin only bytes. -/
def quoted? (parts : List Quotation) : Option Expr := do
  if parts.any (·.sort = .bytes) then
    guard (parts.all (·.sort = .bytes))
    let bytes ← parts.mapM (·.decode?)
    return .refusedConstant (Quotation.shownBytes bytes.flatten)
  else
    let codes ← (parts.filter (·.sort = .text)).mapM (·.decode?)
    let formatted := parts.filter (·.sort = .formatted)
    guard (formatted.all fun q => q.isWellFormed (isExpression sub))
    return if formatted.isEmpty then ofCodes codes.flatten else .refused "JoinedStr"

/-- A constant as an expression. -/
def ofConstant : Constant → Expr
  | .value v => .constant v
  | .refused shown => .refusedConstant shown

/-- An expression that no operator joins. -/
def atom : Parse Phrase := do
  match ← get with
  | [] => failure
  | token :: rest =>
    set rest
    match token with
    | .name id => return ⟨.name id, true⟩
    | .keyword .true => return plain (.constant (.bool true))
    | .keyword .false => return plain (.constant (.bool false))
    | .keyword .none => return plain (.constant .null)
    | .number c => return plain (ofConstant c)
    | .quotation q =>
      let more ← many do
        match ← get with
        | .quotation r :: rest =>
          set rest
          return some r
        | _ => return none
      return plain (← (quoted? sub (q :: more) : Option Expr))
    | .symbol .ellipsis => return plain (.refusedConstant "Ellipsis".toList)
    | .symbol .openParen => parenthesized sub
    | .symbol .openBracket => listDisplay sub
    | .symbol .openBrace => braceDisplay sub
    | _ => failure

/-- What can follow an atom: an attribute, a subscript, or the arguments of a call. -/
inductive Trailer where
  | field
  | element
  | call (operands : Option (List Expr))
deriving Repr

/-- The phrase of an operand with one trailer. -/
def Trailer.after (base : Phrase) : Trailer → Phrase
  | field => ⟨.refused "Attribute", true⟩
  | element => ⟨.refused "Subscript", true⟩
  | call operands =>
    match base.tree, operands with
    | .name id, some args => plain (.call id args)
    | _, _ => plain .refusedCall

/-- A trailer, if one begins here. -/
def trailer? : Parse (Option Trailer) := do
  if ← skip? (.symbol .dot) then
    let _ ← anyName
    return some .field
  else if ← skip? (.symbol .openBracket) then
    let _ ← itemsUntil endsSubscript (subscriptItem sub)
    symbol .closeBracket
    return some .element
  else if ← skip? (.symbol .openParen) then return some (.call (← arguments sub))
  else return none

/-- An atom with its trailers, after an optional `await`. -/
def primary : Parse Phrase := do
  let awaited ← skip? (.keyword .await)
  let base ← atom sub
  let trailers ← many (trailer? sub)
  return if awaited then refused "Await" else trailers.foldl Trailer.after base

-----------------------------------------------------------------------------------------
-- Operators
-----------------------------------------------------------------------------------------

/-- A sign before an operand, if one begins here. -/
def sign? : Parse (Option UnaryOp) := do
  if ← skip? (.symbol .minus) then return some .negate
  else if ← skip? (.symbol .plus) then return some .affirm
  else if ← skip? (.symbol .tilde) then return some .invert
  else return none

/-- An operand with its signs. Powers bind tighter than the signs before them, and all of them
together are one refused operator.
-/
def factor : Parse Phrase := do
  let signs ← many sign?
  let base ← primary sub
  let powers ← many do
    if ← skip? (.symbol .power) then
      let _ ← many sign?
      return some (← primary sub)
    else return none
  let inner := if powers.isEmpty then base else plain (.refusedOperator "Pow")
  return if signs.isEmpty then inner else plain (signs.foldr Expr.unary inner.tree)

/-- A binary operator: one with a meaning, or the name of one without. -/
abbrev OperatorRule := Symbol × (Except String BinaryOp)

/-- The binary operators, from the loosest to the tightest; those of one rank are read from
left to right.
-/
def ranks : List (List OperatorRule) :=
  [[(.bar, .error "BitOr")], [(.caret, .error "BitXor")], [(.ampersand, .error "BitAnd")],
   [(.shiftLeft, .error "LShift"), (.shiftRight, .error "RShift")],
   [(.plus, .ok .add), (.minus, .ok .sub)],
   [(.star, .ok .mul), (.slash, .ok .div), (.doubleSlash, .ok .floorDiv), (.percent, .ok .mod),
    (.at, .error "MatMult")]]

/-- An operator of a rank, if one begins here. -/
def operator? (rank : List OperatorRule) : Parse (Option (Except String BinaryOp)) := do
  match ← get with
  | .symbol s :: rest =>
    match rank.lookup s with
    | some op =>
      set rest
      return some op
    | none => return none
  | _ => return none

def joined (left : Phrase) : Except String BinaryOp × Phrase → Phrase
  | (.ok op, right) => plain (.binary op left.tree right.tree)
  | (.error name, _) => plain (.refusedOperator name)

/-- Operands joined by the operators of the given ranks. -/
def binary : List (List OperatorRule) → Parse Phrase
  | [] => factor sub
  | rank :: tighter => do
    let first ← binary tighter
    let more ← many do
      match ← operator? rank with
      | some op => return some (op, ← binary tighter)
      | none => return none
    return more.foldl joined first

/-- The relation of a comparison symbol. -/
def relationOf? : Symbol → Option Comparison
  | .equal => some .eq
  | .notEqual => some .ne
  | .less => some .lt
  | .lessEqual => some .le
  | .greater => some .gt
  | .greaterEqual => some .ge
  | _ => none

/-- A relation, if one begins here. -/
def relation? : Parse (Option Relation) := do
  match ← get with
  | .keyword .is :: .keyword .not :: rest =>
    set rest
    return some (.refused "IsNot")
  | .keyword .is :: rest =>
    set rest
    return some (.refused "Is")
  | .keyword .not :: .keyword .«in» :: rest =>
    set rest
    return some (.refused "NotIn")
  | .keyword .«in» :: rest =>
    set rest
    return some (.refused "In")
  | .symbol s :: rest =>
    match relationOf? s with
    | some op =>
      set rest
      return some (.known op)
    | none => return none
  | _ => return none

def comparison : Parse Phrase := do
  let first ← binary sub ranks
  let links ← many do
    match ← relation? with
    | some relation => return some (relation, ← binary sub ranks)
    | none => return none
  return if links.isEmpty then first
    else plain (.compare first.tree (links.map (·.1)) (links.map (·.2.tree)))

/-- A comparison, with any number of `not` before it. -/
def inversion : Parse Phrase := do
  let nots ← many do
    if ← skip? (.keyword .not) then return some () else return none
  let inner ← comparison sub
  return if nots.isEmpty then inner
    else plain (nots.foldl (fun e _ => .unary .not e) inner.tree)

/-- Items joined by a connective. -/
def connected (op : Connective) (word : Keyword) (item : Parse Phrase) : Parse Phrase := do
  let first ← item
  let rest ← many do
    if ← skip? (.keyword word) then return some (← item) else return none
  return if rest.isEmpty then first else plain (.connect op first.tree (rest.map (·.tree)))

/-- Alternatives of conjunctions. -/
def alternatives : Parse Phrase :=
  connected .or .or (connected .and .and (inversion sub))

/-- A whole expression: a function, or alternatives with or without a condition. -/
def expression : Parse Phrase := do
  if ← skip? (.keyword .lambda) then function sub
  else
    let body ← alternatives sub
    if ← skip? (.keyword .«if») then
      let test ← alternatives sub
      expect (.keyword .«else»)
      let other ← sub .expression
      return plain (.conditional test.tree body.tree other.tree)
    else return body

-----------------------------------------------------------------------------------------
-- The rules together
-----------------------------------------------------------------------------------------

/-- The reader of a level, for expressions nested at most `depth` deep. -/
def phrase : (depth : Nat) → Level → Parse Phrase
  | 0, _ => failure
  | depth + 1, level =>
    match level with
    | .expression => expression (phrase depth)
    | .alternatives => alternatives (phrase depth)
    | .operand => binary (phrase depth) ranks

/-- One expression, or several with commas, which are a tuple. -/
def whole : Parse Phrase := do
  let (members, trailing) ← items (sub .expression)
  match members, trailing with
  | [single], false => return single
  | _, _ => return refused "Tuple"

end Grammar

/-- The expression that a text writes, if it is well formed. Quotations may name the characters
that have one of the given names.
-/
def Expr.parse? (names : Text → Option Char) (t : Text) : Option Expr := do
  let tokens := (← Lexeme.tokens? t).map (Token.spelled names)
  let (phrase, rest) ← Grammar.whole (Grammar.phrase (t.length + 2)) tokens
  if rest.all (· = .lineEnd) then some phrase.tree else none

end LiveIni
