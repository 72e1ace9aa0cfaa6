import LiveIni.Value

/-!
The words of expressions: names, keywords, symbols, numbers and quotations. Only the keywords
and symbols that can occur in an expression have a meaning; the words that begin statements
are kept apart from names, because they can never stand for one.
-/

namespace LiveIni

/-- The reserved words. `statement` stands for all those that occur in statements only. -/
inductive Keyword where
  | false | true | none
  | and | or | not | is | «in»
  | «if» | «else» | «for» | «from»
  | async | await | lambda | yield
  | statement
deriving DecidableEq, Repr

/-- The spellings of the reserved words. -/
def Keyword.table : List (String × Keyword) :=
  [("False", .false), ("True", .true), ("None", .none),
   ("and", .and), ("or", .or), ("not", .not), ("is", .is), ("in", .«in»),
   ("if", .«if»), ("else", .«else»), ("for", .«for»), ("from", .«from»),
   ("async", .async), ("await", .await), ("lambda", .lambda), ("yield", .yield),
   ("as", .statement), ("assert", .statement), ("break", .statement),
   ("class", .statement), ("continue", .statement), ("def", .statement),
   ("del", .statement), ("elif", .statement), ("except", .statement),
   ("finally", .statement), ("global", .statement), ("import", .statement),
   ("nonlocal", .statement), ("pass", .statement), ("raise", .statement),
   ("return", .statement), ("try", .statement), ("while", .statement),
   ("with", .statement)]

/-- The keyword that a word is, if it is one. -/
def Keyword.ofText? (word : Text) : Option Keyword :=
  (table.find? fun (spelling, _) => spelling.toList = word).map Prod.snd

/-- The operators and delimiters. `other` stands for all those that no expression has. -/
inductive Symbol where
  | openParen | closeParen | openBracket | closeBracket | openBrace | closeBrace
  | comma | colon | dot | ellipsis | assign | bind
  | plus | minus | star | power | slash | doubleSlash | percent | at
  | bar | caret | ampersand | tilde | shiftLeft | shiftRight
  | equal | notEqual | less | lessEqual | greater | greaterEqual
  | other
deriving DecidableEq, Repr

/-- The spellings of the symbols. A spelling stands before every other one that begins it, so
that the first that fits is the longest.
-/
def Symbol.table : List (String × Symbol) :=
  [("...", .ellipsis), ("**=", .other), ("//=", .other), ("<<=", .other), (">>=", .other),
   ("**", .power), ("//", .doubleSlash), ("<<", .shiftLeft), (">>", .shiftRight),
   ("==", .equal), ("!=", .notEqual), ("<=", .lessEqual), (">=", .greaterEqual),
   (":=", .bind), ("->", .other), ("<>", .other), ("+=", .other), ("-=", .other),
   ("*=", .other), ("/=", .other), ("%=", .other), ("@=", .other), ("&=", .other),
   ("|=", .other), ("^=", .other),
   ("(", .openParen), (")", .closeParen), ("[", .openBracket), ("]", .closeBracket),
   ("\x7b", .openBrace), ("\x7d", .closeBrace), (",", .comma), (":", .colon), (".", .dot),
   ("=", .assign), ("+", .plus), ("-", .minus), ("*", .star), ("/", .slash),
   ("%", .percent), ("@", .at), ("|", .bar), ("^", .caret), ("&", .ampersand),
   ("~", .tilde), ("<", .less), (">", .greater)]

def Symbol.opens : Symbol → Bool
  | openParen | openBracket | openBrace => true
  | _ => false

def Symbol.closes : Symbol → Bool
  | closeParen | closeBracket | closeBrace => true
  | _ => false

/-- A constant: a value, or a constant that expressions cannot use, as messages show it. -/
inductive Constant where
  | value (v : Value)
  | refused (shown : Text)
deriving DecidableEq, Repr

/-- What a quotation quotes: text, bytes, or text with expressions in it. -/
inductive QuotationSort where
  | text | bytes | formatted
deriving DecidableEq, Repr

/-- A quotation: its sort, whether backslashes stand for themselves, and the characters
between its quotes.
-/
structure Quotation where
  sort : QuotationSort
  raw : Bool
  body : Text
deriving DecidableEq, Repr

/-- The words of an expression. A line end counts as a word where it ends the expression. -/
inductive Token where
  | name (id : Text)
  | keyword (k : Keyword)
  | symbol (s : Symbol)
  | number (c : Constant)
  | quotation (q : Quotation)
  | lineEnd
deriving DecidableEq, Repr

end LiveIni
