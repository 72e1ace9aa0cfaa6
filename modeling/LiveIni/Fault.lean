import LiveIni.Text.Quoted
import LiveIni.Value.Arithmetic

/-!
What can go wrong when references and expressions are replaced by their values, and how
messages say it. Most faults are faults of evaluation; a few come from the limits of number
and text conversion, of reading expressions and of memory, and are of other kinds.
-/

namespace LiveIni

open Number

def Number.DecimalSignal.name : DecimalSignal → String
  | invalidOperation => "InvalidOperation"
  | divisionUndefined => "DivisionUndefined"
  | divisionImpossible => "DivisionImpossible"
  | divisionByZero => "DivisionByZero"
  | overflow => "Overflow"

def OperandFault.message : OperandFault → String
  | unsupported op left right =>
    "unsupported operand type(s) for " ++ op.symbol ++ ": '" ++ left ++ "' and '" ++ right ++ "'"
  | joinedWith type => "can only concatenate str (not \"" ++ type ++ "\") to str"
  | repeatedBy type => "can't multiply sequence by non-int of type '" ++ type ++ "'"
  | formatting => "String formatting is not supported"
  | repetitionTooLong => "String repetition result is too large"
  | repetitionCount => "cannot fit 'int' into an index-sized integer"
  | incomparable symbol left right =>
    "'" ++ symbol ++ "' not supported between instances of '" ++ left ++ "' and '" ++ right ++ "'"
  | zeroDivision message => message
  | integerTooLarge => "int too large to convert to float"
  | quotientTooLarge => "integer division result too large for a float"
  | decimal signal => "[<class 'decimal." ++ signal.name ++ "'>]"

/-- Why an expression is given up before it is known whether it is well formed. -/
inductive ReaderFailure where
  /-- There is too little memory, or too much of the expression inside itself. -/
  | memory
  /-- The tree is too deep to be built. -/
  | recursion
  /-- The text cannot be handed to the reader, for the given reason. -/
  | encoding (reason : Text)
deriving DecidableEq, Repr

def ReaderFailure.message : ReaderFailure → String
  | memory => ""
  | recursion => "maximum recursion depth exceeded during ast construction"
  | encoding reason => reason.string

/-- Why a text has no substituted form, or an expression no value. -/
inductive Fault where
  /-- A braced reference without a name or without an end, at an offset of the text. -/
  | malformedReference (offset : Nat) (rest : Text)
  /-- An expression without a closing parenthesis. -/
  | unterminated (rest : Text)
  /-- An expression outside of the grammar. -/
  | invalidExpression (source : Text)
  /-- An expression with more operands inside each other than evaluation can hold. -/
  | tooDeep (source : Text)
  /-- An expression with a null character in it. -/
  | nullCharacter
  /-- An expression that cannot be read to its end. -/
  | unread (failure : ReaderFailure)
  /-- A text constant with a lone surrogate. Such a text would be a value like any other, but
  has no place among lists of characters. -/
  | surrogates
  | unsupportedConstant (shown : Text)
  | unsupportedElement (name : String)
  | unsupportedOperator (name : String)
  | unsupportedComparison (name : String)
  /-- A call of anything but a name, or with keywords. -/
  | unplainCall
  | unknownOperation (name : Text)
  | notNegatable (v : Value)
  | operands (fault : OperandFault)
  /-- An operation that failed for a reason of its own. -/
  | operationFailed (name message : Text)
  /-- An operation that must not be invoked here. -/
  | refused (name : Text)
  /-- A reference that is bound to nothing, where every reference must be bound. -/
  | undefined (name : Text)
  /-- An integer with too many digits to be written. -/
  | digitLimit
  /-- A value whose text does not fit into memory. -/
  | outOfMemory
deriving DecidableEq, Repr

def digitLimitMessage : String :=
  "Exceeds the limit (4300 digits) for integer string conversion; " ++
    "use sys.set_int_max_str_digits() to increase the limit"

/-- The kinds of faults: those of evaluation, of which two have kinds of their own, those of
decimal arithmetic, and those of texts and values that cannot be read, converted or held.
-/
inductive FaultKind where
  | evaluation
  | operationRefused
  | undefinedReference
  | value
  | decimal (signal : DecimalSignal)
deriving DecidableEq, Repr

namespace Fault

def message : Fault → String
  | malformedReference offset rest =>
    "Malformed reference at offset " ++ toString offset ++ ": " ++ rest.quotedString
  | unterminated rest => "Unterminated sub-expression: " ++ rest.quotedString
  | invalidExpression source =>
    "Invalid sub-expression " ++ source.quotedString ++ ": invalid syntax"
  | tooDeep source => "Sub-expression too deeply nested: " ++ source.quotedString
  | nullCharacter => "source code string cannot contain null bytes"
  | unread failure => failure.message
  | surrogates => "lone surrogates are no characters"
  | unsupportedConstant shown => "Unsupported constant " ++ shown.string
  | unsupportedElement name => "Unsupported expression element: " ++ name
  | unsupportedOperator name => "Unsupported operator " ++ name
  | unsupportedComparison name => "Unsupported comparison " ++ name
  | unplainCall => "Only plain calls to named operations are supported"
  | unknownOperation name => "Unknown operation '" ++ name.string ++ "'"
  | notNegatable v => "Cannot negate " ++ v.shown.string
  | operands fault => fault.message
  | operationFailed name message =>
    "Operation '" ++ name.string ++ "' failed: " ++ message.string
  | refused name => "Operation '" ++ name.string ++ "' is not permitted here."
  | undefined name => "Reference '$" ++ name.string ++ "' is not bound."
  | digitLimit => digitLimitMessage
  | outOfMemory => ""

/-- The kind of a fault. A division of a decimal by zero is an evaluation fault like that of
other numbers, while the other refusals of decimal arithmetic are not.
-/
def kind : Fault → FaultKind
  | refused _ => .operationRefused
  | undefined _ => .undefinedReference
  | nullCharacter => .value
  | unread _ => .value
  | surrogates => .value
  | digitLimit => .value
  | outOfMemory => .value
  | operands (.decimal .divisionByZero) => .evaluation
  | operands (.decimal signal) => .decimal signal
  | _ => .evaluation

end Fault

end LiveIni
